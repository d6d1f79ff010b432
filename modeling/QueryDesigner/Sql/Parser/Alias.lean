import QueryDesigner.Sql.Parser.Paging

/-!
# Other names for expressions

* `aliasedWith` — an expression under another name;
* `Grammar.withAlias` — an expression with the name after it, if there is one.
-/

namespace QueryDesigner
namespace Sql

open QueryDesigner.Sql.Parser

/-- Another name for an expression.  Comments of the expression move behind it. -/
def aliasedWith (e : Expr) (name : Ident) (comments : List String) : Expr :=
  match comments, e with
  | [], .commented false inner e => (Expr.aliased e name).withComments inner
  | comments, e => (Expr.aliased e name).withComments comments

/-- Several names for the parts of an expression. -/
def aliasedParts (e : Expr) (names : List Ident) : Expr :=
  .form ("" :: " AS (" :: List.replicate (names.length - 1) ", " ++ [")"])
    (e :: names.map (Expr.column []))

namespace Grammar

variable (g : Grammar)

/-- An expression with the name after it, if there is one.  Where a LIMIT or OFFSET clause can be
read there is none.  On request the name needs an `AS` before it. -/
def withAlias (needsAs : Bool) (e : Expr) : Parser Expr := do
  if (← g.atPaging) then return e
  else
    let as ← accept? "AS"
    if needsAs && as.isNone then return e
    else if (← accepts "(") then
      let names ← commaList do return (← nameAfter? [] as.isSome).map identOf
      let _ ← expect ")"
      if names.isEmpty then refuse else return aliasedParts e names
    else
      match ← nameAfter? [] as.isSome with
      | none => return e
      | some name =>
        return aliasedWith e (identOf name) ((as.map Token.comments).getD [] ++ name.comments)

end Grammar

end Sql
end QueryDesigner
