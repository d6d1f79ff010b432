import QueryDesigner.Sql.Parser.Basic
import QueryDesigner.Sql.Name

/-!
# Types after `AS` and before constants

* `typeParams?` — what stands in parentheses after the word for a type;
* `typeName?` — a type;
* `typeBeforeText?` — a type with a constant after it.
-/

namespace QueryDesigner
namespace Sql
namespace Parser

/-! ## Parameters -/

/-- The text of a token among the parameters of a type. -/
def paramText (t : Token) : String :=
  match t.kind with
  | .text => (Literal.text t.text).sql
  | .word => t.keyword
  | _ => t.text

/-- A parameter of a type: a number, a text or a word, and a word that may follow it. -/
def typeParam? : Parser (Option String) := do
  match ← takeIf? fun t => [.number, .text, .word].contains t.kind with
  | none => return none
  | some t =>
    match ← takeIf? fun t => t.kind == .word with
    | none => return some (paramText t)
    | some unit => return some (paramText t ++ " " ++ unit.text)

/-- The parameters of a type, in parentheses.  There has to be one. -/
def typeParams : Parser (List String) := do
  if (← accepts "(") then
    let params ← commaList typeParam?
    let _ ← expect ")"
    if params.isEmpty then refuse else return params
  else return []

/-! ## Words after a type -/

/-- Types that may say what zone their times are in. -/
def zonedTypes : List String :=
  ["TIME", "TIMETZ", "TIMESTAMP", "TIMESTAMPTZ", "TIMESTAMPLTZ", "TIMESTAMPNTZ"]

/-- A type with the zone that it may name. -/
def zoned (type : TypeName) : Parser TypeName := do
  match type with
  | .named name params false =>
    if zonedTypes.contains name then
      if (← acceptAll ["WITH", "TIME", "ZONE"]) then
        let zonedName := if name = "TIME" ∨ name = "TIMETZ" then "TIMETZ" else "TIMESTAMPTZ"
        return .named zonedName params false
      else if (← acceptAll ["WITH", "LOCAL", "TIME", "ZONE"]) then
        return .named "TIMESTAMPLTZ" params false
      else if (← acceptAll ["WITHOUT", "TIME", "ZONE"]) then return type
      else return type
    else return type
  | type => return type

/-- A type with the word that takes away its sign. -/
def signed (type : TypeName) : Parser TypeName := do
  if (← accepts "UNSIGNED") then
    match type.unsigned? with
    | some type => return type
    | none => refuse
  else return type

/-- Brackets after a type, with a size or without one. -/
def brackets? : Parser (Option Unit) := do
  if (← accepts "[") then
    let _ ← takeKind? .number
    let _ ← accept? "]"
    return some ()
  else return none

/-- A type as the type of the items of arrays. -/
def arrays (type : TypeName) : Parser TypeName := do
  let type := if (← accepts "ARRAY") then TypeName.array type else type
  return (← repeated brackets?).foldl (fun type _ => .array type) type

/-- A type. -/
def typeName? : Parser (Option TypeName) := attempt do
  match ← takeIf? fun t => (typeWords.lookup t.keyword).isSome with
  | none => return none
  | some word =>
    let params ← typeParams
    return some (← arrays (← signed (← zoned (.ofWord word.keyword params))))

/-- A type before a constant.  Parameters may stand only before a text. -/
def typeBeforeText? : Parser (Option TypeName) := attempt do
  let tokens ← get
  match ← typeName? with
  | none => return none
  | some type =>
    let hasParams := (tokens[1]?.map fun t => t.is "(").getD false
    let next ← current?
    if hasParams && !(next.any fun t => t.kind == .text) then refuse else return some type

end Parser
end Sql
end QueryDesigner
