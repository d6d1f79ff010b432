import QueryDesigner.Sql.Function
import QueryDesigner.Sql.Parser.Alias

/-!
# Orders and windows

* `Grammar.orderItems` — the entries of an ORDER BY list;
* `Grammar.windowOf` — the description of a window;
* `Grammar.overClause` — what may follow a call: an order, a condition, a window.
-/

namespace QueryDesigner
namespace Sql

open QueryDesigner.Sql.Parser

/-! ## Orders -/

namespace Grammar

variable (g : Grammar)

/-- The direction of an entry: `DESC` may even follow `ASC`. -/
def direction? : Parser (Option Bool) := do
  let ascending ← accepts "ASC"
  if (← accepts "DESC") then return some true
  else return if ascending then some false else none

/-- Whether the nulls of an entry are moved to the end where they do not stand anyway. -/
def movesNulls (isDescending : Bool) : Parser Bool := do
  if (← acceptAll ["NULLS", "FIRST"]) then return isDescending
  else if (← acceptAll ["NULLS", "LAST"]) then return !isDescending
  else return false

/-- An entry of an ORDER BY list. -/
def orderItem : Parser (Option OrderItem) := do
  match ← g.assignment with
  | none => return none
  | some e =>
    let direction ← direction?
    return some ⟨e, direction, ← movesNulls (direction = some true)⟩

/-- The entries of an ORDER BY list, of which there has to be one. -/
def orderItems : Parser (List OrderItem) := do
  let items ← commaList g.orderItem
  if items.isEmpty then refuse else return items

/-- An ORDER BY clause, if there is one. -/
def order? : Parser (List OrderItem) := do
  if (← accepts "ORDER BY") then g.orderItems else return []

/-! ## Windows -/

/-- An end of the frame of a window. -/
def frameEnd : Parser Expr := do
  let value ←
    if (← accepts "UNBOUNDED") then pure (Expr.marker "UNBOUNDED")
    else if (← acceptAll ["CURRENT", "ROW"]) then pure (Expr.marker "CURRENT ROW")
    else require g.bitwise
  match ← acceptOne? ["PRECEDING", "FOLLOWING"] with
  | some side => return .form ["", " " ++ side.text] [value]
  | none => return value

/-- The rows that a frame leaves out, which are not written. -/
def exclusion : Parser Unit := do
  if (← accepts "EXCLUDE") then
    if (← acceptAll ["NO", "OTHERS"]) then return ()
    else if (← acceptAll ["CURRENT", "ROW"]) then return ()
    else if (← acceptOne? ["GROUP", "TIES"]).isSome then return ()
    else refuse
  else return ()

/-- The frame of a window, if it has one. -/
def frame? : Parser (Option Expr) := do
  match ← acceptOne? ["ROWS", "RANGE", "GROUPS"] with
  | none => return none
  | some kind =>
    let _ ← accept? "BETWEEN"
    let low ← g.frameEnd
    let high ← if (← accepts "AND") then g.frameEnd else pure (Expr.marker "CURRENT ROW")
    exclusion
    return some (.form [kind.text ++ " BETWEEN ", " AND ", ""] [low, high])

/-- The name that a window builds on. -/
def windowName? : Parser (Option Ident) := do
  return (← takeIf? (isNameToken ["ROWS", "RANGE", "GROUPS"])).map identOf

/-- The description of a window, after its opening parenthesis. -/
def windowOf (call : Expr) : Parser Expr := do
  let name ← windowName?
  let parts ← if (← accepts "PARTITION BY") then exprList g.assignment else pure []
  let order ← g.order?
  let frame ← g.frame?
  let close ← expect ")"
  return (Expr.window call name parts order frame).withComments close.comments

/-! ## What may follow a call -/

/-- An expression with what is said about its nulls. -/
def withNulls (e : Expr) : Parser Expr := do
  if (← acceptAll ["IGNORE", "NULLS"]) then return .form ["", " IGNORE NULLS"] [e]
  else if (← acceptAll ["RESPECT", "NULLS"]) then return .form ["", " RESPECT NULLS"] [e]
  else return e

/-- What is said about the nulls of an argument, and the argument without it. -/
def nullsOf? : Expr → Option (String × Expr)
  | .form ["", " IGNORE NULLS"] [e] => some (" IGNORE NULLS", e)
  | .form ["", " RESPECT NULLS"] [e] => some (" RESPECT NULLS", e)
  | .ordered e order => (nullsOf? e).map fun (words, e) => (words, .ordered e order)
  | _ => none

/-- What is said about the nulls of the first argument of an aggregate belongs to the call. -/
def nullsOutside (call : Expr) : Expr :=
  match call with
  | .call name (first :: others) =>
    match if aggregates.contains name.text then nullsOf? first else none with
    | some (words, first) => .form ["", words] [.call name (first :: others)]
    | none => call
  | _ => call

/-- The order of the values that a call takes. -/
def withinGroup (call : Expr) : Parser Expr := do
  if (← acceptAll ["WITHIN", "GROUP"]) then
    let _ ← expect "("
    let order ← g.order?
    let _ ← expect ")"
    let group := if order.isEmpty then [] else [Expr.sorted "ORDER BY" order]
    return .form (if group.isEmpty then ["", " WITHIN GROUP ()"] else ["", " WITHIN GROUP (", ")"])
      (call :: group)
  else return call

/-- The condition on the rows that a call counts. -/
def filterClause (call : Expr) : Parser Expr := do
  if (← acceptAll ["FILTER", "("]) then
    let _ ← accept? "WHERE"
    let condition ← require g.disjunction
    let _ ← expect ")"
    return .filtered call condition
  else return call

/-- The windows of a call, in at most the given number of steps. -/
def windowsFrom : Nat → Expr → Parser Expr
  | 0, call => return call
  | steps + 1, call => do
    if (← accepts "OVER") then
      if (← accepts "(") then windowsFrom steps (← g.windowOf call)
      else
        let name ← require name?
        return .namedWindow call name
    else return call

/-- A call with what may follow it. -/
def overClause (call : Expr) : Parser Expr := do
  let call ← g.withinGroup call
  let call ← g.filterClause call
  let call ← withNulls (nullsOutside call)
  g.windowsFrom (← get).length call

end Grammar

end Sql
end QueryDesigner
