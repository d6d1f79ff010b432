import QueryDesigner.Sql.Feature
import QueryDesigner.Sql.Adaptation

/-!
# Comparing statements

* `ClauseKind` — the clauses that are compared one by one;
* `Difference` — what is told apart, with its wording;
* `areEquivalent` — whether two texts differ in blanks, letter case and comments only;
* `Comparison`, `compare` — the outcome for two texts.
-/

namespace QueryDesigner
namespace Sql

/-! ## Clauses -/

inductive ClauseKind where
  | source
  | condition
  | grouping
  | order
  | limit
  | offset
  deriving DecidableEq, Repr

namespace ClauseKind

def text : ClauseKind → String
  | source => "FROM clause"
  | condition => "WHERE clause"
  | grouping => "GROUP BY clause"
  | order => "ORDER BY clause"
  | limit => "LIMIT clause"
  | offset => "OFFSET clause"

/-- All kinds, in the order in which they are compared. -/
def all : List ClauseKind := [source, condition, grouping, order, limit, offset]

end ClauseKind

def Clause.kind : Clause → ClauseKind
  | source .. => .source
  | condition .. => .condition
  | grouping .. => .grouping
  | order .. => .order
  | limit _ => .limit
  | offset _ => .offset

/-- A clause as it is. -/
def Clause.write (s : Style) : Clause → String
  | source t comments => s.before comments ("FROM " ++ t.write s)
  | condition e comments => s.before comments ("WHERE " ++ e.write s)
  | grouping g comments => s.before comments (g.write s)
  | order items comments => s.before comments ("ORDER BY " ++ commaText (itemTexts s items))
  | limit l => l.write s ""
  | offset o => o.write s

/-- The outermost clause of a kind. -/
def outermostClause? (kind : ClauseKind) (nodes : List (Nat × Node)) : Option Clause :=
  outermost? (fun node =>
    match node with
    | .clause c => if c.kind = kind then some c else none
    | _ => none) nodes

/-! ## Differences -/

inductive Difference where
  /-- One of the texts cannot be read. -/
  | unreadable
  | columnCount (first second : Nat)
  | joinCount (first second : Nat)
  | presence (kind : ClauseKind)
  | clause (kind : ClauseKind)
  /-- Something else differs. -/
  | other
  deriving DecidableEq, Repr

def Difference.message : Difference → String
  | unreadable => "Parse error"
  | columnCount a b => "SELECT column count differs: " ++ toString a ++ " vs " ++ toString b
  | joinCount a b => "JOIN count differs: " ++ toString a ++ " vs " ++ toString b
  | presence kind => kind.text ++ " presence differs"
  | clause kind => kind.text ++ " differs"
  | other => "SQL statements differ"

/-- The differences in the lengths of the SELECT lists and of the lists of joins. -/
def countDifferences (first second : List (Nat × Node)) : List Difference :=
  match mainSelect? first, mainSelect? second with
  | some a, some b =>
    (if a.items.length = b.items.length then []
      else [.columnCount a.items.length b.items.length]) ++
    (if a.tail.joins.length = b.tail.joins.length then []
      else [.joinCount a.tail.joins.length b.tail.joins.length])
  | _, _ => []

/-- The difference in a clause that may be missing on either side. -/
def clauseDifference? (kind : ClauseKind) (first second : List (Nat × Node)) :
    Option Difference :=
  match outermostClause? kind first, outermostClause? kind second with
  | none, none => none
  | some a, some b => if a.write .clause = b.write .clause then none else some (.clause kind)
  | _, _ => some (.presence kind)

/-- What two statements differ in. -/
def differencesOf (first second : List Statement) : List Difference :=
  let a := scriptNodes first
  let b := scriptNodes second
  match countDifferences a b ++ ClauseKind.all.filterMap fun kind => clauseDifference? kind a b with
  | [] => [.other]
  | differences => differences

/-! ## Equivalence -/

/-- Two statements are equivalent if they agree up to comments and directions that go without
saying, or if their texts agree when letter case is ignored. -/
def areEquivalent (first second : List Statement) : Bool :=
  scriptText .essential first == scriptText .essential second ||
    Text.sameLetters (scriptText .folded first) (scriptText .folded second)

/-- The outcome of a comparison: the differences, and both texts written alike, unless one of them
cannot be read. -/
structure Comparison where
  isEquivalent : Bool
  differences : List Difference
  first : Option String
  second : Option String
  deriving DecidableEq, Repr

def compare (first second : String) : Comparison :=
  match script? first, script? second with
  | some a, some b =>
    let equivalent := areEquivalent a b
    ⟨equivalent, if equivalent then [] else differencesOf a b, some (scriptText .folded a),
      some (scriptText .folded b)⟩
  | _, _ => ⟨false, [.unreadable], none, none⟩

end Sql
end QueryDesigner
