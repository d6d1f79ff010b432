import QueryDesigner.Decompile.Statement
import QueryDesigner.Sql.Comparison

/-!
# Round trips

A query is compiled, read back against its own catalog and compiled again.

* `RoundTrip.Difference` — what may differ: the two statements, or what the reader left out;
* `RoundTrip` — the two statements and their differences;
* `Canvas.roundTrip` — the round trip of a query.
-/

namespace QueryDesigner

namespace RoundTrip

inductive Difference where
  | statement (difference : Sql.Difference)
  | leftOut (warning : Warning)
  deriving DecidableEq, Repr

def Difference.message : Difference → String
  | statement difference => difference.message
  | leftOut warning => warning.message

end RoundTrip

/-- The outcome of a round trip. -/
structure RoundTrip where
  isEquivalent : Bool
  original : String
  regenerated : String
  differences : List RoundTrip.Difference := []
  deriving DecidableEq, Repr

namespace RoundTrip

/-- The outcome for two statements, of which the second comes from what was read of the first.
Equal texts need no comparison, and what was left out then counts for nothing. -/
def ofTexts (original regenerated : String) (warnings : List Warning) : RoundTrip :=
  if original = regenerated then { isEquivalent := true, original, regenerated }
  else
    let comparison := Sql.compare original regenerated
    { isEquivalent := comparison.isEquivalent
      original
      regenerated
      differences :=
        comparison.differences.map Difference.statement ++ warnings.map Difference.leftOut }

end RoundTrip

/-- Compiles a query, reads the statement back and compiles what was read. -/
def Canvas.roundTrip (c : Canvas) : Except Failure RoundTrip :=
  let original := c.query.compile
  (decompile original c.catalog).map fun d =>
    .ofTexts original d.canvas.query.compile d.warnings

end QueryDesigner
