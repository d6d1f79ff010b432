import QueryDesigner.Text.WordChar.Table

/-!
# Word characters

* `isLetter` — characters that a name may start with, besides the underscore;
* `isWordChar` — letters, digits and numerals of any script, and the underscore;
* `isBoundary` — whether a word starts or ends between two neighbouring characters.
-/

namespace QueryDesigner
namespace Text

/-- Whether a code point lies in one of the closed ranges. -/
def inRanges (ranges : List (Nat × Nat)) (n : Nat) : Bool :=
  ranges.any fun (lo, hi) => lo ≤ n && n ≤ hi

def isLetter (c : Char) : Bool :=
  let n := c.toNat
  if n < 128 then (65 ≤ n && n ≤ 90) || (97 ≤ n && n ≤ 122) else inRanges letterRanges n

def isWordChar (c : Char) : Bool :=
  let n := c.toNat
  if n < 128 then c == '_' || isLetter c || (48 ≤ n && n ≤ 57)
  else inRanges letterRanges n || inRanges numeralRanges n

/-- A word starts or ends between two characters of which exactly one is a word character; the
outside of the text counts as no word character. -/
def isBoundary (before after : Option Char) : Bool :=
  (before.map isWordChar).getD false != (after.map isWordChar).getD false

end Text
end QueryDesigner
