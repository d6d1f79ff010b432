/-!
# Blank characters

What counts as blank in names, values and statements, and what is done with blanks.

* `isBlank` — Unicode white space together with the four information separators;
* `trim`, `trimStart`, `trimEnd` — text without the blanks at its ends;
* `words` — the maximal blank-free pieces of a text;
* `squeeze` — text in which every run of blanks is one space.
-/

namespace QueryDesigner
namespace Text

/-- White space proper: the characters with the Unicode property `White_Space`. -/
def isWhiteSpace (c : Char) : Bool :=
  let n := c.toNat
  (9 ≤ n && n ≤ 13) || n == 0x20 || n == 0x85 || n == 0xA0 || n == 0x1680 ||
    (0x2000 ≤ n && n ≤ 0x200A) || n == 0x2028 || n == 0x2029 || n == 0x202F || n == 0x205F ||
    n == 0x3000

/-- A blank is white space or one of the information separators U+001C to U+001F. -/
def isBlank (c : Char) : Bool :=
  isWhiteSpace c || (0x1C ≤ c.toNat && c.toNat ≤ 0x1F)

/-- The characters without leading blanks. -/
def dropBlanks (cs : List Char) : List Char := cs.dropWhile isBlank

/-- The characters without trailing blanks. -/
def dropBlanksEnd (cs : List Char) : List Char := (cs.reverse.dropWhile isBlank).reverse

/-- The characters without blanks at either end. -/
def trimChars (cs : List Char) : List Char := dropBlanksEnd (dropBlanks cs)

def trim (s : String) : String := String.ofList (trimChars s.toList)

/-- Every run of blanks becomes one space. -/
def squeezeChars : List Char → List Char
  | [] => []
  | c :: rest =>
    if isBlank c then
      match rest with
      | [] => [' ']
      | d :: _ => if isBlank d then squeezeChars rest else ' ' :: squeezeChars rest
    else c :: squeezeChars rest

/-- The maximal blank-free pieces, given the piece read so far in reverse. -/
def wordsFrom (piece : List Char) : List Char → List (List Char)
  | [] => if piece.isEmpty then [] else [piece.reverse]
  | c :: rest =>
    if isBlank c then
      if piece.isEmpty then wordsFrom [] rest else piece.reverse :: wordsFrom [] rest
    else wordsFrom (c :: piece) rest

/-- The maximal blank-free pieces of a text, in order. -/
def words (s : String) : List String := (wordsFrom [] s.toList).map String.ofList

/-- A text on one line: trimmed, with single spaces between its words. -/
def squeeze (s : String) : String := String.ofList (trimChars (squeezeChars s.toList))

theorem isBlank_of_isWhiteSpace {c : Char} (h : isWhiteSpace c = true) : isBlank c = true := by
  simp [isBlank, h]

end Text
end QueryDesigner
