import QueryDesigner.Text.Blank
import QueryDesigner.Text.Digit
import QueryDesigner.Text.WordChar

/-!
# Text with literals set apart

While a statement is laid out, its quoted literals stand as single glyphs, so that nothing inside
them is touched.

* `Glyph` — a character, or the literal with some number;
* `quotedEnd?` — where a quoted literal ends;
* `protect` — a text as glyphs, and its literals;
* `spell`, `restore?` — glyphs as characters, and the literals put back.

A literal is spelled as its number between two null characters.  A text that holds such a spelling
itself cannot be told from a literal.
-/

namespace QueryDesigner
namespace Layout

inductive Glyph where
  | char (c : Char)
  | literal (index : Nat)
  deriving DecidableEq, Repr

namespace Glyph

def isBlank : Glyph → Bool
  | char c => Text.isBlank c
  | literal _ => false

def isWord : Glyph → Bool
  | char c => Text.isWordChar c
  | literal _ => false

/-- The characters that spell a glyph. -/
def spell : Glyph → List Char
  | char c => [c]
  | literal index => '\x00' :: (toString index).toList ++ ['\x00']

end Glyph

/-- The glyphs of a text without literals. -/
def glyphs (s : String) : List Glyph := s.toList.map .char

/-! ## Literals -/

/-- The characters up to the end of a literal whose opening quote has been read, and what follows.
A quote inside is written twice.  Where no single quote closes the literal, the first quote of the
last pair does. -/
def quotedEnd? (quote : Char) : List Char → Option (List Char × List Char)
  | [] => none
  | c :: rest =>
    if c = quote then
      match rest with
      | [] => some ([c], [])
      | d :: rest' =>
        if d = quote then
          match quotedEnd? quote rest' with
          | some (text, after) => some (c :: d :: text, after)
          | none => some ([c], d :: rest')
        else some ([c], d :: rest')
    else (quotedEnd? quote rest).map fun (text, after) => (c :: text, after)

/-- The characters up to the next backquote, and what follows. -/
def nameEnd? : List Char → Option (List Char × List Char)
  | [] => none
  | c :: rest =>
    if c = '`' then some ([c], rest)
    else (nameEnd? rest).map fun (text, after) => (c :: text, after)

/-- The literal that a text starts with, and what follows it. -/
def literal? : List Char → Option (List Char × List Char)
  | [] => none
  | c :: rest =>
    let ending :=
      if c = '`' then nameEnd? rest
      else if c = '\'' ∨ c = '"' then quotedEnd? c rest
      else none
    ending.map fun (text, after) => (c :: text, after)

/-- The glyphs of a text and its literals, the first of them numbered `index`, in at most the given
number of steps. -/
def protectFrom (index : Nat) : Nat → List Char → List Glyph × List (List Char)
  | _, [] => ([], [])
  | 0, _ :: _ => ([], [])
  | steps + 1, c :: rest =>
    match literal? (c :: rest) with
    | some (text, after) =>
      let (gs, literals) := protectFrom (index + 1) steps after
      (.literal index :: gs, text :: literals)
    | none =>
      let (gs, literals) := protectFrom index steps rest
      (.char c :: gs, literals)

/-- The glyphs of a text and its literals.  Each step takes at least one character. -/
def protect (cs : List Char) : List Glyph × List (List Char) := protectFrom 0 cs.length cs

/-! ## Putting literals back -/

def spell (gs : List Glyph) : List Char := gs.flatMap Glyph.spell

/-- The number between two null characters at the start of a text, and what follows it. -/
def mark? : List Char → Option (Nat × List Char)
  | '\x00' :: rest =>
    match rest.takeWhile Text.isDecimal, rest.dropWhile Text.isDecimal with
    | d :: ds, '\x00' :: after => some (Text.decimalNumber (d :: ds), after)
    | _, _ => none
  | _ => none

/-- The text with literals in place of their marks, in at most the given number of steps.  There is
none if a mark belongs to no literal. -/
def restoreFrom? (literals : List (List Char)) : Nat → List Char → Option (List Char)
  | _, [] => some []
  | 0, _ :: _ => some []
  | steps + 1, c :: rest =>
    match mark? (c :: rest) with
    | some (index, after) =>
      match literals[index]? with
      | some text => (restoreFrom? literals steps after).map (text ++ ·)
      | none => none
    | none => (restoreFrom? literals steps rest).map (c :: ·)

def restore? (literals : List (List Char)) (cs : List Char) : Option (List Char) :=
  restoreFrom? literals cs.length cs

end Layout
end QueryDesigner
