import QueryDesigner.Text.Blank
import QueryDesigner.Text.Digit

/-!
# Numerals in text

* `isNumeral` — whether a text reads as a decimal number: optional sign, digits with an optional
  point, optional exponent;
* `readInteger?` — the integer a person typed: blanks around it, a sign, single underscores between
  digits, digits of any script;
* `readPlainInteger?` — the integer a data field holds as text: ASCII digits, and zeros after a
  point count for nothing;
* `isRadixNumeral` — whether a text reads as a whole number in a base that is announced by a letter.
-/

namespace QueryDesigner
namespace Text

/-- The characters after an optional sign. -/
def dropSign : List Char → List Char
  | '+' :: rest => rest
  | '-' :: rest => rest
  | cs => cs

/-- Whether nothing is left but an optional final line break. -/
def isAtEnd (cs : List Char) : Bool := cs == [] || cs == ['\n']

/-- Whether the rest of a numeral after its mantissa is an optional exponent and the end. -/
def isExponentTail : List Char → Bool
  | c :: rest =>
    if c = 'e' ∨ c = 'E' then
      let digits := dropSign rest
      !(digits.takeWhile isDecimal).isEmpty && isAtEnd (digits.dropWhile isDecimal)
    else isAtEnd (c :: rest)
  | [] => true

/-- Whether characters without a sign form a mantissa, an optional exponent and the end. -/
def isUnsignedNumeral (cs : List Char) : Bool :=
  let whole := cs.takeWhile isDecimal
  match whole, cs.dropWhile isDecimal with
  | [], '.' :: rest =>
    !(rest.takeWhile isDecimal).isEmpty && isExponentTail (rest.dropWhile isDecimal)
  | [], _ => false
  | _ :: _, '.' :: rest => isExponentTail (rest.dropWhile isDecimal)
  | _ :: _, rest => isExponentTail rest

/-- Whether a text reads as a decimal number.  A line break at the very end does not count. -/
def isNumeral (s : String) : Bool := isUnsignedNumeral (dropSign s.toList)

/-- Digits in which single underscores may stand between two digits: the digits alone, or nothing
if the text is not of that form. -/
def joinedDigits? (digit : Char → Bool) : List Char → Option (List Char)
  | [] => none
  | [c] => if digit c then some [c] else none
  | c :: '_' :: rest => if digit c then (joinedDigits? digit rest).map (c :: ·) else none
  | c :: rest => if digit c then (joinedDigits? digit rest).map (c :: ·) else none

/-- Whether the text starts with a minus sign. -/
def isNegated : List Char → Bool
  | '-' :: _ => true
  | _ => false

/-- The integer with the given sign and magnitude. -/
def signedInteger (negated : Bool) (magnitude : Nat) : Int :=
  if negated then -(magnitude : Int) else magnitude

/-- The integer that a typed text denotes. -/
def readInteger? (s : String) : Option Int :=
  let cs := trimChars s.toList
  (joinedDigits? isDecimal (dropSign cs)).map fun digits =>
    signedInteger (isNegated cs) (decimalNumber digits)

/-- The characters after an optional `0` with the letter of a base.  An underscore may follow it. -/
def dropRadixMark (letter : Char) : List Char → List Char
  | '0' :: c :: '_' :: rest =>
    if c.toLower = letter then rest else '0' :: c :: '_' :: rest
  | '0' :: c :: rest => if c.toLower = letter then rest else '0' :: c :: rest
  | cs => cs

/-- Whether a text reads as a whole number in the base with the given letter and digits: blanks
around it, a sign, and single underscores between digits are allowed. -/
def isRadixNumeral (letter : Char) (digit : Char → Bool) (cs : List Char) : Bool :=
  (joinedDigits? digit (dropRadixMark letter (dropSign (trimChars cs)))).isSome

/-- Text without white space proper at its ends. -/
def trimWhiteSpace (cs : List Char) : List Char :=
  ((cs.dropWhile isWhiteSpace).reverse.dropWhile isWhiteSpace).reverse

/-- The text before a point that is followed by zeros only; other text is left alone. -/
def dropZeroFraction (cs : List Char) : List Char :=
  match cs.dropWhile (· != '.') with
  | '.' :: rest => if rest.all (· == '0') then cs.takeWhile (· != '.') else cs
  | _ => cs

/-- The integer that a data field holds as text. -/
def readPlainInteger? (s : String) : Option Int :=
  let cs := trimWhiteSpace s.toList
  (joinedDigits? Char.isDigit (dropSign (dropZeroFraction cs))).map fun digits =>
    signedInteger (isNegated cs) (decimalNumber digits)

end Text
end QueryDesigner
