import QueryDesigner.Text.Digit.Table

/-!
# Digits of any script

* `decimalValue?` — the value of a decimal digit of any script;
* `isDecimal` — whether a character is such a digit;
* `isDigit` — decimal digits together with the digits that stand outside a decimal run;
* `startsWithDigit` — whether a text starts with one of those.
-/

namespace QueryDesigner
namespace Text

/-- The value of a decimal digit: the ten characters from a zero onwards stand for 0 to 9. -/
def decimalValue? (c : Char) : Option Nat :=
  let n := c.toNat
  if n < 128 then
    if 48 ≤ n && n ≤ 57 then some (n - 48) else none
  else
    (zeros.find? fun z => z ≤ n && n < z + 10).map fun z => n - z

def isDecimal (c : Char) : Bool := (decimalValue? c).isSome

def isDigit (c : Char) : Bool :=
  isDecimal c || otherDigitRanges.any fun (lo, hi) => lo ≤ c.toNat && c.toNat ≤ hi

def startsWithDigit (s : String) : Bool := (s.toList.head?.map isDigit).getD false

/-- The number that a list of decimal digits denotes, read after the number `acc`. -/
def decimalNumberFrom (acc : Nat) (cs : List Char) : Nat :=
  cs.foldl (fun n c => 10 * n + (decimalValue? c).getD 0) acc

def decimalNumber (cs : List Char) : Nat := decimalNumberFrom 0 cs

end Text
end QueryDesigner
