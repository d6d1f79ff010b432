import QueryDesigner.Decimal.Shortest
import QueryDesigner.Text.Digit

/-!
# Exact decimal numbers

* `Exact` — a whole number times a power of ten;
* `Exact.add`, `Exact.sub`, `Exact.mul` — exact arithmetic;
* `Exact.div?` — a quotient, which is rounded;
* `Exact.ofDigits?` — the number that digits with an optional point and exponent denote;
* `Exact.text` — a number in digits.  Every digit counts, also a zero at the end.
-/

namespace QueryDesigner
namespace Decimal

/-- The number `coefficient * 10 ^ exponent`. -/
structure Exact where
  coefficient : Int
  exponent : Int
  deriving DecidableEq, Repr

namespace Exact

/-- The coefficient of the same number at an exponent that is not greater. -/
def coefficientAt (a : Exact) (exponent : Int) : Int :=
  a.coefficient * (tenTo (a.exponent - exponent).toNat : Nat)

def neg (a : Exact) : Exact := ⟨-a.coefficient, a.exponent⟩

def add (a b : Exact) : Exact :=
  let exponent := min a.exponent b.exponent
  ⟨a.coefficientAt exponent + b.coefficientAt exponent, exponent⟩

def sub (a b : Exact) : Exact := a.add b.neg

def mul (a b : Exact) : Exact := ⟨a.coefficient * b.coefficient, a.exponent + b.exponent⟩

/-! ## Quotients -/

/-- The most digits of a quotient. -/
def precision : Nat := 28

/-- A whole quotient, rounded to the nearest number; halves are rounded to the even one. -/
def roundedQuotient (a b : Nat) : Nat :=
  let q := a / b
  match compare (2 * (a % b)) b with
  | .lt => q
  | .eq => q + q % 2
  | .gt => q + 1

/-- The same number with a zero less at the end of its coefficient, as often as there is one, but
not beyond an exponent, in at most the given number of steps. -/
def withoutZeros (bound : Int) : Nat → Exact → Exact
  | 0, a => a
  | steps + 1, a =>
    if a.exponent < bound ∧ a.coefficient % 10 = 0 then
      withoutZeros bound steps ⟨a.coefficient / 10, a.exponent + 1⟩
    else a

def digitCount (n : Nat) : Int := (Nat.toDigits 10 n).length

/-- The quotient of two numbers: the exact one if it has few digits, otherwise a rounded one.  There
is none by zero. -/
def div? (a b : Exact) : Option Exact :=
  if b.coefficient = 0 then none
  else
    let m := a.coefficient.natAbs
    let n := b.coefficient.natAbs
    let shift := digitCount n - digitCount m + precision
    let size (shift : Int) : Nat := roundedQuotient (m * tenTo shift.toNat) (n * tenTo (-shift).toNat)
    let shift := if precision < digitCount (size shift) then shift - 1 else shift
    let sign := a.coefficient.sign * b.coefficient.sign
    let q : Exact := ⟨sign * size shift, a.exponent - b.exponent - shift⟩
    some (q.withoutZeros (a.exponent - b.exponent) precision)

/-! ## Digits -/

/-- The exponent that is written after its mark. -/
def exponent? : List Char → Option Int
  | [] => some 0
  | mark :: rest =>
    let isNegative := rest.head? == some '-'
    let digits := rest.dropWhile fun c => c == '+' || c == '-'
    if (mark == 'e' || mark == 'E') && !digits.isEmpty && digits.all Text.isDecimal then
      let n : Int := Text.decimalNumber digits
      some (if isNegative then -n else n)
    else none

/-- The number that digits with an optional point and exponent denote. -/
def ofDigits? (s : String) : Option Exact := do
  let cs := s.toList
  let whole := cs.takeWhile Text.isDecimal
  let rest := cs.dropWhile Text.isDecimal
  let afterPoint := if rest.head? = some '.' then rest.drop 1 else []
  let fraction := afterPoint.takeWhile Text.isDecimal
  let tail := if rest.head? = some '.' then afterPoint.dropWhile Text.isDecimal else rest
  let digits := whole ++ fraction
  if digits.isEmpty then none
  else
    let exponent ← exponent? tail
    some ⟨Text.decimalNumber digits, exponent - fraction.length⟩

/-- Digits with a point before the last of them, as many as the exponent says. -/
def pointed (ds : List Char) (place : Int) : List Char :=
  if place ≤ 0 then '0' :: '.' :: zerosOf (-place).toNat ++ ds
  else if ds.length ≤ place.toNat then ds ++ zerosOf (place.toNat - ds.length)
  else ds.take place.toNat ++ '.' :: ds.drop place.toNat

/-- The least place of the point at which a number is written without an exponent. -/
def leastPlace : Int := -5

/-- A number in digits.  Very small numbers, and those whose last digits are not known, are written
with an exponent. -/
def text (a : Exact) : String :=
  let ds := Nat.toDigits 10 a.coefficient.natAbs
  let place := a.exponent + ds.length
  let digits :=
    if a.exponent ≤ 0 ∧ leastPlace ≤ place then pointed ds place
    else
      let exponent := place - 1
      pointed ds 1 ++ 'E' :: (if exponent < 0 then '-' else '+') ::
        Nat.toDigits 10 exponent.natAbs
  String.ofList (if a.coefficient < 0 then '-' :: digits else digits)

end Exact
end Decimal
end QueryDesigner
