/-!
# The shortest decimal of a binary number

A binary floating-point number is written with the fewest digits that read back as the same number;
of two decimals with that many digits the nearer one is written, and the even one on a tie.

* `Binary` — an exact dyadic number, with the half-gap below it;
* `Binary.contains` — whether a decimal rounds to the number;
* `Binary.shortest` — the digits and the place of the point;
* `Layout` — where positional notation ends and how an exponent is written;
* `text` — the written form of a floating-point number.
-/

namespace QueryDesigner
namespace Decimal

/-- The dyadic number `significand * 2 ^ exponent`.  `narrow` says that the next smaller number of
the format is half as far away as the next larger one. -/
structure Binary where
  significand : Nat
  exponent : Int
  narrow : Bool
  deriving DecidableEq, Repr

/-- The decimal `coefficient * 10 ^ exponent`. -/
structure Scaled where
  coefficient : Nat
  exponent : Int
  deriving DecidableEq, Repr

/-- A power of two. -/
def twoTo (n : Nat) : Nat := Nat.pow 2 n

/-- A power of ten. -/
def tenTo (n : Nat) : Nat := Nat.pow 10 n

/-- Compares `c * 10 ^ k` with `n * 2 ^ p` exactly. -/
def compareWith (c : Nat) (k : Int) (n : Nat) (p : Int) : Ordering :=
  compare (c * tenTo k.toNat * twoTo (-p).toNat) (n * twoTo p.toNat * tenTo (-k).toNat)

namespace Binary

/-- The magnitude held by the bits of a finite double-precision number. -/
def ofBits (bits : Nat) : Binary :=
  let fraction : Nat := bits % twoTo 52
  let field : Nat := bits / twoTo 52 % twoTo 11
  if field = 0 then ⟨fraction, -1074, false⟩
  else ⟨fraction + twoTo 52, (field : Int) - 1075, fraction = 0 ∧ 1 < field⟩

/-- Whether a decimal lies in the interval that rounds to the number; the ends belong to it when
the significand is even. -/
def contains (b : Binary) (d : Scaled) : Bool :=
  let low := compareWith d.coefficient d.exponent
    (4 * b.significand - if b.narrow then 1 else 2) (b.exponent - 2)
  let high := compareWith d.coefficient d.exponent (4 * b.significand + 2) (b.exponent - 2)
  let closed := b.significand % 2 == 0
  (low == .gt || (closed && low == .eq)) && (high == .lt || (closed && high == .eq))

/-- The whole part of the number divided by `10 ^ k`. -/
def quotient (b : Binary) (k : Int) : Nat :=
  b.significand * twoTo b.exponent.toNat * tenTo (-k).toNat /
    (twoTo (-b.exponent).toNat * tenTo k.toNat)

/-- The place of the point: the number lies between `10 ^ (place - 1)` and `10 ^ place`. -/
def place (b : Binary) : Int :=
  ((Nat.toDigits 10 (b.quotient (-400))).length : Int) - 400

/-- Of the two neighbours on the grid `10 ^ k` those that read back as the number, the nearer
first. -/
def neighbours (b : Binary) (k : Int) : List Scaled :=
  let below := b.quotient k
  let order :=
    match compareWith (2 * below + 1) k (2 * b.significand) b.exponent with
    | .gt => [below, below + 1]
    | .lt => [below + 1, below]
    | .eq => if below % 2 = 0 then [below, below + 1] else [below + 1, below]
  (order.map fun c => ⟨c, k⟩).filter b.contains

/-- The first decimal that reads back, over grids of `digits`, `digits + 1`, … digits. -/
def shortestFrom (b : Binary) (digits : Nat) : Nat → Scaled
  | 0 => ⟨b.quotient (b.place - digits), b.place - digits⟩
  | more + 1 =>
    match b.neighbours (b.place - digits) with
    | d :: _ => d
    | [] => b.shortestFrom (digits + 1) more

/-- The shortest decimal of the number: seventeen digits always suffice. -/
def shortest (b : Binary) : Scaled := b.shortestFrom 1 17

end Binary

/-- How digits are laid out. -/
structure Layout where
  /-- The least decimal exponent written positionally. -/
  least : Int
  /-- The first decimal exponent that is too large for positional notation. -/
  bound : Int
  /-- The fewest digits of a written exponent. -/
  exponentDigits : Nat

/-- Numbers from `10 ^ -4` up to `10 ^ 16` are written positionally, others with a signed exponent
of at least two digits. -/
def Layout.standard : Layout := ⟨-4, 16, 2⟩

def zerosOf (n : Nat) : List Char := List.replicate n '0'

/-- The digits without trailing zeros. -/
def dropTrailingZeros (ds : List Char) : List Char := (ds.reverse.dropWhile (· == '0')).reverse

/-- Positional notation of `0.d₁d₂… * 10 ^ place`, with at least one digit on each side. -/
def positional (ds : List Char) (place : Int) : List Char :=
  if place ≤ 0 then '0' :: '.' :: zerosOf (-place).toNat ++ ds
  else
    let whole := place.toNat
    if ds.length ≤ whole then ds ++ zerosOf (whole - ds.length) ++ ['.', '0']
    else ds.take whole ++ '.' :: ds.drop whole

/-- Scientific notation of `0.d₁d₂… * 10 ^ place`. -/
def scientific (layout : Layout) (ds : List Char) (place : Int) : List Char :=
  let exponent := place - 1
  let written := Nat.toDigits 10 exponent.natAbs
  let mantissa :=
    match ds with
    | [] => ['0']
    | [d] => [d]
    | d :: rest => d :: '.' :: rest
  mantissa ++ 'e' :: (if exponent < 0 then '-' else '+')
    :: zerosOf (layout.exponentDigits - written.length) ++ written

/-- The written form of a decimal. -/
def Scaled.chars (layout : Layout) (d : Scaled) : List Char :=
  let all := Nat.toDigits 10 d.coefficient
  let place := d.exponent + all.length
  let ds := dropTrailingZeros all
  if layout.least ≤ place - 1 ∧ place - 1 < layout.bound then positional ds place
  else scientific layout ds place

/-- The written form of a floating-point number. -/
def text (x : Float) : String :=
  let bits : Nat := x.toBits.toNat
  let sign := if bits / twoTo 63 % 2 = 1 then ['-'] else []
  if bits / twoTo 52 % twoTo 11 = 2047 then
    if bits % twoTo 52 = 0 then String.ofList (sign ++ ['i', 'n', 'f']) else "nan"
  else if bits % twoTo 63 = 0 then String.ofList (sign ++ ['0', '.', '0'])
  else String.ofList (sign ++ (Binary.ofBits bits).shortest.chars Layout.standard)

end Decimal
end QueryDesigner
