import ActivityArchive.Decimal.Format

/-!
The shortest decimal that reads back. All decimals that round to a binary number fill an interval
around it, whose ends belong to it when the mantissa is even. For one digit, two digits and so on
the two neighbours of the number on that decimal grid are tried; the first grid with a hit decides,
of two hits the nearer one, and of two equally near ones the larger.
-/
namespace ActivityArchive.Decimal

/-- A decimal `digits * 10 ^ exponent`. -/
structure Scaled where
  digits : Nat
  exponent : Int

/-- A number, and the ends of the interval that rounds to it, over one denominator. -/
structure Interval where
  low : Nat
  value : Nat
  high : Nat
  den : Nat
  closed : Bool

namespace Interval

/-- The interval of `mantissa * 2 ^ exponent`. Below a power of two the numbers lie twice as close,
so there the lower end is a quarter of a unit away, unless the exponent is the least one. -/
def ofFinite (f : Format) (mantissa : Nat) (exponent : Int) : Interval :=
  let up := Nat.pow 2 exponent.toNat
  let narrow := mantissa = f.fractions ∧ f.leastExponent < exponent
  { low := (4 * mantissa - if narrow then 1 else 2) * up
    value := 4 * mantissa * up
    high := (4 * mantissa + 2) * up
    den := 4 * Nat.pow 2 (-exponent).toNat
    closed := mantissa % 2 = 0 }

/-- The three numbers in units of `10 ^ k`. -/
def inUnits (i : Interval) (k : Int) : Interval :=
  let up := Nat.pow 10 (-k).toNat
  { i with
    low := i.low * up
    value := i.value * up
    high := i.high * up
    den := i.den * Nat.pow 10 k.toNat }

def contains (i : Interval) (n : Nat) : Bool :=
  let x := n * i.den
  if i.closed then i.low ≤ x && x ≤ i.high else i.low < x && x < i.high

/-- The whole number in the interval that is next to its value. -/
def whole? (i : Interval) : Option Nat :=
  let below := i.value / i.den
  let above := below + 1
  match i.contains below, i.contains above with
  | true, true =>
    if above * i.den - i.value ≤ i.value - below * i.den then some above else some below
  | true, false => some below
  | false, true => some above
  | false, false => none

/-- The `e` with `10 ^ (e - 1) ≤ value < 10 ^ e`, for values above `10 ^ -400`. -/
def decimalOrder (i : Interval) : Int :=
  ((Nat.toDigits 10 (i.value * Nat.pow 10 400 / i.den)).length : Int) - 400

end Interval

/-- The shortest decimal of a positive binary number; seventeen digits always suffice. -/
def shortest (f : Format) (mantissa : Nat) (exponent : Int) : Scaled :=
  let i := Interval.ofFinite f mantissa exponent
  let order := i.decimalOrder
  let hit := (List.range 18).findSome? fun (n : Nat) =>
    let k := order - (n + 1)
    ((i.inUnits k).whole?).map fun d => Scaled.mk d k
  hit.getD ⟨0, 0⟩

end ActivityArchive.Decimal
