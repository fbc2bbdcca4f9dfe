/-!
Binary floating-point formats as whole numbers of bits: what a pattern denotes, and the pattern
nearest to a ratio of whole numbers, an exact half going to the even neighbour.
-/
namespace ActivityArchive.Decimal

/-- The widths of the two fields below the sign. -/
structure Format where
  fractionBits : Nat
  exponentBits : Nat

def single : Format := ⟨23, 8⟩

def double : Format := ⟨52, 11⟩

/-- What a pattern denotes; a finite number is `mantissa * 2 ^ exponent`. -/
inductive Datum where
  | nan
  | infinite (negative : Bool)
  | finite (negative : Bool) (mantissa : Nat) (exponent : Int)

namespace Format

/-- The number of fractions. -/
def fractions (f : Format) : Nat := Nat.pow 2 f.fractionBits

/-- The weight of the sign bit. -/
def signWeight (f : Format) : Nat := Nat.pow 2 (f.fractionBits + f.exponentBits)

/-- The pattern of positive infinity. -/
def infinity (f : Format) : Nat := (Nat.pow 2 f.exponentBits - 1) * f.fractions

/-- The pattern of a quiet not-a-number. -/
def quietNaN (f : Format) : Nat := f.infinity + f.fractions / 2

/-- The exponent of the smallest positive number. -/
def leastExponent (f : Format) : Int :=
  2 - (Nat.pow 2 (f.exponentBits - 1) : Nat) - f.fractionBits

def unpack (f : Format) (bits : Nat) : Datum :=
  let negative := f.signWeight ≤ bits
  let low := bits % f.signWeight
  let field := low / f.fractions
  let fraction := low % f.fractions
  if low > f.infinity then .nan
  else if low = f.infinity then .infinite negative
  else if field = 0 then .finite negative fraction f.leastExponent
  else .finite negative (f.fractions + fraction) (f.leastExponent + field - 1)

/-- The quotient rounded to nearest, a half to even. -/
def roundDiv (num den : Nat) : Nat :=
  let q := num / den
  let r := num % den
  if den < 2 * r ∨ (2 * r = den ∧ q % 2 = 1) then q + 1 else q

/-- The largest `e` with `2 ^ e ≤ num / den`, both positive. -/
def binaryOrder (num den : Nat) : Int :=
  let e : Int := num.log2 - den.log2
  if den * Nat.pow 2 e.toNat ≤ num * Nat.pow 2 (-e).toNat then e else e - 1

/-- The pattern, without a sign, of the number nearest to `num / den`. A mantissa that rounds up to
the next power of two carries into the exponent field by itself. -/
def nearest (f : Format) (num den : Nat) : Nat :=
  if num = 0 then 0 else
    let q := max f.leastExponent (binaryOrder num den - f.fractionBits)
    let m := roundDiv (num * Nat.pow 2 (-q).toNat) (den * Nat.pow 2 q.toNat)
    min f.infinity ((q - f.leastExponent).toNat * f.fractions + m)

/-- The pattern nearest to `digits * 10 ^ exponent`. Numbers beyond all formats are settled by
their count of digits, so that no power is larger than it has to be. -/
def ofDecimal (f : Format) (digits : Nat) (exponent : Int) : Nat :=
  let order : Int := (Nat.toDigits 10 digits).length + exponent
  if digits = 0 ∨ order < -400 then 0
  else if order > 400 then f.infinity
  else f.nearest (digits * Nat.pow 10 exponent.toNat) (Nat.pow 10 (-exponent).toNat)

end Format

end ActivityArchive.Decimal
