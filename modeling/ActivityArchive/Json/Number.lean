import ActivityArchive.Decimal.Format
import ActivityArchive.Json.Basic
import ActivityArchive.Text.Digits

/-!
JSON numbers. A number with a fraction or an exponent, and an integer of more than 64 bits, is the
double of its leading digits, as many as fit 64 bits, times or divided by one power of ten; both
steps round. So a number of up to fifteen digits is exact, and a longer one may be off by a unit.
-/
namespace ActivityArchive.Json

open Text

/-- The digits read so far, and the power of ten by which they are to be multiplied. -/
structure Leading where
  significand : Nat
  exponent : Int

def powerOfTen (e : Nat) : Float := Float.ofBits (Decimal.double.ofDecimal 1 e).toUInt64

/-- `x * 10 ^ e`, by steps of at most `10 ^ 308`; nothing when it overflows. -/
def scale (fuel : Nat) (x : Float) (e : Int) : Option Float :=
  match fuel with
  | 0 => some x
  | fuel + 1 =>
    if e.natAbs ≤ 308 then
      if 0 ≤ e then
        let y := x * powerOfTen e.natAbs
        if y.isInf then none else some y
      else some (x / powerOfTen e.natAbs)
    else if x == 0 then some x
    else if 0 ≤ e then none
    else scale fuel (x / powerOfTen 308) (e + 308)

/-- Digits of the integer part. Once one does not fit, it and all later ones only count. -/
def leadingWhole (significand : Nat) : List Char → Leading
  | [] => ⟨significand, 0⟩
  | c :: cs =>
    let next := significand * 10 + digitValue c
    if next < UInt64.size then leadingWhole next cs else ⟨significand, cs.length + 1⟩

/-- Digits of the fraction. Once one does not fit, it and all later ones are dropped. -/
def leadingFraction (l : Leading) : List Char → Leading
  | [] => l
  | c :: cs =>
    let next := l.significand * 10 + digitValue c
    if next < UInt64.size then leadingFraction ⟨next, l.exponent - 1⟩ cs else l

def realOf (negative : Bool) (l : Leading) : Json :=
  match scale 4 l.significand.toUInt64.toFloat l.exponent with
  | some x => .real (if negative then -x else x)
  | none => .lost

/-- The value of an integer numeral. A negative zero and a negative number of more than 63 bits are
not integers. -/
def integerOf (negative : Bool) (digits : List Char) : Json :=
  let l := leadingWhole 0 digits
  if l.exponent ≠ 0 then realOf negative l
  else if negative then
    if l.significand = 0 ∨ UInt64.size / 2 < l.significand then realOf true l
    else .integer (-l.significand)
  else .integer l.significand

/-- The parts of a numeral: integer digits, fraction digits and exponent, where present. -/
structure Numeral where
  negative : Bool
  whole : List Char
  fraction : Option (List Char)
  exponent : Option Int

def Numeral.value (n : Numeral) : Json :=
  match n.fraction, n.exponent with
  | none, none => integerOf n.negative n.whole
  | _, _ =>
    let l := leadingFraction (leadingWhole 0 n.whole) (n.fraction.getD [])
    realOf n.negative { l with exponent := l.exponent + n.exponent.getD 0 }

/-- Reads a numeral: no leading zeros, and a digit on either side of the point. -/
def numeral? (cs : List Char) : Option (Numeral × List Char) :=
  let isDigit : Char → Bool := fun c => digitValue c < 10
  let negative := cs.head? = some '-'
  let cs := if negative then cs.drop 1 else cs
  let whole := cs.takeWhile isDigit
  let cs := cs.drop whole.length
  if whole.isEmpty ∨ (1 < whole.length ∧ whole.head? = some '0') then none else
    let fraction : Option (List Char) := match cs with
      | '.' :: r => some (r.takeWhile isDigit)
      | _ => none
    let cs := match fraction with
      | some ds => cs.drop (ds.length + 1)
      | none => cs
    if fraction = some [] then none else
      match cs with
      | c :: r =>
        if c = 'e' ∨ c = 'E' then
          let body := match r with
            | '-' :: r => r
            | r => unsigned r
          let ds := body.takeWhile isDigit
          let e : Int := ofDigits 10 ds
          if ds.isEmpty then none
          else some (⟨negative, whole, fraction, some (if r.head? = some '-' then -e else e)⟩,
            body.drop ds.length)
        else some (⟨negative, whole, fraction, none⟩, cs)
      | [] => some (⟨negative, whole, fraction, none⟩, [])

end ActivityArchive.Json
