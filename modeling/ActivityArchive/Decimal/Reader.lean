import ActivityArchive.Decimal.Format
import ActivityArchive.Text.Digits

/-!
Reading of floating-point metric text: an optional sign, then `inf`, `infinity` or `nan` in any
case, or digits with an optional point and an optional exponent. The number is rounded once, from
the decimal as written to the format asked for.
-/
namespace ActivityArchive.Decimal

open Text

/-- A decimal as written: all digits before and after the point as one number. -/
def decimal? (cs : List Char) : Option (Nat × Int) :=
  let whole := cs.takeWhile (digitValue · < 10)
  let rest := cs.drop whole.length
  let fraction := match rest with
    | '.' :: r => r.takeWhile (digitValue · < 10)
    | _ => []
  let rest := match rest with
    | '.' :: _ => rest.drop (fraction.length + 1)
    | _ => rest
  let digits := ofDigits 10 (whole ++ fraction)
  let scale : Int := -fraction.length
  if whole.isEmpty && fraction.isEmpty then none else
    match rest with
    | [] => some (digits, scale)
    | c :: r =>
      if c = 'e' ∨ c = 'E' then
        let negative := r.head? = some '-'
        let body := match r with
          | '-' :: r => r
          | _ => unsigned r
        if IsDigits 10 body then
          let e : Int := ofDigits 10 body
          some (digits, scale + if negative then -e else e)
        else none
      else none

/-- The pattern of a text that is trimmed already. -/
def pattern? (f : Format) (cs : List Char) : Option Nat :=
  let negative := cs.head? = some '-'
  let body := match cs with
    | '-' :: r => r
    | _ => unsigned cs
  let sign := if negative then f.signWeight else 0
  let word := String.ofList (body.map Char.toLower)
  if word = "inf" ∨ word = "infinity" then some (sign + f.infinity)
  else if word = "nan" then some (sign + f.quietNaN)
  else (decimal? body).map fun (digits, e) => sign + f.ofDecimal digits e

def readDouble? (cs : List Char) : Option Float :=
  (pattern? double cs).map fun bits => Float.ofBits bits.toUInt64

def readSingle? (cs : List Char) : Option Float32 :=
  (pattern? single cs).map fun bits => Float32.ofBits bits.toUInt32

end ActivityArchive.Decimal
