import ActivityArchive.Decimal.Shortest

/-!
Printing of binary numbers by their shortest decimal, in one of two layouts: metric text, which is
always positional, and interchange text, which keeps a fraction and goes over to exponents for very
large and very small numbers.
-/
namespace ActivityArchive.Decimal

/-- How the digits of a number are laid out. -/
structure Layout where
  /-- Whether a number whose digits start `point` places before the decimal point is positional. -/
  positional : Int → Bool
  /-- Whether a whole number ends in `.0`. -/
  keepsFraction : Bool

/-- Metric text never has an exponent, and whole numbers have no fraction. -/
def metricText : Layout := ⟨fun _ => true, false⟩

/-- Interchange text is positional from 0.00001 up to, but not including, 10 ^ 16. -/
def interchangeText : Layout := ⟨fun point => -5 < point && point ≤ 16, true⟩

/-- The digits of a number without the zeros at its end, and the power of ten they left. -/
def dropZeros (fuel : Nat) (d : Nat) (k : Int) : Nat × Int :=
  match fuel with
  | 0 => (d, k)
  | fuel + 1 => if d ≠ 0 ∧ d % 10 = 0 then dropZeros fuel (d / 10) (k + 1) else (d, k)

namespace Layout

def place (l : Layout) (s : Scaled) : List Char :=
  let (d, k) := dropZeros 20 s.digits s.exponent
  let ds := Nat.toDigits 10 d
  let point := ds.length + k
  if l.positional point then
    if 0 ≤ k then
      ds ++ List.replicate k.toNat '0' ++ if l.keepsFraction then ['.', '0'] else []
    else if 0 < point then ds.take point.toNat ++ ['.'] ++ ds.drop point.toNat
    else ['0', '.'] ++ List.replicate (-point).toNat '0' ++ ds
  else
    let head := ds.take 1 ++ if ds.length = 1 then [] else '.' :: ds.drop 1
    let e := point - 1
    head ++ ['e'] ++ (if e < 0 then ['-'] else []) ++ Nat.toDigits 10 e.natAbs

/-- The text of the number with the given bits. -/
def print (l : Layout) (f : Format) (bits : Nat) : String :=
  let signed (negative : Bool) (cs : List Char) := if negative then '-' :: cs else cs
  String.ofList <| match f.unpack bits with
    | .nan => ['N', 'a', 'N']
    | .infinite negative => signed negative ['i', 'n', 'f']
    | .finite negative 0 _ => signed negative (if l.keepsFraction then ['0', '.', '0'] else ['0'])
    | .finite negative m q => signed negative (l.place (shortest f m q))

def printDouble (l : Layout) (x : Float) : String := l.print double x.toBits.toNat

def printSingle (l : Layout) (x : Float32) : String := l.print single x.toBits.toNat

end Layout

end ActivityArchive.Decimal
