/-!
Whole numbers as text. A number is written without leading zeros; a text is read when it is an
optional plus sign and one or more digits, whatever zeros it starts with. What is written reads
back to the same number (`natural?_decimal`).
-/
namespace ActivityArchive.Text

/-- The value of a digit of base at most sixteen, in either case; sixteen for any other
character. -/
def digitValue (c : Char) : Nat :=
  if '0' ≤ c ∧ c ≤ '9' then c.toNat - 48
  else if 'a' ≤ c ∧ c ≤ 'f' then c.toNat - 87
  else if 'A' ≤ c ∧ c ≤ 'F' then c.toNat - 55
  else 16

/-- The number that a digit string denotes, most significant digit first. -/
def ofDigits (base : Nat) (cs : List Char) : Nat :=
  cs.foldl (fun n c => n * base + digitValue c) 0

def IsDigits (base : Nat) (cs : List Char) : Prop :=
  cs ≠ [] ∧ ∀ c ∈ cs, digitValue c < base

instance (base : Nat) (cs : List Char) : Decidable (IsDigits base cs) :=
  inferInstanceAs (Decidable (_ ∧ _))

def unsigned (cs : List Char) : List Char :=
  match cs with
  | '+' :: rest => rest
  | _ => cs

/-- Reads an optional plus sign and digits whose number is below `bound`. -/
def natural? (base bound : Nat) (cs : List Char) : Option Nat :=
  if IsDigits base (unsigned cs) ∧ ofDigits base (unsigned cs) < bound
  then some (ofDigits base (unsigned cs)) else none

def decimal (n : Nat) : String := String.ofList (Nat.toDigits 10 n)

def hexadecimal (n : Nat) : String := String.ofList (Nat.toDigits 16 n)

def integer (i : Int) : String :=
  if i < 0 then "-" ++ decimal i.natAbs else decimal i.natAbs

theorem toList_decimal (n : Nat) : (decimal n).toList = Nat.toDigits 10 n := by
  simp [decimal]

theorem toList_hexadecimal (n : Nat) : (hexadecimal n).toList = Nat.toDigits 16 n := by
  simp [hexadecimal]

theorem digitValue_digitChar {base d : Nat} (hb : base ≤ 16) (h : d < base) :
    digitValue d.digitChar = d := by
  have key : ∀ d : Fin 16, digitValue (Nat.digitChar d) = d := by decide
  exact key ⟨d, by omega⟩

theorem ofDigits_append (base : Nat) (cs : List Char) (c : Char) :
    ofDigits base (cs ++ [c]) = ofDigits base cs * base + digitValue c := by
  simp [ofDigits]

theorem ofDigits_toDigits {base : Nat} (h1 : 1 < base) (h16 : base ≤ 16) (n : Nat) :
    ofDigits base (Nat.toDigits base n) = n := by
  induction n using Nat.strongRecOn with
  | ind n ih =>
    rw [Nat.toDigits_eq_if h1]
    split
    · rename_i hn
      simp [ofDigits, digitValue_digitChar h16 hn]
    · rename_i hn
      rw [ofDigits_append, ih (n / base) (Nat.div_lt_self (by omega) h1),
        digitValue_digitChar h16 (Nat.mod_lt _ (by omega))]
      exact Nat.div_add_mod' n base

theorem isDigits_toDigits {base : Nat} (h1 : 1 < base) (h16 : base ≤ 16) (n : Nat) :
    IsDigits base (Nat.toDigits base n) := by
  induction n using Nat.strongRecOn with
  | ind n ih =>
    rw [Nat.toDigits_eq_if h1]
    split
    · rename_i hn
      simp [IsDigits, digitValue_digitChar h16 hn, hn]
    · have hm : n % base < base := Nat.mod_lt _ (by omega)
      have := ih (n / base) (Nat.div_lt_self (by omega) h1)
      refine ⟨by simp, ?_⟩
      intro c hc
      rcases List.mem_append.mp hc with hc | hc
      · exact this.2 c hc
      · rw [List.mem_singleton.mp hc, digitValue_digitChar h16 hm]
        exact hm

theorem unsigned_of_isDigits {base : Nat} (h16 : base ≤ 16) {cs : List Char}
    (h : IsDigits base cs) : unsigned cs = cs := by
  unfold unsigned
  split
  · rename_i rest
    have := h.2 '+' (by simp)
    have hp : digitValue '+' = 16 := by decide
    omega
  · rfl

theorem natural?_toDigits {base bound n : Nat} (h1 : 1 < base) (h16 : base ≤ 16) (h : n < bound) :
    natural? base bound (Nat.toDigits base n) = some n := by
  have hd := isDigits_toDigits h1 h16 n
  simp [natural?, unsigned_of_isDigits h16 hd, hd, ofDigits_toDigits h1 h16, h]

theorem natural?_decimal {bound n : Nat} (h : n < bound) :
    natural? 10 bound (decimal n).toList = some n := by
  rw [toList_decimal]
  exact natural?_toDigits (by decide) (by decide) h

end ActivityArchive.Text
