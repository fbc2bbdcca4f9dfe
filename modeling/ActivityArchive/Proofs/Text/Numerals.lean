import ActivityArchive.Text.Blank
import ActivityArchive.Text.Digits

/-!
Numerals among blanks. Trimming takes the blanks off both ends and nothing else, so a number is read
exactly from a plus sign or none and decimal digits with blanks around them (`natural?_trim_iff`).
Zeros may lead; without them, without a sign and without blanks there is one numeral for each
number, which is the one that is written (`decimal_iff`).
-/
namespace ActivityArchive.Text

variable {cs mid before behind digits : List Char} {c : Char} {bound n : Nat}

/-- A plus sign or none, and decimal digits. -/
def Denotes (cs : List Char) (n : Nat) : Prop :=
  ∃ sign digits, cs = sign ++ digits ∧ (sign = [] ∨ sign = ['+']) ∧ digits ≠ [] ∧
    (∀ c ∈ digits, c.isDigit = true) ∧ Nat.ofDigitChars 10 digits 0 = n

/-- A numeral with blanks before and behind it. -/
def Gives (cs : List Char) (n : Nat) : Prop :=
  ∃ before mid behind, cs = before ++ mid ++ behind ∧
    (∀ c ∈ before ++ behind, isBlank c = true) ∧ Denotes mid n

/-- Digits alone, the first of which is zero for no number but zero. -/
structure IsCanonical (cs : List Char) : Prop where
  nonempty : cs ≠ []
  digits : ∀ c ∈ cs, c.isDigit = true
  leading : cs.head? = some '0' → cs = ['0']

theorem digitValue_of_isDigit (h : c.isDigit = true) : digitValue c = c.toNat - '0'.toNat := by
  obtain ⟨hlo, hhi⟩ := Char.isDigit_iff_toNat.mp h
  exact if_pos ⟨hlo, hhi⟩

theorem digitValue_lt_ten_iff : digitValue c < 10 ↔ c.isDigit = true := by
  constructor
  · intro h
    by_cases hdigit : '0' ≤ c ∧ c ≤ '9'
    · exact Char.isDigit_iff_toNat.mpr hdigit
    · rw [digitValue, if_neg hdigit] at h
      split at h
      · rename_i hlow
        have hc : 97 ≤ c.toNat := hlow.1
        omega
      · split at h
        · rename_i hup
          have hc : 65 ≤ c.toNat := hup.1
          omega
        · omega
  · intro h
    obtain ⟨hlo, hhi⟩ := Char.isDigit_iff_toNat.mp h
    rw [digitValue_of_isDigit h]
    simp only [Char.reduceToNat] at hlo hhi ⊢
    omega

theorem isDigits_ten_iff : IsDigits 10 cs ↔ cs ≠ [] ∧ ∀ c ∈ cs, c.isDigit = true := by
  simp only [IsDigits, digitValue_lt_ten_iff]

theorem ofDigits_ten (h : ∀ c ∈ cs, c.isDigit = true) :
    ofDigits 10 cs = Nat.ofDigitChars 10 cs 0 := by
  have key : ∀ m, cs.foldl (fun n c => n * 10 + digitValue c) m = Nat.ofDigitChars 10 cs m := by
    induction cs with
    | nil => exact fun _ => rfl
    | cons c cs ih =>
      intro m
      have hstep : m * 10 + digitValue c = 10 * m + (c.toNat - '0'.toNat) := by
        rw [digitValue_of_isDigit (h c List.mem_cons_self), Nat.mul_comm]
      rw [List.foldl_cons, hstep, Nat.ofDigitChars_cons]
      exact ih (fun c hc => h c (List.mem_cons_of_mem _ hc)) _
  exact key 0

section Reading

theorem exists_sign (cs : List Char) :
    ∃ sign, cs = sign ++ unsigned cs ∧ (sign = [] ∨ sign = ['+']) := by
  unfold unsigned
  split
  · exact ⟨['+'], rfl, Or.inr rfl⟩
  · exact ⟨[], rfl, Or.inl rfl⟩

/-- A number below the bound is read, with a plus sign or without. -/
theorem natural?_iff : natural? 10 bound cs = some n ↔ n < bound ∧ Denotes cs n := by
  constructor
  · intro h
    unfold natural? at h
    split at h
    · rename_i hread
      obtain ⟨hne, hdigits⟩ := isDigits_ten_iff.mp hread.1
      obtain ⟨sign, hcs, hsign⟩ := exists_sign cs
      have hn : ofDigits 10 (unsigned cs) = n := Option.some.inj h
      exact ⟨hn ▸ hread.2, sign, unsigned cs, hcs, hsign, hne, hdigits,
        ofDigits_ten hdigits ▸ hn⟩
    · cases h
  · rintro ⟨hn, sign, digits, rfl, hsign, hne, hdigits, rfl⟩
    have hread : IsDigits 10 digits := isDigits_ten_iff.mpr ⟨hne, hdigits⟩
    have hunsigned : unsigned (sign ++ digits) = digits := by
      rcases hsign with rfl | rfl
      · exact unsigned_of_isDigits (by decide) hread
      · rfl
    rw [natural?, hunsigned, ofDigits_ten hdigits, if_pos ⟨hread, hn⟩]

end Reading

section Trimming

theorem isBlank_of_isDigit (h : c.isDigit = true) : isBlank c = false := by
  obtain ⟨hlo, hhi⟩ := Char.isDigit_iff_toNat.mp h
  simp only [Char.reduceToNat] at hlo hhi
  simp [isBlank]
  omega

theorem Denotes.isBlank (h : Denotes cs n) : ∀ c ∈ cs, isBlank c = false := by
  obtain ⟨sign, digits, rfl, hsign, -, hdigits, -⟩ := h
  intro c hc
  rcases List.mem_append.mp hc with hc | hc
  · rcases hsign with rfl | rfl
    · cases hc
    · rw [List.mem_singleton.mp hc]
      decide
  · exact isBlank_of_isDigit (hdigits c hc)

theorem dropBlanks_append (hbefore : ∀ c ∈ before, isBlank c = true)
    (hmid : ∀ c ∈ mid, isBlank c = false) (hne : mid ≠ []) (behind : List Char) :
    dropBlanks (before ++ (mid ++ behind)) = mid ++ behind := by
  cases mid with
  | nil => exact absurd rfl hne
  | cons c mid =>
    rw [dropBlanks, List.dropWhile_append_of_pos hbefore, List.cons_append,
      List.dropWhile_cons_of_neg (by simp [hmid c List.mem_cons_self])]

/-- What has no blanks in it is what is left. -/
theorem trim_append (hblank : ∀ c ∈ before ++ behind, isBlank c = true)
    (hmid : ∀ c ∈ mid, isBlank c = false) (hne : mid ≠ []) :
    trim (before ++ mid ++ behind) = mid := by
  have hbefore : ∀ c ∈ before, isBlank c = true := fun c hc =>
    hblank c (List.mem_append_left _ hc)
  have hbehind : ∀ c ∈ behind.reverse, isBlank c = true := fun c hc =>
    hblank c (List.mem_append_right _ (List.mem_reverse.mp hc))
  have hback := dropBlanks_append hbehind (fun c hc => hmid c (List.mem_reverse.mp hc))
    (by simpa using hne) []
  rw [trim, List.append_assoc, dropBlanks_append hbefore hmid hne, List.reverse_append]
  simpa using congrArg List.reverse hback

theorem exists_dropBlanks (cs : List Char) :
    ∃ before, cs = before ++ dropBlanks cs ∧ ∀ c ∈ before, isBlank c = true :=
  ⟨cs.takeWhile isBlank, List.takeWhile_append_dropWhile.symm,
    List.all_eq_true.mp List.all_takeWhile⟩

/-- Only blanks are taken off. -/
theorem exists_trim (cs : List Char) : ∃ before behind, cs = before ++ trim cs ++ behind ∧
    ∀ c ∈ before ++ behind, isBlank c = true := by
  obtain ⟨before, hbefore, hblank⟩ := exists_dropBlanks cs
  obtain ⟨back, hback, hblank'⟩ := exists_dropBlanks (dropBlanks cs).reverse
  have hrest : dropBlanks cs = trim cs ++ back.reverse := by
    rw [trim, ← List.reverse_append, ← hback, List.reverse_reverse]
  refine ⟨before, back.reverse, ?_, fun c hc => ?_⟩
  · rw [List.append_assoc, ← hrest]
    exact hbefore
  · rcases List.mem_append.mp hc with hc | hc
    · exact hblank c hc
    · exact hblank' c (List.mem_reverse.mp hc)

theorem Denotes.ne_nil (h : Denotes cs n) : cs ≠ [] := by
  obtain ⟨sign, digits, rfl, -, hne, -⟩ := h
  simp [hne]

theorem gives_iff : Gives cs n ↔ Denotes (trim cs) n := by
  constructor
  · rintro ⟨before, mid, behind, rfl, hblank, hmid⟩
    rw [trim_append hblank hmid.isBlank hmid.ne_nil]
    exact hmid
  · intro h
    obtain ⟨before, behind, hcs, hblank⟩ := exists_trim cs
    exact ⟨before, trim cs, behind, hcs, hblank, h⟩

theorem natural?_trim_iff : natural? 10 bound (trim cs) = some n ↔ n < bound ∧ Gives cs n := by
  rw [natural?_iff, gives_iff]

end Trimming

section Canonical

theorem digitChar_of_isDigit (h : c.isDigit = true) : Nat.digitChar (c.toNat - '0'.toNat) = c := by
  obtain ⟨hlo, hhi⟩ := Char.isDigit_iff_toNat.mp h
  refine Char.toNat_inj.mp ?_
  simp only [Char.reduceToNat] at hlo hhi ⊢
  rw [Nat.toNat_digitChar_of_lt_ten (by omega)]
  omega

/-- Digits that follow a number other than zero are written behind it. -/
theorem toDigits_ofDigitChars (h : ∀ c ∈ cs, c.isDigit = true) {m : Nat} (hm : 0 < m) :
    Nat.toDigits 10 (Nat.ofDigitChars 10 cs m) = Nat.toDigits 10 m ++ cs := by
  induction cs generalizing m with
  | nil => simp
  | cons c cs ih =>
    have hc := h c List.mem_cons_self
    have hlt : c.toNat - '0'.toNat < 10 := digitValue_of_isDigit hc ▸ digitValue_lt_ten_iff.mpr hc
    have hstep : Nat.toDigits 10 (10 * m + (c.toNat - '0'.toNat)) = Nat.toDigits 10 m ++ [c] := by
      rw [← Nat.toDigits_append_toDigits (by decide) hm hlt, Nat.toDigits_of_lt_base hlt,
        digitChar_of_isDigit hc]
    rw [Nat.ofDigitChars_cons, ih (fun c hc => h c (List.mem_cons_of_mem _ hc)) (by omega), hstep,
      List.append_assoc]
    rfl

theorem IsCanonical.toDigits_eq (h : IsCanonical cs) :
    Nat.toDigits 10 (Nat.ofDigitChars 10 cs 0) = cs := by
  cases cs with
  | nil => exact absurd rfl h.nonempty
  | cons c cs =>
    by_cases hzero : c = '0'
    · have hcs := h.leading (by rw [List.head?_cons, hzero])
      rw [hcs]
      rfl
    · have hc := h.digits c List.mem_cons_self
      obtain ⟨hlo, -⟩ := Char.isDigit_iff_toNat.mp hc
      have hne : c.toNat ≠ '0'.toNat := fun he => hzero (Char.toNat_inj.mp he)
      have hpos : 0 < 10 * 0 + (c.toNat - '0'.toNat) := by omega
      have hlt : 10 * 0 + (c.toNat - '0'.toNat) < 10 := by
        have := digitValue_lt_ten_iff.mpr hc
        rw [digitValue_of_isDigit hc] at this
        omega
      rw [Nat.ofDigitChars_cons,
        toDigits_ofDigitChars (fun c hc => h.digits c (List.mem_cons_of_mem _ hc)) hpos,
        Nat.toDigits_of_lt_base hlt, Nat.mul_zero, Nat.zero_add, digitChar_of_isDigit hc]
      rfl

theorem head?_toDigits (hn : 0 < n) : (Nat.toDigits 10 n).head? ≠ some '0' := by
  induction n using Nat.strongRecOn with
  | ind n ih =>
    rw [Nat.toDigits_eq_if (by decide)]
    split
    · rename_i hlt
      rw [List.head?_cons, ne_eq, Option.some.injEq]
      intro hzero
      have hvalue := digitValue_digitChar (by decide : 10 ≤ 16) hlt
      rw [hzero] at hvalue
      exact Nat.ne_of_gt hn hvalue.symm
    · rename_i hge
      have hquotient := ih (n / 10) (Nat.div_lt_self hn (by decide))
        (Nat.div_pos (Nat.le_of_not_lt hge) (by decide))
      cases hdigits : Nat.toDigits 10 (n / 10) with
      | nil => exact absurd hdigits (isDigits_toDigits (by decide) (by decide) (n / 10)).1
      | cons d ds => rwa [hdigits] at hquotient

theorem isCanonical_toDigits (n : Nat) : IsCanonical (Nat.toDigits 10 n) := by
  obtain ⟨hne, hdigits⟩ :=
    isDigits_ten_iff.mp (isDigits_toDigits (by decide : 1 < 10) (by decide) n)
  refine ⟨hne, hdigits, fun hhead => ?_⟩
  rcases Nat.eq_zero_or_pos n with rfl | hn
  · rfl
  · exact absurd hhead (head?_toDigits hn)

theorem IsCanonical.gives_iff (h : IsCanonical cs) :
    Gives cs n ↔ Nat.ofDigitChars 10 cs 0 = n := by
  have htrim : trim cs = cs := by
    have hnone : ∀ c ∈ ([] ++ [] : List Char), isBlank c = true := nofun
    have hkept := trim_append hnone (fun c hc => isBlank_of_isDigit (h.digits c hc)) h.nonempty
    rwa [List.nil_append, List.append_nil] at hkept
  rw [Text.gives_iff, htrim]
  constructor
  · rintro ⟨sign, digits, rfl, hsign, -, -, hn⟩
    rcases hsign with rfl | rfl
    · exact hn
    · exact absurd (h.digits '+' (by simp)) (by decide)
  · intro hn
    exact ⟨[], cs, rfl, Or.inl rfl, h.nonempty, h.digits, hn⟩

/-- Each number has one canonical numeral, and that one is written. -/
theorem decimal_iff {text : String} :
    text = decimal n ↔ IsCanonical text.toList ∧ Gives text.toList n := by
  rw [← String.toList_inj, toList_decimal]
  constructor
  · intro htext
    rw [htext, (isCanonical_toDigits n).gives_iff]
    exact ⟨isCanonical_toDigits n, Nat.ofDigitChars_ten_toDigits⟩
  · rintro ⟨hcanonical, hgives⟩
    rw [← hcanonical.gives_iff.mp hgives, hcanonical.toDigits_eq]

theorem natural?_trim_decimal (h : n < bound) :
    natural? 10 bound (trim (decimal n).toList) = some n :=
  natural?_trim_iff.mpr ⟨h, (decimal_iff.mp rfl).2⟩

end Canonical

end ActivityArchive.Text
