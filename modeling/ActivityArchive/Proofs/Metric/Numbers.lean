import ActivityArchive.Proofs.Metric.Exact

/-!
The texts of values that are words or strings. Each value reads back from its text (`Exact.read?`).
A word is read from every numeral of a number that fits it, whatever blanks stand around, and from
nothing else; of all these texts the canonical one is written (`texts_read_back`).
-/
namespace ActivityArchive.Value

/-- How the words of a kind are written and read. -/
structure NumberText {W : Type} (kind : Kind) (value : W → Value) (number : W → Nat) :
    Prop where
  accepts : ∀ text v, read kind text = .ok v ↔
    ∃ w, v = value w ∧ Text.Gives text.toList (number w)
  canonical : ∀ w text, text = (value w).text ↔
    Text.IsCanonical text.toList ∧ read kind text = .ok (value w)

theorem read_ok_iff {kind : Kind} {text : String} {v : Value} :
    read kind text = .ok v ↔ read? kind text = some v := by
  unfold read
  cases read? kind text <;> simp

section

variable {W : Type} {kind : Kind} {bound : Nat} {value : W → Value} {number : W → Nat}
  {ofNumber : Nat → W}

/-- Words that are numbered below a bound. -/
structure Numbered (bound : Nat) (number : W → Nat) (ofNumber : Nat → W) : Prop where
  number_lt : ∀ w, number w < bound
  ofNumber_number : ∀ w, ofNumber (number w) = w
  number_ofNumber : ∀ n < bound, number (ofNumber n) = n

theorem read_word_iff (hw : Numbered bound number ofNumber)
    (hread : ∀ text, read? kind text =
      (Text.natural? 10 bound (Text.trim text.toList)).map fun n => value (ofNumber n))
    (text : String) (v : Value) :
    read kind text = .ok v ↔ ∃ w, v = value w ∧ Text.Gives text.toList (number w) := by
  rw [read_ok_iff, hread, Option.map_eq_some_iff]
  constructor
  · rintro ⟨n, hn, rfl⟩
    obtain ⟨hlt, hgives⟩ := Text.natural?_trim_iff.mp hn
    exact ⟨ofNumber n, rfl, (hw.number_ofNumber n hlt).symm ▸ hgives⟩
  · rintro ⟨w, rfl, hgives⟩
    exact ⟨number w, Text.natural?_trim_iff.mpr ⟨hw.number_lt w, hgives⟩,
      congrArg value (hw.ofNumber_number w)⟩

theorem numberText (hw : Numbered bound number ofNumber)
    (hread : ∀ text, read? kind text =
      (Text.natural? 10 bound (Text.trim text.toList)).map fun n => value (ofNumber n))
    (htext : ∀ w, (value w).text = Text.decimal (number w))
    (hinj : ∀ w w', value w = value w' → w = w') : NumberText kind value number where
  accepts := read_word_iff hw hread
  canonical w text := by
    have hgives : read kind text = .ok (value w) ↔ Text.Gives text.toList (number w) := by
      rw [read_word_iff hw hread]
      refine ⟨?_, fun h => ⟨w, rfl, h⟩⟩
      rintro ⟨w', hv, h⟩
      rwa [hinj w w' hv]
    rw [htext, Text.decimal_iff, hgives]

end

theorem numbered_u32 : Numbered UInt32.size UInt32.toNat Nat.toUInt32 :=
  ⟨UInt32.toNat_lt, fun _ => UInt32.ofNat_toNat, fun _ => UInt32.toNat_ofNat_of_lt⟩

theorem numbered_u64 : Numbered UInt64.size UInt64.toNat Nat.toUInt64 :=
  ⟨UInt64.toNat_lt, fun _ => UInt64.ofNat_toNat, fun _ => UInt64.toNat_ofNat_of_lt⟩

theorem numberText_u32 : NumberText .u32 .u32 UInt32.toNat :=
  numberText numbered_u32 (fun _ => rfl) (fun _ => rfl) fun _ _ => Value.u32.inj

theorem numberText_u64 : NumberText .u64 .u64 UInt64.toNat :=
  numberText numbered_u64 (fun _ => rfl) (fun _ => rfl) fun _ _ => Value.u64.inj

/-- Words and strings read back from their texts. A text is read as a word exactly when it gives a
number that fits, and the text of a word is the only canonical one that is read as that word. -/
theorem texts_read_back :
    (∀ v : Value, v.Exact → read v.kind v.text = .ok v) ∧
      NumberText .u32 .u32 UInt32.toNat ∧ NumberText .u64 .u64 UInt64.toNat :=
  ⟨fun _ hv => read_ok_iff.mpr hv.read?, numberText_u32, numberText_u64⟩

/-- A string keeps its blanks. -/
theorem blank_string_kept :
    (Value.string "\u2003 7 ").Exact ∧ read .string "\u2003 7 " = .ok (.string "\u2003 7 ") :=
  ⟨Or.inr (Or.inr rfl), texts_read_back.1 (.string "\u2003 7 ") (Or.inr (Or.inr rfl))⟩

end ActivityArchive.Value
