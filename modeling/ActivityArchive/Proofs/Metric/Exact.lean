import ActivityArchive.Metric.Value
import ActivityArchive.Proofs.Text.Numerals

/-!
Values that read back as they were written: words and strings. Words that are written in other units
come back where the units are not too small and not too large.
-/
namespace ActivityArchive

namespace Value

/-- Values whose text is read without loss. -/
def Exact (v : Value) : Prop := v.kind = .u32 ∨ v.kind = .u64 ∨ v.kind = .string

theorem exact_u32 (n : UInt32) : (Value.u32 n).Exact := Or.inl rfl

theorem exact_u64 (n : UInt64) : (Value.u64 n).Exact := Or.inr (Or.inl rfl)

theorem Exact.read? {v : Value} (h : v.Exact) : read? v.kind v.text = some v := by
  cases v with
  | u32 n =>
    show (Text.natural? 10 UInt32.size (Text.trim (Text.decimal n.toNat).toList)).map _ = _
    rw [Text.natural?_trim_decimal n.toNat_lt]
    simp
  | u64 n =>
    show (Text.natural? 10 UInt64.size (Text.trim (Text.decimal n.toNat).toList)).map _ = _
    rw [Text.natural?_trim_decimal n.toNat_lt]
    simp
  | float x => simp [Exact, kind] at h
  | double x => simp [Exact, kind] at h
  | string s => rfl

theorem word32?_u32 (n : UInt32) : (Value.u32 n).word32? = some n := by
  have hlt : n.toUInt64.toNat < UInt32.size := by
    rw [UInt32.toNat_toUInt64]
    exact n.toNat_lt
  simp only [word32?, word64?, if_pos hlt]
  simp

end Value

section Units

variable {x unit : UInt64}

theorem mul_div_word (hpos : 0 < unit.toNat) (h : x.toNat * unit.toNat < UInt64.size) :
    x * unit / unit = x := by
  apply UInt64.toNat_inj.mp
  rw [UInt64.toNat_div, UInt64.toNat_mul, Nat.mod_eq_of_lt h, Nat.mul_div_cancel _ hpos]

theorem div_mul_word (h : unit.toNat ∣ x.toNat) : x / unit * unit = x := by
  apply UInt64.toNat_inj.mp
  rw [UInt64.toNat_mul, UInt64.toNat_div, Nat.div_mul_cancel h, Nat.mod_eq_of_lt x.toNat_lt]

end Units

end ActivityArchive
