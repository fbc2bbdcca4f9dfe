import ActivityArchive.Config
import ActivityArchive.Proofs.Positions

/-!
The members of a bitmap. A well-formed one has the words its size needs and no bit past the size, so
that growing adds no member.
-/
namespace ActivityArchive

namespace Bitmap

/-- The bit of an index, whether within the size or not. -/
def bitAt (b : Bitmap) (i : Nat) : Bool := (b.words.getD (i / 64) 0).toNat.testBit (i % 64)

structure WellFormed (b : Bitmap) : Prop where
  length : b.words.length = wordsFor b.size
  bounded : ∀ i, b.size ≤ i → b.bitAt i = false

variable {b : Bitmap} {j : Nat} {is : List Nat}

theorem WellFormed.contains_eq (h : b.WellFormed) (i : Nat) : b.contains i = b.bitAt i := by
  by_cases hi : i < b.size
  · simp [contains, bitAt, hi]
  · simp [contains, hi, h.bounded i (Nat.le_of_not_lt hi)]

theorem bitAt_new (size i : Nat) : (new size).bitAt i = false := by
  have hword : (List.replicate (wordsFor size) (0 : UInt64)).getD (i / 64) 0 = 0 := by
    rw [List.getD_eq_getElem?_getD, List.getElem?_replicate]
    split <;> rfl
  rw [bitAt, new, hword]
  exact Nat.zero_testBit _

theorem wellFormed_new (size : Nat) : (new size).WellFormed :=
  ⟨List.length_replicate, fun i _ => bitAt_new size i⟩

theorem contains_new (size i : Nat) : (new size).contains i = false := by
  rw [(wellFormed_new size).contains_eq, bitAt_new]

theorem bitAt_grow (b : Bitmap) (size i : Nat) : (b.grow size).bitAt i = b.bitAt i := by
  unfold grow
  split
  · rw [bitAt, getD_append_replicate, bitAt]
  · rfl

theorem le_size_grow (b : Bitmap) (size : Nat) : size ≤ (b.grow size).size := by
  unfold grow
  split
  · exact Nat.le_refl _
  · omega

theorem WellFormed.grow (h : b.WellFormed) (size : Nat) : (b.grow size).WellFormed := by
  refine ⟨?_, fun i hi => ?_⟩
  · unfold Bitmap.grow
    split
    · have hlen := h.length
      simp only [wordsFor, List.length_append, List.length_replicate] at hlen ⊢
      omega
    · exact h.length
  · rw [bitAt_grow]
    refine h.bounded i (Nat.le_trans ?_ hi)
    unfold Bitmap.grow
    split
    · exact Nat.le_of_lt ‹_›
    · exact Nat.le_refl _

theorem testBit_bit (i j : Nat) : (bit i).toNat.testBit j = decide (j = i % 64) := by
  have hshift : ((i % 64).toUInt64.toNat) % 64 = i % 64 := by
    show (i % 64) % UInt64.size % 64 = i % 64
    simp only [UInt64.size]
    omega
  rw [bit, UInt64.toNat_shiftLeft, hshift, Nat.testBit_mod_two_pow]
  have hone : (1 : UInt64).toNat = 1 := rfl
  rw [hone, Nat.testBit_shiftLeft]
  by_cases hij : j = i % 64
  · simp [hij, Nat.mod_lt]
  · by_cases hle : i % 64 ≤ j
    · have hone : Nat.testBit 1 (j - i % 64) = false := by
        rw [Bool.eq_false_iff, ne_eq, Nat.testBit_one_eq_true_iff_self_eq_zero]
        omega
      simp [hij, hone]
    · simp [hij, hle]

theorem bitAt_set (h : b.WellFormed) (i j : Nat) :
    (b.set i).bitAt j = (decide (j = i) || b.bitAt j) := by
  have hgrow := h.grow (i + 1)
  have hlt : i / 64 < (b.grow (i + 1)).words.length := by
    have hsize := le_size_grow b (i + 1)
    rw [hgrow.length, wordsFor]
    omega
  rw [← bitAt_grow b (i + 1)]
  simp only [bitAt, set, List.getD_eq_getElem?_getD, List.getElem?_modify]
  by_cases hword : i / 64 = j / 64
  · rw [hword] at hlt
    rw [List.getElem?_eq_getElem hlt]
    have hbit := testBit_bit i (j % 64)
    have hsame : j % 64 = i % 64 ↔ j = i := by omega
    simp [hword, UInt64.toNat_or, Nat.testBit_or, hbit, hsame, Bool.or_comm]
  · have hne : j ≠ i := fun he => hword (by rw [he])
    simp [hword, hne]

theorem WellFormed.set (h : b.WellFormed) (i : Nat) : (b.set i).WellFormed := by
  have hgrow := h.grow (i + 1)
  refine ⟨?_, fun j hj => ?_⟩
  · show ((b.grow (i + 1)).words.modify _ _).length = wordsFor (b.grow (i + 1)).size
    rw [List.length_modify]
    exact hgrow.length
  · have hj : (b.grow (i + 1)).size ≤ j := hj
    have hsize := le_size_grow b (i + 1)
    have hne : j ≠ i := by omega
    rw [bitAt_set h, ← bitAt_grow b (i + 1), hgrow.bounded j hj]
    simp [hne]

theorem contains_set (h : b.WellFormed) (i j : Nat) :
    (b.set i).contains j = (decide (j = i) || b.contains j) := by
  rw [(h.set i).contains_eq, h.contains_eq, bitAt_set h]

theorem WellFormed.setAll (h : b.WellFormed) (is : List Nat) : (b.setAll is).WellFormed := by
  induction is generalizing b with
  | nil => exact h
  | cons i is ih => exact ih (h.set i)

theorem contains_setAll (h : b.WellFormed) :
    (b.setAll is).contains j = true ↔ j ∈ is ∨ b.contains j := by
  induction is generalizing b with
  | nil => simp [setAll]
  | cons i is ih =>
    rw [show b.setAll (i :: is) = (b.set i).setAll is from rfl, ih (h.set i), contains_set h]
    simp [or_assoc, or_left_comm]

end Bitmap

namespace Config

/-- Whether an index is selected among `count`. -/
def Selects (c : Config) (count i : Nat) : Prop :=
  (i = 0 ∧ c.includeAll = true) ∨
    match c.cpus with
    | none => 1 ≤ i ∧ i < count
    | some cpus => ∃ cpu ∈ cpus, cpu + 1 = i

theorem contains_cpuSelection (c : Config) (count i : Nat) :
    (c.cpuSelection count).contains i = true ↔ c.Selects count i := by
  have hnew := Bitmap.wellFormed_new count
  have hstart : ∃ b : Bitmap, (if c.includeAll then (Bitmap.new count).set 0
    else .new count) = b ∧
      b.WellFormed ∧ (b.contains i = true ↔ i = 0 ∧ c.includeAll = true) := by
    by_cases hall : c.includeAll = true
    · refine ⟨_, if_pos hall, hnew.set 0, ?_⟩
      simp [Bitmap.contains_set hnew, Bitmap.contains_new, hall]
    · refine ⟨_, if_neg hall, hnew, ?_⟩
      simp [Bitmap.contains_new, hall]
  obtain ⟨b, hb, hwf, hmem⟩ := hstart
  unfold cpuSelection Selects
  simp only [hb]
  cases c.cpus with
  | none =>
    rw [Bitmap.contains_setAll hwf, hmem, List.mem_range'_1, or_comm]
    refine or_congr Iff.rfl ?_
    omega
  | some cpus =>
    rw [Bitmap.contains_setAll hwf, hmem, List.mem_map, or_comm]

/-- Everything is selected: the aggregate, and every CPU that has a record below `count`. -/
structure SelectsAll (c : Config) (count : Nat) : Prop where
  aggregate : c.includeAll = true
  cpus : ∀ cpus, c.cpus = some cpus → ∀ cpu, cpu + 1 < count → cpu ∈ cpus

theorem SelectsAll.selects {c : Config} {count i : Nat} (h : c.SelectsAll count) (hi : i < count) :
    c.Selects count i := by
  cases i with
  | zero => exact Or.inl ⟨rfl, h.aggregate⟩
  | succ i =>
    refine Or.inr ?_
    cases hcpus : c.cpus with
    | none => exact ⟨Nat.succ_pos i, hi⟩
    | some cpus => exact ⟨i, h.cpus cpus hcpus i hi, rfl⟩

end Config

end ActivityArchive
