import ActivityArchive.Proofs.Selection.Members
import Mathlib.Data.Set.Card

/-!
Bitmaps under any calls. What is in a bitmap was set and not cleared since, and beside that it knows
its size only (`bitmap_reads_as_set`). Counting and comparing look at whole words, so both rest on a
tail of the last word that no call ever writes to: a well-formed bitmap has as many bits as members
(`WellFormed.count_eq`) and is determined by its size and its members (`WellFormed.eq_iff`).
-/
namespace ActivityArchive.Bitmap

/-- What a bitmap is made from. -/
inductive Origin
  /-- Room for some indices. -/
  | sized (size : Nat)
  /-- Every index below a size. -/
  | full (size : Nat)
  | blank
  | listed (indices : List Nat)

inductive Call
  | set (idx : Nat)
  | clear (idx : Nat)

def Origin.bitmap : Origin → Bitmap
  | .sized size => .new size
  | .full size => .all size
  | .blank => .empty
  | .listed indices => .ofList indices

/-- The room that is asked for. -/
def Origin.room : Origin → Nat
  | .sized size | .full size => size
  | .blank | .listed _ => 0

/-- The indices that are set to begin with. -/
def Origin.indices : Origin → List Nat
  | .sized _ | .blank => []
  | .full size => List.range size
  | .listed indices => indices

def call (b : Bitmap) : Call → Bitmap
  | .set idx => b.set idx
  | .clear idx => b.clear idx

/-- The bitmap after some calls on a new one. -/
def after (o : Origin) (calls : List Call) : Bitmap := calls.foldl call o.bitmap

/-- All that was done to a bitmap. -/
def history (o : Origin) (calls : List Call) : List Call := o.indices.map .set ++ calls

/-- The index was set and not cleared since. -/
def Stands (i : Nat) (calls : List Call) : Prop :=
  ∃ before since, calls = before ++ .set i :: since ∧ .clear i ∉ since

/-- One past the index that is set. -/
def Call.reach : Call → Nat
  | .set idx => idx + 1
  | .clear _ => 0

variable {b b' : Bitmap} {i : Nat} {calls : List Call}

theorem after_eq_foldl_new (o : Origin) (calls : List Call) :
    after o calls = (history o calls).foldl call (.new o.room) := by
  have hbitmap : o.bitmap = (o.indices.map Call.set).foldl call (.new o.room) := by
    rw [List.foldl_map]
    cases o <;> rfl
  rw [after, history, List.foldl_append, ← hbitmap]

theorem not_stands_nil (i : Nat) : ¬ Stands i [] := by
  rintro ⟨before, since, hcalls, -⟩
  simp at hcalls

/-- Only the last call tells. -/
theorem stands_concat (i : Nat) (calls : List Call) (c : Call) :
    Stands i (calls ++ [c]) ↔ c = .set i ∨ (Stands i calls ∧ c ≠ .clear i) := by
  constructor
  · rintro ⟨before, since, hcalls, hsince⟩
    rcases List.eq_nil_or_concat since with rfl | ⟨since, last, rfl⟩
    · obtain ⟨-, hlast⟩ := List.append_inj' hcalls rfl
      exact Or.inl (List.head_eq_of_cons_eq hlast)
    · rw [List.concat_eq_append, ← List.cons_append, ← List.append_assoc] at hcalls
      obtain ⟨rfl, hlast⟩ := List.append_inj' hcalls rfl
      obtain rfl := List.head_eq_of_cons_eq hlast
      rw [List.concat_eq_append, List.mem_append, not_or, List.mem_singleton] at hsince
      exact Or.inr ⟨⟨before, since, rfl, hsince.1⟩, Ne.symm hsince.2⟩
  · rintro (rfl | ⟨⟨before, since, rfl, hsince⟩, hc⟩)
    · exact ⟨calls, [], rfl, List.not_mem_nil⟩
    · refine ⟨before, since ++ [c], by simp, ?_⟩
      rw [List.mem_append, not_or, List.mem_singleton]
      exact ⟨hsince, Ne.symm hc⟩

/-- A word without one of its bits. -/
theorem testBit_and_not_bit (w : UInt64) (i : Nat) {j : Nat} (hj : j < 64) :
    (w &&& ~~~bit i).toNat.testBit j = (w.toNat.testBit j && !decide (j = i % 64)) := by
  have hnot : (~~~bit i).toNat.testBit j = !(bit i).toNat.testBit j := by
    show (~~~(bit i).toBitVec).toNat.testBit j = !(bit i).toBitVec.toNat.testBit j
    rw [BitVec.testBit_toNat, BitVec.getLsbD_not, BitVec.testBit_toNat, decide_eq_true hj,
      Bool.true_and]
  rw [UInt64.toNat_and, Nat.testBit_and, hnot, testBit_bit]

theorem WellFormed.bitAt_clear (h : b.WellFormed) (i j : Nat) :
    (b.clear i).bitAt j = (b.bitAt j && !decide (j = i)) := by
  unfold clear
  split
  · have hj : j % 64 < 64 := Nat.mod_lt _ (by decide)
    simp only [bitAt, List.getD_eq_getElem?_getD, List.getElem?_modify]
    by_cases hword : i / 64 = j / 64
    · have hsame : j % 64 = i % 64 ↔ j = i := by omega
      cases b.words[j / 64]? with
      | none => simp
      | some w => simpa [hword, hsame] using testBit_and_not_bit w i hj
    · have hne : j ≠ i := fun he => hword (by rw [he])
      simp [hword, hne]
  · rename_i hi
    by_cases hj : j = i
    · simp [hj, h.bounded i (Nat.le_of_not_lt hi)]
    · simp [hj]

theorem WellFormed.clear (h : b.WellFormed) (i : Nat) : (b.clear i).WellFormed := by
  have hsize : (b.clear i).size = b.size := by
    unfold Bitmap.clear
    split <;> rfl
  have hwords : (b.clear i).words.length = b.words.length := by
    unfold Bitmap.clear
    split
    · exact List.length_modify _ _ _
    · rfl
  refine ⟨by rw [hwords, hsize, h.length], fun j hj => ?_⟩
  rw [h.bitAt_clear, h.bounded j (hsize ▸ hj), Bool.false_and]

theorem WellFormed.contains_clear (h : b.WellFormed) (i j : Nat) :
    (b.clear i).contains j = (b.contains j && !decide (j = i)) := by
  rw [(h.clear i).contains_eq, h.contains_eq, h.bitAt_clear]

theorem size_call (b : Bitmap) (c : Call) : (b.call c).size = max b.size c.reach := by
  cases c with
  | set idx =>
    show (b.grow (idx + 1)).size = max b.size (idx + 1)
    unfold grow
    split
    · exact (Nat.max_eq_right (Nat.le_of_lt ‹_›)).symm
    · exact (Nat.max_eq_left (Nat.le_of_not_lt ‹_›)).symm
  | clear idx =>
    show (b.clear idx).size = max b.size 0
    rw [Nat.max_zero, Bitmap.clear]
    split <;> rfl

theorem WellFormed.call (h : b.WellFormed) (c : Call) : (b.call c).WellFormed := by
  cases c with
  | set idx => exact h.set idx
  | clear idx => exact h.clear idx

/-- What a call does to the members. -/
theorem WellFormed.contains_call (h : b.WellFormed) (c : Call) (i : Nat) :
    (b.call c).contains i = true ↔ c = .set i ∨ (b.contains i = true ∧ c ≠ .clear i) := by
  cases c with
  | set idx =>
    rw [Bitmap.call, contains_set h, Bool.or_eq_true, decide_eq_true_eq]
    simp [eq_comm (a := i)]
  | clear idx =>
    rw [Bitmap.call, h.contains_clear, Bool.and_eq_true, Bool.not_eq_true', decide_eq_false_iff_not]
    simp [eq_comm (a := i)]

/-- Every word holds the next 64 bits. -/
theorem count_eq_countP (words : List UInt64) (size : Nat) :
    count ⟨words, size⟩ = (List.range (64 * words.length)).countP
      (bitAt ⟨words, size⟩) := by
  rw [count, ← List.sum_eq_foldl]
  induction words with
  | nil => rfl
  | cons w ws ih =>
    have hfirst : (List.range 64).countP (bitAt ⟨w :: ws, size⟩) = ones w := by
      refine List.countP_congr fun i hi => ?_
      have hlt := List.mem_range.mp hi
      simp [bitAt, Nat.div_eq_of_lt hlt, Nat.mod_eq_of_lt hlt]
    have hrest : bitAt ⟨w :: ws, size⟩ ∘ (64 + ·) = bitAt ⟨ws, size⟩ := by
      funext i
      have hdiv : (64 + i) / 64 = i / 64 + 1 := by omega
      have hmod : (64 + i) % 64 = i % 64 := by omega
      simp [bitAt, hdiv, hmod]
    rw [List.map_cons, List.sum_cons, ih, List.length_cons, Nat.mul_succ, Nat.add_comm (64 * _),
      List.range_add, List.countP_append, List.countP_map, hfirst, hrest]

theorem WellFormed.count_eq (h : b.WellFormed) : b.count = b.toList.length := by
  obtain ⟨more, hmore⟩ : ∃ more, 64 * b.words.length = b.size + more := by
    refine ⟨64 * b.words.length - b.size, ?_⟩
    rw [h.length, wordsFor]
    omega
  have htail : ((List.range more).map (b.size + ·)).countP b.bitAt = 0 := by
    refine List.countP_eq_zero.mpr fun i hi => ?_
    obtain ⟨j, -, rfl⟩ := List.mem_map.mp hi
    rw [h.bounded _ (Nat.le_add_right _ _)]
    exact Bool.false_ne_true
  calc b.count = (List.range (64 * b.words.length)).countP b.bitAt := count_eq_countP b.words b.size
    _ = (List.range b.size).countP b.bitAt := by
      rw [hmore, List.range_add, List.countP_append, htail, Nat.add_zero]
    _ = (List.range b.size).countP b.contains := by rw [← funext h.contains_eq]
    _ = b.toList.length := List.countP_eq_length_filter

theorem pairwise_toList (b : Bitmap) : b.toList.Pairwise (· < ·) :=
  List.pairwise_lt_range.filter b.contains

theorem mem_toList : i ∈ b.toList ↔ b.contains i = true := by
  rw [toList, List.mem_filter, List.mem_range]
  refine ⟨And.right, fun hi => ⟨?_, hi⟩⟩
  rw [contains, Bool.and_eq_true, decide_eq_true_eq] at hi
  exact hi.1

theorem WellFormed.count_eq_ncard (h : b.WellFormed) :
    b.count = {i | b.contains i = true}.ncard := by
  have hset : {i | b.contains i = true} = (b.toList.toFinset : Set Nat) := by
    ext i
    simp [mem_toList]
  have hnodup : b.toList.Nodup := (pairwise_toList b).imp Nat.ne_of_lt
  rw [h.count_eq, hset, Set.ncard_coe_finset, List.toFinset_card_of_nodup hnodup]

theorem WellFormed.eq_iff (h : b.WellFormed) (h' : b'.WellFormed) :
    b = b' ↔ b.size = b'.size ∧ ∀ i, b.contains i = b'.contains i := by
  refine ⟨fun he => by simp [he], fun ⟨hsize, hcontains⟩ => ?_⟩
  have hbits : ∀ i, b.bitAt i = b'.bitAt i := fun i => by
    rw [← h.contains_eq, ← h'.contains_eq, hcontains]
  have hlen : b.words.length = b'.words.length := by rw [h.length, h'.length, hsize]
  have hwords : b.words = b'.words := by
    refine List.ext_getElem hlen fun pos hpos hpos' => ?_
    refine UInt64.toNat_inj.mp (Nat.eq_of_testBit_eq fun j => ?_)
    by_cases hj : j < 64
    · have hdiv : (64 * pos + j) / 64 = pos := by omega
      have hmod : (64 * pos + j) % 64 = j := by omega
      have hbit := hbits (64 * pos + j)
      rwa [bitAt, bitAt, hdiv, hmod, getD_of_lt hpos, getD_of_lt hpos'] at hbit
    · -- no word has a bit there
      have hpow : 2 ^ 64 ≤ 2 ^ j := Nat.pow_le_pow_right (by decide) (Nat.le_of_not_lt hj)
      rw [Nat.testBit_lt_two_pow (Nat.lt_of_lt_of_le (UInt64.toNat_lt _) hpow),
        Nat.testBit_lt_two_pow (Nat.lt_of_lt_of_le (UInt64.toNat_lt _) hpow)]
  obtain ⟨words, size⟩ := b
  obtain ⟨words', size'⟩ := b'
  obtain rfl : words = words' := hwords
  obtain rfl : size = size' := hsize
  rfl

/-- What is left of a bitmap with room for `room` indices after `calls`. -/
structure Follows (room : Nat) (calls : List Call) (b : Bitmap) : Prop where
  wellFormed : b.WellFormed
  size : b.size = (calls.map Call.reach).foldl max room
  contains : ∀ i, b.contains i = true ↔ Stands i calls

theorem follows_new (room : Nat) : Follows room [] (.new room) :=
  ⟨wellFormed_new room, rfl, fun i => by simp [contains_new, not_stands_nil]⟩

theorem Follows.call {room : Nat} (h : Follows room calls b) (c : Call) :
    Follows room (calls ++ [c]) (b.call c) where
  wellFormed := h.wellFormed.call c
  size := by rw [size_call, h.size, List.map_append, List.foldl_append]; rfl
  contains i := by rw [h.wellFormed.contains_call, h.contains, stands_concat]

theorem follows_foldl (room : Nat) (calls : List Call) :
    Follows room calls (calls.foldl call (.new room)) := by
  induction calls using List.reverseRecOn with
  | nil => exact follows_new room
  | append_singleton calls c ih =>
    rw [List.foldl_append]
    exact ih.call c

theorem follows_after (o : Origin) (calls : List Call) :
    Follows o.room (history o calls) (after o calls) := by
  rw [after_eq_foldl_new]
  exact follows_foldl o.room (history o calls)

/-- A bitmap as the set of the indices that stand in `calls`. -/
structure ReadsAsSet (room : Nat) (calls : List Call) (b : Bitmap) : Prop where
  words : b.words.length = (b.size + 63) / 64
  tail : ∀ i, b.size ≤ i → b.bitAt i = false
  contains : ∀ i, b.contains i = true ↔ Stands i calls
  count : b.count = {i | Stands i calls}.ncard
  increasing : b.toList.Pairwise (· < ·)
  mem_toList : ∀ i, i ∈ b.toList ↔ Stands i calls
  size : b.size = (calls.map Call.reach).foldl max room

theorem Follows.readsAsSet {room : Nat} (h : Follows room calls b) : ReadsAsSet room calls b where
  words := h.wellFormed.length
  tail := h.wellFormed.bounded
  contains := h.contains
  count := by simp only [h.wellFormed.count_eq_ncard, h.contains]
  increasing := pairwise_toList b
  mem_toList i := Bitmap.mem_toList.trans (h.contains i)
  size := h.size

/-- However a bitmap is made and whatever is set and cleared, also past its end, it is the set of
the indices that were set and not cleared since; and no two bitmaps of one size have the same
members. -/
theorem bitmap_reads_as_set (o : Origin) (calls : List Call) :
    ReadsAsSet o.room (history o calls) (after o calls) ∧
      ∀ o' calls', after o calls = after o' calls' ↔
        (after o calls).size = (after o' calls').size ∧
          ∀ i, (after o calls).contains i = (after o' calls').contains i := by
  have h := follows_after o calls
  exact ⟨h.readsAsSet, fun o' calls' => h.wellFormed.eq_iff
    (follows_after o' calls').wellFormed⟩

/-- What was set and cleared again leaves only its size behind. -/
example : after (.sized 10) [.set 3, .set 70, .clear 3, .clear 1000] = after (.listed [70]) [] := by
  decide

end ActivityArchive.Bitmap
