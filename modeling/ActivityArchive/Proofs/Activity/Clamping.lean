import ActivityArchive.Proofs.Activity.Aggregation
import ActivityArchive.Proofs.Activity.InterruptClamping
import ActivityArchive.Proofs.Activity.Parts

/-!
Activities that agree as far as they were planned for. Units past the planned count make buffers and
grids larger and are observed, but a sample and its truncation to the planned counts leave
activities that agree in both slots (`Activities.Clamped.load`), and so does the aggregation of
either.
-/
namespace ActivityArchive

open Record

/-- How many instances of each kind, and how many rows of interrupts, were planned for. -/
structure Counts where
  multi : Multi → Nat
  rows : Nat

/-- A sample without the units that were not planned for. -/
def Sample.clamp (c : Counts) (x : Sample) : Sample where
  toGroups := .ofFun (fun k => x.single k) (fun k => (x.multi k).take (c.multi k))
  timestamp := x.timestamp
  irq := x.irq.map (·.clamp c.rows)

namespace Activity

variable {R : Type} [Inhabited R] {a b : Activity R} {n : Nat} {s : Slot}

/-- Two activities that agree on the first `n` instances of both slots, for which they are planned.
-/
structure Clamped (n : Nat) (a b : Activity R) : Prop where
  count : a.count = n
  planned : b.planned = a.planned
  selection : b.selection = a.selection
  observed : ∀ s, min (a.buffer.observed.get s) n = min (b.buffer.observed.get s) n
  recordAt : ∀ s i, i < n → a.recordAt s i = b.recordAt s i
  room : ∀ s, min (a.buffer.observed.get s) n ≤ a.buffer.allocated
  room' : ∀ s, min (b.buffer.observed.get s) n ≤ b.buffer.allocated

theorem Clamped.count' (h : Clamped n a b) : b.count = n := by
  rw [Activity.count, h.planned]
  exact h.count

/-- An activity in which nothing was observed yet. -/
theorem clamped_of_empty (h : a.buffer = .empty) : Clamped a.count a a := by
  have hobserved : ∀ s, a.buffer.observed.get s = 0 := fun s => by
    rw [h]
    exact Pair.get_both 0 s
  refine ⟨rfl, rfl, rfl, fun _ => rfl, fun _ _ _ => rfl, fun s => ?_, fun s => ?_⟩ <;>
  · rw [hobserved]
    omega

/-- Where no instance was planned for, nothing has to agree. -/
theorem clamped_zero (hcount : a.count = 0) (hplanned : b.planned = a.planned)
    (hselection : b.selection = a.selection) : Clamped 0 a b where
  count := hcount
  planned := hplanned
  selection := hselection
  observed _ := by omega
  recordAt _ _ hi := absurd hi (Nat.not_lt_zero _)
  room _ := by omega
  room' _ := by omega

/-- The records that are exported. -/
theorem Clamped.records (h : Clamped n a b) (s : Slot) :
    (b.records s).take b.count = (a.records s).take a.count := by
  rw [h.count, h.count', take_records (h.room s), take_records (h.room' s), h.observed]
  refine List.map_congr_left fun i hi => (h.recordAt s i ?_).symm
  have hlt := List.mem_range.mp hi
  omega

section Load

theorem observed_load_other (a : Activity R) (s : Slot) (rs : List R) :
    (a.load s rs).buffer.observed.get s.other = a.buffer.observed.get s.other := by
  show ((a.buffer.observed.set s 0).set s rs.length).get s.other = _
  rw [Pair.get_set_other, Pair.get_set_other]

theorem allocated_load (a : Activity R) (s : Slot) (rs : List R) :
    (a.load s rs).buffer.allocated = max a.buffer.allocated rs.length := by
  refine (SampleBuffer.allocated_fill ..).trans ((SampleBuffer.allocated_ensure ..).trans ?_)
  simp [SampleBuffer.allocated, SampleBuffer.clear]

theorem room_load (h : ∀ t, min (a.buffer.observed.get t) n ≤ a.buffer.allocated) (s : Slot)
    (rs : List R) (t : Slot) :
    min ((a.load s rs).buffer.observed.get t) n ≤ (a.load s rs).buffer.allocated := by
  rw [allocated_load]
  rcases s.eq_or_other t with rfl | rfl
  · rw [observed_load]
    omega
  · rw [observed_load_other]
    exact Nat.le_trans (h _) (Nat.le_max_left _ _)

theorem Clamped.load (h : Clamped n a b) (s : Slot) (rs : List R) :
    Clamped n (a.load s rs) (b.load s (rs.take n)) where
  count := h.count
  planned := h.planned
  selection := h.selection
  observed t := by
    rcases s.eq_or_other t with rfl | rfl
    · rw [observed_load, observed_load, List.length_take]
      omega
    · rw [observed_load_other, observed_load_other]
      exact h.observed _
  recordAt t i hi := by
    rcases s.eq_or_other t with rfl | rfl
    · rw [recordAt_load, recordAt_load]
      simp [List.getD_eq_getElem?_getD, List.getElem?_take_of_lt hi]
    · rw [recordAt_load_other, recordAt_load_other]
      exact h.recordAt _ i hi
  room := room_load h.room s rs
  room' := room_load h.room' s (rs.take n)

end Load

theorem observed_prepare (a : Activity R) (s t : Slot) :
    (a.prepare s).buffer.observed.get t = max a.count (a.buffer.observed.get t) := by
  cases s <;> cases t <;> rfl

/-- What both slots observe is at least what was planned for. -/
theorem count_le_observed_prepare (a : Activity R) (s t : Slot) :
    a.count ≤ (a.prepare s).buffer.observed.get t := by
  rw [observed_prepare]
  exact Nat.le_max_left _ _

theorem Clamped.prepare (h : Clamped n a b) (s : Slot) : Clamped n (a.prepare s) (b.prepare s) where
  count := h.count
  planned := h.planned
  selection := h.selection
  observed t := by
    have ha := count_le_observed_prepare a s t
    have hb := count_le_observed_prepare b s t
    rw [h.count] at ha
    rw [h.count'] at hb
    omega
  recordAt t i hi := by
    rw [recordAt_prepare, recordAt_prepare]
    exact h.recordAt t i hi
  room t := by
    have hroom := count_le_prepare a s
    rw [h.count] at hroom
    exact Nat.le_trans (Nat.min_le_right _ _) hroom
  room' t := by
    have hroom := count_le_prepare b s
    rw [h.count'] at hroom
    exact Nat.le_trans (Nat.min_le_right _ _) hroom

section Aggregate

/-- Activities that agree, with room for all that was planned for and with the same units offline.
-/
structure Prepared (n : Nat) (a b : Activity R) : Prop extends Clamped n a b where
  full : n ≤ a.buffer.allocated
  full' : n ≤ b.buffer.allocated
  offline : ∀ i, b.offline.contains i = a.offline.contains i

/-- The same records are shown where the first `n` are read alike. -/
theorem Prepared.shown (h : Prepared n a b) {record record' : Nat → Except BufferError R}
    (hrecord : ∀ i < n, record' i = record i) :
    GroupSpec.shown b record' = GroupSpec.shown a record := by
  have hshown : (fun i => isShown i b.selection b.offline) =
      fun i => isShown i a.selection a.offline := by
    funext i
    rw [isShown, isShown, h.selection, h.offline]
  rw [GroupSpec.shown, GroupSpec.shown, h.count, h.count', hshown]
  refine mapM_congr fun i hi => ?_
  rw [hrecord i (List.mem_range.mp (List.mem_filter.mp hi).1)]

theorem Prepared.elementAt (h : Prepared n a b) (s : Slot) {i : Nat} (hi : i < n) :
    b.buffer.elementAt s i = a.buffer.elementAt s i := by
  have hfull := h.full
  have hfull' := h.full'
  rw [SampleBuffer.elementAt_eq (by omega), SampleBuffer.elementAt_eq (by omega)]
  exact congrArg Except.ok (h.recordAt s i hi).symm

variable [DecidableEq R] (add : R → R → R)

theorem planned_aggregate (a : Activity R) (s : Slot) :
    (a.aggregate add s).planned = a.planned := by
  rw [aggregate]
  split <;> rfl

theorem selection_aggregate (a : Activity R) (s : Slot) :
    (a.aggregate add s).selection = a.selection := by
  rw [aggregate]
  split <;> rfl

theorem aggregate_of_le {a : Activity R} {s : Slot} (h : ¬ 1 < a.count) :
    a.aggregate add s = a.prepare s :=
  if_neg fun hagg => h (of_decide_eq_true hagg)

theorem buffer_aggregate (a : Activity R) (s : Slot) :
    (∀ t, (a.aggregate add s).buffer.observed.get t = (a.prepare s).buffer.observed.get t) ∧
      (a.aggregate add s).buffer.allocated = (a.prepare s).buffer.allocated := by
  rw [aggregate]
  split
  · exact ⟨fun _ => rfl, SampleBuffer.allocated_fill _ s _⟩
  · exact ⟨fun _ => rfl, rfl⟩

/-- Last known counters and their sum are made of the units that were planned for. -/
theorem Clamped.recordAt_aggregate (h : Clamped n a b) (hmany : 1 < n) (s t : Slot) {i : Nat}
    (hi : i < n) : (a.aggregate add s).recordAt t i = (b.aggregate add s).recordAt t i := by
  have ha := aggregated add a s (h.count ▸ hmany)
  have hb := aggregated add b s (h.count' ▸ hmany)
  have hknown : ∀ i < n, lastKnown (a.recordAt s i) (a.recordAt s.other i) =
      lastKnown (b.recordAt s i) (b.recordAt s.other i) := by
    intro i hi
    rw [h.recordAt s i hi, h.recordAt s.other i hi]
  rcases s.eq_or_other t with rfl | rfl
  · rcases Nat.eq_zero_or_pos i with rfl | hpos
    · rw [ha.total, hb.total, h.count, h.count']
      refine congrArg (List.foldl add default) (List.map_congr_left fun i hi => hknown i ?_)
      have hlt := List.mem_range'_1.mp hi
      omega
    · rw [ha.unit i hpos (h.count ▸ hi), hb.unit i hpos (h.count' ▸ hi), hknown i hi]
  · rw [ha.other, hb.other, h.recordAt s.other i hi]

theorem Clamped.offline_aggregate (h : Clamped n a b) (hmany : 1 < n) (s : Slot) (i : Nat) :
    (b.aggregate add s).offline.contains i = (a.aggregate add s).offline.contains i := by
  have ha := aggregated add a s (h.count ▸ hmany)
  have hb := aggregated add b s (h.count' ▸ hmany)
  rw [Bool.eq_iff_iff, ha.offline, hb.offline, h.count, h.count']
  refine and_congr_right fun _ => and_congr_right fun hi => ?_
  rw [h.recordAt s i hi]

/-- Aggregation keeps two activities in agreement. -/
theorem Clamped.aggregate (h : Clamped n a b) (s : Slot) :
    Prepared n (a.aggregate add s) (b.aggregate add s) := by
  obtain ⟨hobserved, hallocated⟩ := buffer_aggregate add a s
  obtain ⟨hobserved', hallocated'⟩ := buffer_aggregate add b s
  have hprepare := h.prepare s
  have hfull : n ≤ (a.prepare s).buffer.allocated := h.count ▸ count_le_prepare a s
  have hfull' : n ≤ (b.prepare s).buffer.allocated := h.count' ▸ count_le_prepare b s
  refine ⟨⟨?_, ?_, ?_, fun t => ?_, fun t i hi => ?_, fun t => ?_, fun t => ?_⟩, ?_,
    ?_, fun i => ?_⟩
  · rw [Activity.count, planned_aggregate]
    exact h.count
  · rw [planned_aggregate, planned_aggregate, h.planned]
  · rw [selection_aggregate, selection_aggregate, h.selection]
  · rw [hobserved, hobserved']
    exact hprepare.observed t
  · by_cases hmany : 1 < n
    · exact h.recordAt_aggregate add hmany s t hi
    · rw [aggregate_of_le add (by rwa [h.count]), aggregate_of_le add (by rwa [h.count'])]
      exact hprepare.recordAt t i hi
  · rw [hallocated]
    omega
  · rw [hallocated']
    omega
  · exact hallocated ▸ hfull
  · exact hallocated' ▸ hfull'
  · by_cases hmany : 1 < n
    · exact h.offline_aggregate add hmany s i
    · rw [aggregate_of_le add (by rwa [h.count']), aggregate_of_le add (by rwa [h.count])]
      show (Bitmap.new b.count).contains i = (Bitmap.new a.count).contains i
      rw [h.count, h.count']

end Aggregate

end Activity

/-- How far a part of the activities has to agree. -/
def Part.Clamped (c : Counts) : (t : Part) → t.State → t.State → Prop
  | .header, x, y => x = y
  | .single _, x, y => x = y
  | .multi k, x, y => Activity.Clamped (c.multi k) x y
  | .interrupts, x, y => Interrupts.Clamped c.rows x y

namespace Activities

variable {c : Counts} {a b : Activities}

def Clamped (c : Counts) (a b : Activities) : Prop :=
  ∀ t : Part, t.Clamped c (a.part t) (b.part t)

/-- A sample and what was planned for of it are loaded alike. -/
theorem Clamped.load (h : Clamped c a b) (s : Slot) (x : Sample) :
    Clamped c (a.load s x) (b.load s (x.clamp c)) := by
  intro t
  cases t with
  | header => exact h .header
  | single k =>
    have hk : a.single k = b.single k := h (.single k)
    simp only [Activities.load, Sample.clamp, Sample.singles, part, Part.Clamped,
      Groups.single_ofFun, hk]
    rfl
  | multi k =>
    have hk := Activity.Clamped.load (h (.multi k)) s (x.multi k)
    simpa only [Activities.load, Sample.clamp, part, Part.Clamped, Groups.multi_ofFun] using hk
  | interrupts => exact Interrupts.Clamped.load (h .interrupts) s x.irq

end Activities

end ActivityArchive
