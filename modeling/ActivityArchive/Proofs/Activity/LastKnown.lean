import ActivityArchive.Proofs.Activity.Aggregation
import Mathlib.Data.List.Induction

/-!
Last known counters over a run of samples. As long as every sample is loaded into the slot that does
not hold the one before it, and aggregated there, each slot holds for every unit the counters of the
latest sample in which it has any (`Recalls.aggregate`). A sample without records is not aggregated
but clears its slot, so that nothing from before it is recalled (`sinceGap`).
-/
namespace ActivityArchive

variable {R : Type} [Inhabited R] [DecidableEq R] {add : R → R → R} {count i : Nat}
  {samples : List (List R)} {x : List R}

/-- The counters of a unit in the latest sample in which it has any, blank where there is none. -/
def latest (i : Nat) (samples : List (List R)) : R :=
  ((samples.filterMap (·[i]?)).filter (· ≠ default)).getLastD default

theorem latest_append (i : Nat) (samples : List (List R)) (x : List R) :
    latest i (samples ++ [x]) = lastKnown (x.getD i default) (latest i samples) := by
  rw [latest, List.filterMap_append, List.filter_append, List.getD_eq_getElem?_getD, lastKnown]
  rcases hx : x[i]? with _ | r
  · simp [hx, latest]
  · by_cases hr : r = default
    · simp [hx, hr, latest]
    · simp [hx, hr]

/-- Whatever holds of the records of all samples holds of last known counters. -/
theorem latest_induction {P : R → Prop} (hblank : P default)
    (h : ∀ x ∈ samples, ∀ r ∈ x, P r) (i : Nat) : P (latest i samples) := by
  induction samples using List.reverseRecOn with
  | nil => exact hblank
  | append_singleton samples x ih =>
    rw [latest_append, lastKnown]
    split
    · exact ih fun y hy => h y (List.mem_append_left _ hy)
    · rename_i hne
      have hi : i < x.length := Nat.lt_of_not_le fun hle => hne (getD_of_le hle)
      rw [getD_of_lt hi]
      exact h x (by simp) _ (List.getElem_mem hi)

/-- The counters of a unit are blank, or those of a sample. -/
theorem latest_eq (i : Nat) (samples : List (List R)) :
    latest i samples = default ∨ ∃ x ∈ samples, x.getD i default = latest i samples := by
  induction samples using List.reverseRecOn with
  | nil => exact Or.inl rfl
  | append_singleton samples x ih =>
    rw [latest_append, lastKnown]
    split
    · exact ih.imp_right fun ⟨y, hy, h⟩ => ⟨y, List.mem_append_left _ hy, h⟩
    · exact Or.inr ⟨x, by simp, rfl⟩

/-- The samples after the last one without records. -/
def sinceGap (samples : List (List R)) : List (List R) :=
  samples.foldl (fun kept x => if x.isEmpty then [] else kept ++ [x]) []

omit [Inhabited R] [DecidableEq R] in
@[simp] theorem sinceGap_nil : sinceGap ([] : List (List R)) = [] := rfl

omit [Inhabited R] [DecidableEq R] in
theorem sinceGap_gap (samples : List (List R)) : sinceGap (samples ++ [[]]) = [] := by
  simp [sinceGap]

omit [Inhabited R] [DecidableEq R] in
theorem sinceGap_concat (samples : List (List R)) (hx : x ≠ []) :
    sinceGap (samples ++ [x]) = sinceGap samples ++ [x] := by
  simp [sinceGap, hx]

omit [Inhabited R] [DecidableEq R] in
theorem sinceGap_eq (h : ∀ x ∈ samples, x ≠ []) : sinceGap samples = samples := by
  induction samples using List.reverseRecOn with
  | nil => rfl
  | append_singleton samples x ih =>
    rw [sinceGap_concat samples (h x (by simp)), ih fun y hy => h y (List.mem_append_left _ hy)]

omit [Inhabited R] [DecidableEq R] in
theorem mem_of_mem_sinceGap (h : x ∈ sinceGap samples) : x ∈ samples := by
  induction samples using List.reverseRecOn with
  | nil => cases h
  | append_singleton samples y ih =>
    by_cases hy : y = []
    · rw [hy, sinceGap_gap] at h
      cases h
    · rw [sinceGap_concat samples hy] at h
      rcases List.mem_append.mp h with h | h
      · exact List.mem_append_left _ (ih h)
      · exact List.mem_append_right _ h

namespace Activity

variable {a b : Activity R} {s : Slot}

/-- A slot in which every unit has its last known counters. -/
def Recalls (a : Activity R) (s : Slot) (samples : List (List R)) : Prop :=
  ∀ i, 1 ≤ i → i < a.count → a.recordAt s i = latest i samples

/-- What a slot holds after the sample `x` was aggregated in it. -/
structure HoldsLatest (add : R → R → R) (count : Nat) (samples : List (List R)) (x : List R)
    (a : Activity R) (s : Slot) : Prop where
  unit : ∀ i, 1 ≤ i → i < count →
    a.buffer.elementAt s i = .ok (latest i (samples ++ [x]))
  total : a.buffer.elementAt s 0 =
    .ok (((List.range' 1 (count - 1)).map fun i => latest i (samples ++ [x])).foldl add default)
  offline : ∀ i, a.offline.contains i = true ↔ 1 ≤ i ∧ i < count ∧
    x.getD i default = default

theorem HoldsLatest.recordAt (h : HoldsLatest add count samples x a s) (hpos : 1 ≤ i)
    (hi : i < count) : a.recordAt s i = latest i (samples ++ [x]) := by
  have hunit := h.unit i hpos hi
  by_cases hroom : i < a.buffer.allocated
  · rw [SampleBuffer.elementAt_eq hroom] at hunit
    exact Except.ok.inj hunit
  · have hnone : a.buffer.cells[i]? = none := List.getElem?_eq_none (Nat.le_of_not_lt hroom)
    simp [SampleBuffer.elementAt, hnone] at hunit

theorem lastKnown_load (h : a.Recalls s.other samples) (hpos : 1 ≤ i) (hi : i < a.count) :
    lastKnown ((a.load s x).recordAt s i) ((a.load s x).recordAt s.other i) =
      latest i (samples ++ [x]) := by
  rw [recordAt_load, recordAt_load_other, h i hpos hi, latest_append]

/-- A sample that is loaded and aggregated. -/
theorem Recalls.aggregate (h : a.Recalls s.other samples) (hcount : 1 < a.count) :
    HoldsLatest add a.count samples x ((a.load s x).aggregate add s) s := by
  have hload : (a.load s x).count = a.count := rfl
  have hagg := aggregated add (a.load s x) s hcount
  have hroom : a.count ≤ ((a.load s x).aggregate add s).buffer.allocated := hagg.room
  refine ⟨fun i hpos hi => ?_, ?_, fun i => ?_⟩
  · rw [SampleBuffer.elementAt_eq (Nat.lt_of_lt_of_le hi hroom)]
    exact congrArg _ ((hagg.unit i hpos hi).trans (lastKnown_load h hpos hi))
  · rw [SampleBuffer.elementAt_eq (by omega)]
    refine congrArg _ (hagg.total.trans (congrArg (List.foldl add default) ?_))
    refine List.map_congr_left fun i hi => ?_
    obtain ⟨hpos, hlt⟩ := List.mem_range'_1.mp hi
    exact lastKnown_load h hpos (by omega)
  · rw [hagg.offline, recordAt_load]
    rfl

/-- What is recalled now is what the next sample finds in the other slot. -/
theorem HoldsLatest.recalls (h : HoldsLatest add a.count samples x a s) :
    a.Recalls s (samples ++ [x]) := fun _ hpos hi => h.recordAt hpos hi

end Activity

end ActivityArchive
