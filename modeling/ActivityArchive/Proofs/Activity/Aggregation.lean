import ActivityArchive.Group.PerCpu
import ActivityArchive.Proofs.Buffer.Records
import ActivityArchive.Proofs.Selection.Members

/-!
Aggregation of a slot. Each unit that is planned for gets its last known counters, record 0 their
sum, and exactly the blank units become offline (`aggregated`). The CPUs and their packet queues are
aggregated alike.
-/
namespace ActivityArchive

variable {R : Type} [Inhabited R] [DecidableEq R] {add : R → R → R} {count i : Nat}
  {curr prev : List R}

/-- Up to which number both samples have units. -/
def unitsEnd (count : Nat) (curr prev : List R) : Nat := min count (min curr.length prev.length)

/-- The counters that stand for a unit, by its number. -/
def knownAt (curr prev : List R) (i : Nat) : R :=
  lastKnown (curr.getD i default) (prev.getD i default)

omit [DecidableEq R] in
theorem units_eq (count : Nat) (curr prev : List R) :
    units count curr prev = (List.range' 1 (unitsEnd count curr prev - 1)).map fun i =>
      (i, curr.getD i default, prev.getD i default) := by
  apply List.ext_getElem
  · simp [units, unitsEnd]
  · intro j hj hj'
    have hlt : 1 + j < min curr.length prev.length := by
      simp [units] at hj
      omega
    have hcurr : curr[j + 1]? = some curr[j + 1] := List.getElem?_eq_getElem _
    have hprev : prev[j + 1]? = some prev[j + 1] := List.getElem?_eq_getElem _
    simp [units, Nat.add_comm 1 j, hcurr, hprev]

theorem known_units (count : Nat) (curr prev : List R) :
    ((units count curr prev).map fun u => lastKnown u.2.1 u.2.2) =
      (List.range' 1 (unitsEnd count curr prev - 1)).map (knownAt curr prev) := by
  rw [units_eq, List.map_map]
  rfl

theorem mem_offlineUnits : i ∈ offlineUnits (units count curr prev) ↔
    1 ≤ i ∧ i < unitsEnd count curr prev ∧ curr.getD i default = default := by
  rw [offlineUnits, units_eq, List.mem_map]
  constructor
  · rintro ⟨u, hu, rfl⟩
    obtain ⟨hu, hblank⟩ := List.mem_filter.mp hu
    obtain ⟨j, hj, rfl⟩ := List.mem_map.mp hu
    obtain ⟨hpos, hlt⟩ := List.mem_range'_1.mp hj
    exact ⟨hpos, by omega, of_decide_eq_true hblank⟩
  · rintro ⟨hpos, hlt, hblank⟩
    refine ⟨_, List.mem_filter.mpr ⟨List.mem_map_of_mem (List.mem_range'_1.mpr ⟨hpos, ?_⟩),
      ?_⟩, rfl⟩
    · omega
    · exact decide_eq_true hblank

theorem withAggregate_eq (hne : curr ≠ []) :
    withAggregate add (units count curr prev) curr =
      ((List.range' 1 (unitsEnd count curr prev - 1)).map (knownAt curr prev)).foldl add default ::
        ((List.range' 1 (unitsEnd count curr prev - 1)).map (knownAt curr prev) ++
          curr.tail.drop (unitsEnd count curr prev - 1)) := by
  cases curr with
  | nil => exact absurd rfl hne
  | cons r rest =>
    simp only [withAggregate, known_units, List.tail_cons, List.length_map, List.length_range',
      List.cons_append]

theorem length_withAggregate :
    (withAggregate add (units count curr prev) curr).length = curr.length := by
  by_cases hne : curr = []
  · rw [hne]
    rfl
  · have hpos := List.length_pos_iff.mpr hne
    have hend : unitsEnd count curr prev ≤ curr.length := by
      rw [unitsEnd]
      omega
    rw [withAggregate_eq hne]
    simp
    omega

theorem getD_withAggregate_zero (hne : curr ≠ []) :
    (withAggregate add (units count curr prev) curr).getD 0 default =
      ((List.range' 1 (unitsEnd count curr prev - 1)).map (knownAt curr prev)).foldl
        add default := by
  rw [withAggregate_eq hne]
  rfl

theorem getD_withAggregate (hi : 1 ≤ i) :
    (withAggregate add (units count curr prev) curr).getD i default =
      if i < unitsEnd count curr prev then knownAt curr prev i else curr.getD i default := by
  by_cases hne : curr = []
  · have hnone : ¬ i < unitsEnd count curr prev := by
      rw [hne, unitsEnd]
      simp
    rw [if_neg hnone, hne]
    rfl
  · obtain ⟨j, rfl⟩ : ∃ j, i = j + 1 := ⟨i - 1, by omega⟩
    have hlen : ((List.range' 1 (unitsEnd count curr prev - 1)).map (knownAt curr prev)).length =
        unitsEnd count curr prev - 1 := by simp
    rw [withAggregate_eq hne, List.getD_cons_succ, getD_append_drop hlen]
    by_cases hj : j + 1 < unitsEnd count curr prev
    · have hlt : j < unitsEnd count curr prev - 1 := by omega
      rw [if_pos hlt, if_pos hj, getD_of_lt (by rw [hlen]; exact hlt)]
      simp [Nat.add_comm]
    · have hlt : ¬ j < unitsEnd count curr prev - 1 := by omega
      rw [if_neg hlt, if_neg hj]
      simp [List.getD_eq_getElem?_getD, List.getElem?_tail]

namespace Activity

/-- The units of a slot, with their records in both slots. -/
def unitsAt (a : Activity R) (s : Slot) : List (Nat × R × R) :=
  units a.count (a.buffer.column s) (a.buffer.column s.other)

/-- The records of a slot with last known counters and their sum. -/
def summed (add : R → R → R) (a : Activity R) (s : Slot) : List R :=
  withAggregate add (a.unitsAt s) (a.buffer.column s)

def aggregate (add : R → R → R) (a : Activity R) (s : Slot) : Activity R :=
  let a := a.prepare s
  if isAggregated a.count then
    { a with
      buffer := a.buffer.fill s (a.summed add s)
      offline := a.offline.setAll (offlineUnits (a.unitsAt s)) }
  else a

/-- What aggregation makes of a slot. -/
structure Aggregated (add : R → R → R) (a b : Activity R) (s : Slot) : Prop where
  planned : b.planned = a.planned
  selection : b.selection = a.selection
  room : a.count ≤ b.buffer.allocated
  unit : ∀ i, 1 ≤ i → i < a.count →
    b.recordAt s i = lastKnown (a.recordAt s i) (a.recordAt s.other i)
  total : b.recordAt s 0 = ((List.range' 1 (a.count - 1)).map fun i =>
    lastKnown (a.recordAt s i) (a.recordAt s.other i)).foldl add default
  other : ∀ i, b.recordAt s.other i = a.recordAt s.other i
  offline : ∀ i, b.offline.contains i = true ↔
    1 ≤ i ∧ i < a.count ∧ a.recordAt s i = default

section

variable {a : Activity R} {s : Slot}

theorem length_summed : (a.summed add s).length = a.buffer.allocated := by
  rw [summed, unitsAt, length_withAggregate, SampleBuffer.length_column]

variable (h : a.count ≤ a.buffer.allocated)

include h

omit [Inhabited R] [DecidableEq R] in
theorem unitsEnd_columns :
    unitsEnd a.count (a.buffer.column s) (a.buffer.column s.other) = a.count := by
  rw [unitsEnd, SampleBuffer.length_column, SampleBuffer.length_column]
  omega

theorem getD_summed (hpos : 1 ≤ i) (hi : i < a.count) : (a.summed add s).getD i default =
    lastKnown (a.recordAt s i) (a.recordAt s.other i) := by
  rw [summed, unitsAt, getD_withAggregate hpos, unitsEnd_columns h, if_pos hi]
  rfl

theorem getD_summed_zero (hpos : 0 < a.count) : (a.summed add s).getD 0 default =
    ((List.range' 1 (a.count - 1)).map fun i =>
      lastKnown (a.recordAt s i) (a.recordAt s.other i)).foldl add default := by
  have hne : a.buffer.column s ≠ [] := by
    rw [← List.length_pos_iff, SampleBuffer.length_column]
    omega
  rw [summed, unitsAt, getD_withAggregate_zero hne, unitsEnd_columns h]
  rfl

theorem mem_offline : i ∈ offlineUnits (a.unitsAt s) ↔
    1 ≤ i ∧ i < a.count ∧ a.recordAt s i = default := by
  rw [unitsAt, mem_offlineUnits, unitsEnd_columns h]
  rfl

end

theorem aggregated (add : R → R → R) (a : Activity R) (s : Slot) (h : 1 < a.count) :
    Aggregated add a (a.aggregate add s) s := by
  have hroom : (a.prepare s).count ≤ (a.prepare s).buffer.allocated := count_le_prepare a s
  have hcount : (a.prepare s).count = a.count := rfl
  have hrun : a.aggregate add s = { a.prepare s with
      buffer := (a.prepare s).buffer.fill s ((a.prepare s).summed add s)
      offline := (a.prepare s).offline.setAll (offlineUnits ((a.prepare s).unitsAt s)) } :=
    if_pos (decide_eq_true h)
  have hrecord : ∀ i < a.count,
      (a.aggregate add s).recordAt s i = ((a.prepare s).summed add s).getD i default := by
    intro i hi
    rw [hrun]
    refine (SampleBuffer.recordAt_fill (Nat.le_of_eq length_summed) s i).trans (if_pos ?_)
    rw [length_summed]
    omega
  refine ⟨by rw [hrun]; rfl, by rw [hrun]; rfl, ?_, fun i hpos hi => ?_, ?_,
    fun i => ?_, fun i => ?_⟩
  · rw [hrun, SampleBuffer.allocated_fill]
    exact hroom
  · rw [hrecord i hi, getD_summed hroom hpos hi, recordAt_prepare, recordAt_prepare]
  · rw [hrecord 0 (by omega), getD_summed_zero hroom (by omega), hcount]
    simp only [recordAt_prepare]
  · rw [hrun]
    show SampleBuffer.recordAt _ s.other i = _
    rw [SampleBuffer.recordAt, SampleBuffer.column_fill_other]
    exact recordAt_prepare a s s.other i
  · rw [hrun]
    show ((Bitmap.new a.count).setAll _).contains i = true ↔ _
    rw [Bitmap.contains_setAll (Bitmap.wellFormed_new _), mem_offline hroom,
      recordAt_prepare, hcount]
    simp [Bitmap.contains_new]

end Activity

end ActivityArchive
