import ActivityArchive.Proofs.Activity.Aggregation
import ActivityArchive.Proofs.Activity.RowTotals
import ActivityArchive.Proofs.Buffer.GridCalls
import ActivityArchive.Proofs.Record.CpuTimes
import ActivityArchive.Proofs.Selection.Calls

/-!
Aggregates of samples of any shape. Two samples need not have records for equally many units, nor
for as many as are asked for, and the units that are offline already may be any. Only units in both
samples are looked at; what is marked, replaced and added up among them is said word by word
(`aggregates_of_any_shape`).
-/
namespace ActivityArchive

open Record

section

variable {R : Type} [Inhabited R] {add : R → R → R} {words : List (R → UInt64)} {count : Nat}
  {curr prev : List R} {offline : Bitmap}

/-- The words of a unit, which both samples have, are all zero now. -/
def IsIdle (words : List (R → UInt64)) (count : Nat) (curr prev : List R) (i : Nat) : Prop :=
  1 ≤ i ∧ i < unitsEnd count curr prev ∧ ∀ f ∈ words, f (curr.getD i default) = 0

instance (i : Nat) : Decidable (IsIdle words count curr prev i) :=
  inferInstanceAs (Decidable (1 ≤ i ∧ i < unitsEnd count curr prev ∧ ∀ f ∈ words, _))

/-- What the records `curr` and the units that are offline are made into. -/
structure RecordTotals (words : List (R → UInt64)) (count : Nat) (curr prev : List R)
    (offline : Bitmap) (curr' : List R) (offline' : Bitmap) : Prop where
  length : curr'.length = curr.length
  marked : ∀ i, offline'.contains i = true ↔
    offline.contains i = true ∨ IsIdle words count curr prev i
  replaced : ∀ i, IsIdle words count curr prev i → curr'.getD i default = prev.getD i default
  kept : ∀ i, 1 ≤ i → ¬ IsIdle words count curr prev i →
    curr'.getD i default = curr.getD i default
  total : curr ≠ [] → ∀ f ∈ words, f (curr'.getD 0 default) =
    UInt64.ofNat ((List.range' 1 (unitsEnd count curr prev - 1)).foldl
      (fun n i => n + (f (curr'.getD i default)).toNat) 0)

theorem isIdle_iff (h : Wordwise add words) {i : Nat} (hpos : 1 ≤ i)
    (hi : i < unitsEnd count curr prev) :
    IsIdle words count curr prev i ↔ curr.getD i default = default := by
  rw [h.eq_default_iff]
  exact ⟨fun hidle => hidle.2.2, fun hzero => ⟨hpos, hi, hzero⟩⟩

variable [DecidableEq R]

theorem recordTotals (h : Wordwise add words) (hoffline : offline.WellFormed) (count : Nat)
    (curr prev : List R) :
    RecordTotals words count curr prev offline (withAggregate add (units count curr prev) curr)
      (offline.setAll (offlineUnits (units count curr prev))) where
  length := length_withAggregate
  marked i := by
    rw [Bitmap.contains_setAll hoffline, mem_offlineUnits, h.eq_default_iff, or_comm]
    rfl
  replaced i hidle := by
    rw [getD_withAggregate hidle.1, if_pos hidle.2.1, knownAt, lastKnown,
      if_pos ((isIdle_iff h hidle.1 hidle.2.1).mp hidle)]
  kept i hpos hidle := by
    rw [getD_withAggregate hpos]
    split
    · rw [isIdle_iff h hpos ‹_›] at hidle
      rw [knownAt, lastKnown, if_neg hidle]
    · rfl
  total hne f hf := by
    -- The records that are added up are those that are left behind.
    have hleft : (List.range' 1 (unitsEnd count curr prev - 1)).map (knownAt curr prev) =
        (List.range' 1 (unitsEnd count curr prev - 1)).map fun i =>
          (withAggregate add (units count curr prev) curr).getD i default := by
      refine List.map_congr_left fun i hi => ?_
      obtain ⟨hpos, hlt⟩ := List.mem_range'_1.mp hi
      exact ((getD_withAggregate hpos).trans (if_pos (by omega))).symm
    rw [getD_withAggregate_zero hne, hleft, h.word_sum hf, List.foldl_map]

end

/-- How far the ticks of the CPUs that are not idle have grown, where they have. -/
def onlineTicks (count : Nat) (curr prev : List CpuTimes) : Nat :=
  ((List.range' 1 (unitsEnd count curr prev - 1)).filter fun i =>
      ¬ IsIdle CpuTimes.words count curr prev i).foldl
    (fun n i => n + ((curr.getD i default).total % UInt64.size -
      (prev.getD i default).total % UInt64.size)) 0

theorem aggregateCpus_interval (count : Nat) (curr prev : List CpuTimes) (offline : Bitmap) :
    (aggregateCpus count curr prev offline).1 = UInt64.ofNat (onlineTicks count curr prev) := by
  have honline : ((units count curr prev).filter fun u => u.2.1 ≠ default) =
      ((List.range' 1 (unitsEnd count curr prev - 1)).filter fun i =>
        ¬ IsIdle CpuTimes.words count curr prev i).map fun i =>
          (i, curr.getD i default, prev.getD i default) := by
    rw [units_eq, List.filter_map]
    refine congrArg _ (List.filter_congr fun i hi => ?_)
    obtain ⟨hpos, hlt⟩ := List.mem_range'_1.mp hi
    exact decide_eq_decide.mpr (not_congr (isIdle_iff CpuTimes.wordwise hpos (by omega)).symm)
  rw [aggregateCpus, honline, List.map_map, foldl_add_eq, List.foldl_map, onlineTicks]
  simp only [Function.comp_apply, cpuInterval, toNat_satSub, CpuTimes.toNat_ticks_eq]

/-- Whatever is asked for and whatever is offline already, aggregation marks the units that are
blank now and no others, lets their last known records stand in for them, adds up the units and
leaves all else alone. The interval is that of the units it does not mark. Rows of interrupts are
marked and added up as well, and nothing stands in for them. -/
theorem aggregates_of_any_shape (o : Bitmap.Origin) (marks : List Bitmap.Call) (count : Nat) :
    (∀ curr prev : List CpuTimes,
      RecordTotals CpuTimes.words count curr prev (.after o marks)
        (aggregateCpus count curr prev (.after o marks)).2.1
        (aggregateCpus count curr prev (.after o marks)).2.2 ∧
      (aggregateCpus count curr prev (.after o marks)).1 =
        UInt64.ofNat (onlineTicks count curr prev)) ∧
    (∀ curr prev : List Softnet,
      RecordTotals Softnet.words count curr prev (.after o marks)
        (aggregateSoftnet count curr prev (.after o marks)).1
        (aggregateSoftnet count curr prev (.after o marks)).2) ∧
    ∀ (calls : List (GridBuffer.Call UInt64)) (s : Slot), ∃ g' offline',
      aggregateInterrupts count (.after calls) s (.after o marks) = .ok (g', offline') ∧
      GroupSpec.RowTotals count (.after calls) s (.after o marks) g' offline' := by
  have hoffline := (Bitmap.follows_after o marks).wellFormed
  refine ⟨fun curr prev => ⟨?_, aggregateCpus_interval count curr prev _⟩,
    fun curr prev => ?_, fun calls s => ?_⟩
  · exact recordTotals CpuTimes.wordwise hoffline count curr prev
  · exact recordTotals Softnet.wordwise hoffline count curr prev
  · have hsized := (GridBuffer.plain_after calls).1
    exact ⟨_, _, GroupSpec.aggregateInterrupts_eq hsized count s _,
      GroupSpec.rowTotals hsized hoffline count s⟩

/-- Of three units the second is blank, and the sample before has no record of the third. -/
example :
    aggregateSoftnet 9 [{}, { processed := 7 }, {}, { processed := 1 }]
      [{}, { processed := 2 }, { processed := 5 }] .empty =
    ([{ processed := 12 }, { processed := 7 }, { processed := 5 }, { processed := 1 }],
      Bitmap.empty.set 2) := by decide

end ActivityArchive
