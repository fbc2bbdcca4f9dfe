import ActivityArchive.Proofs.Activity.Holding
import ActivityArchive.Proofs.Activity.Plan
import ActivityArchive.Proofs.Positions

/-!
The records of a slot by position, blank where there is none. Making room changes no record, and
what is done to one slot leaves the records of the other.
-/
namespace ActivityArchive

namespace SampleBuffer

variable {R : Type} {b : SampleBuffer R} {rs : List R} {i : Nat}

theorem column_overwrite (s : Slot) (rs : List R) (cs : List (Pair R)) :
    (overwrite s rs cs).map (·.get s) = rs.take cs.length ++
    (cs.map (·.get s)).drop rs.length := by
  fun_induction overwrite s rs cs with
  | case1 r rs c cs ih => simp [ih]
  | case2 rs cs hne =>
    cases rs with
    | nil => simp
    | cons r rs =>
      cases cs with
      | nil => simp
      | cons c cs => exact absurd rfl (hne r rs c cs rfl)

theorem column_overwrite_other (s : Slot) (rs : List R) (cs : List (Pair R)) :
    (overwrite s rs cs).map (·.get s.other) = cs.map (·.get s.other) := by
  fun_induction overwrite s rs cs with
  | case1 r rs c cs ih => simp [ih]
  | case2 => rfl

theorem column_fill (h : rs.length ≤ b.allocated) (s : Slot) :
    (b.fill s rs).column s = rs ++ (b.column s).drop rs.length := by
  show (overwrite s rs b.cells).map (·.get s) = _
  rw [column_overwrite, List.take_of_length_le (by exact h)]
  rfl

theorem column_fill_other (b : SampleBuffer R) (s : Slot) (rs : List R) :
    (b.fill s rs).column s.other = b.column s.other := column_overwrite_other s rs b.cells

theorem allocated_fill (b : SampleBuffer R) (s : Slot) (rs : List R) :
    (b.fill s rs).allocated = b.allocated := length_fill b s rs

variable [Inhabited R]

def recordAt (b : SampleBuffer R) (s : Slot) (i : Nat) : R := (b.column s).getD i default

theorem elementAt_eq (h : i < b.allocated) (s : Slot) : b.elementAt s i = .ok (b.recordAt s i) := by
  have h : i < b.cells.length := h
  simp [elementAt, recordAt, column, h]

theorem recordAt_clear (b : SampleBuffer R) (s : Slot) (i : Nat) :
    (b.clear s).recordAt s i = default := by
  simp only [recordAt, column, clear, List.map_map, List.getD_eq_getElem?_getD, List.getElem?_map]
  cases b.cells[i]? <;> simp

theorem column_clear (b : SampleBuffer R) (s : Slot) :
    (b.clear s).column s = List.replicate b.allocated default := by
  simp [column, clear, allocated, Function.comp_def, List.map_const']

theorem column_clear_other (b : SampleBuffer R) (s : Slot) :
    (b.clear s).column s.other = b.column s.other := by
  simp [column, clear]

theorem recordAt_ensure (b : SampleBuffer R) (t s : Slot) (count i : Nat) :
    (b.ensure t count).recordAt s i = b.recordAt s i := by
  have hcol : (b.ensure t count).column s = (b.ensure s count).column s := rfl
  rw [recordAt, hcol, column_ensure, getD_append_replicate]
  rfl

theorem recordAt_observe (b : SampleBuffer R) (t s : Slot) (count i : Nat) :
    (b.observe t count).recordAt s i = b.recordAt s i := recordAt_ensure b t s _ i

theorem recordAt_fill (h : rs.length ≤ b.allocated) (s : Slot) (i : Nat) :
    (b.fill s rs).recordAt s i = if i < rs.length then rs.getD i default else b.recordAt s i := by
  rw [recordAt, column_fill h, getD_append_drop rfl]
  rfl

/-- The first records observed in a slot, where there is room for them. -/
theorem take_records {s : Slot} {n : Nat} (h : min (b.observed.get s) n ≤ b.allocated) :
    (b.records s).take n = (List.range (min (b.observed.get s) n)).map (b.recordAt s) := by
  have hcol : (b.column s).length = b.allocated := length_column _ s
  refine List.ext_getElem ?_ fun i hi hi' => ?_
  · simp only [records, List.length_take, hcol, List.length_map, List.length_range]
    omega
  · rw [List.length_map, List.length_range] at hi'
    rw [List.getElem_map, List.getElem_range, recordAt, getD_of_lt (by omega)]
    simp only [records, List.getElem_take]

theorem records_eq_map {s : Slot} (h : b.observed.get s ≤ b.allocated) :
    b.records s = (List.range (b.observed.get s)).map (b.recordAt s) := by
  have hall := take_records (b := b) (s := s) (n := b.observed.get s) (by omega)
  have hlen : (b.records s).length ≤ b.observed.get s := List.length_take_le _ _
  rwa [Nat.min_self, List.take_of_length_le hlen] at hall

end SampleBuffer

namespace Activity

variable {R : Type} [Inhabited R]

def recordAt (a : Activity R) (s : Slot) (i : Nat) : R := a.buffer.recordAt s i

theorem take_records {a : Activity R} {s : Slot} {n : Nat}
    (h : min (a.buffer.observed.get s) n ≤ a.buffer.allocated) :
    (a.records s).take n = (List.range (min (a.buffer.observed.get s) n)).map (a.recordAt s) :=
  SampleBuffer.take_records h

theorem records_eq_map {a : Activity R} {s : Slot}
    (h : a.buffer.observed.get s ≤ a.buffer.allocated) :
    a.records s = (List.range (a.buffer.observed.get s)).map (a.recordAt s) :=
  SampleBuffer.records_eq_map h

/-- Nothing is left of what a slot held before it was loaded. -/
theorem recordAt_load (a : Activity R) (s : Slot) (rs : List R) (i : Nat) :
    (a.load s rs).recordAt s i = rs.getD i default := by
  have hroom : rs.length ≤ ((a.buffer.clear s).ensure s rs.length).allocated := by
    rw [SampleBuffer.allocated_ensure]
    exact Nat.le_max_right _ _
  show (((a.buffer.clear s).ensure s rs.length).fill s rs).recordAt s i = _
  rw [SampleBuffer.recordAt_fill hroom]
  split
  · rfl
  · rename_i hi
    rw [SampleBuffer.recordAt_ensure, SampleBuffer.recordAt_clear, getD_of_le (Nat.le_of_not_lt hi)]

theorem recordAt_load_other (a : Activity R) (s : Slot) (rs : List R) (i : Nat) :
    (a.load s rs).recordAt s.other i = a.recordAt s.other i := by
  show (((a.buffer.clear s).ensure s rs.length).fill s rs).recordAt s.other i = _
  rw [SampleBuffer.recordAt, SampleBuffer.column_fill_other]
  show ((a.buffer.clear s).ensure s rs.length).recordAt s.other i = _
  rw [SampleBuffer.recordAt_ensure, SampleBuffer.recordAt, SampleBuffer.column_clear_other]
  rfl

theorem observed_load (a : Activity R) (s : Slot) (rs : List R) :
    (a.load s rs).buffer.observed.get s = rs.length :=
  Pair.get_set_same _ s rs.length

theorem recordAt_prepare (a : Activity R) (s t : Slot) (i : Nat) :
    (a.prepare s).recordAt t i = a.recordAt t i := by
  show ((a.buffer.observe s a.count).observe s.other a.count).recordAt t i = _
  rw [SampleBuffer.recordAt_observe, SampleBuffer.recordAt_observe]
  rfl

end Activity

end ActivityArchive
