import ActivityArchive.Group.Interrupt
import ActivityArchive.Proofs.Positions
import Mathlib.Data.List.Nodup

/-!
Interrupt tables read by row and by the name of a line, so that the order of the lines does not
matter.
-/
namespace ActivityArchive.Record.InterruptTable

variable {t : InterruptTable} {row : Nat} {name : String}

/-- The count of a line in a row, zero where the table does not show it. -/
def countAt (t : InterruptTable) (row : Nat) (name : String) : UInt64 :=
  ((t.lines.zip (t.counts.getD row [])).lookup name).getD 0

/-- Tables with different lines, the sum first, and a count for each of them in every row. -/
structure Proper (t : InterruptTable) : Prop where
  nodup : t.lines.Nodup
  first : t.lines.head? = some GroupSpec.sumLine
  width : ∀ row ∈ t.counts, row.length = t.lines.length

theorem countAt_eq (h : (t.counts.getD row []).length ≤ t.lines.length) (name : String) :
    t.countAt row name = (t.counts.getD row []).getD (t.lines.idxOf name) 0 := by
  rw [countAt, lookup_zip _ _ _ h]
  exact (List.getD_eq_getElem?_getD ..).symm

/-- The count of a line stands at the position of its name. -/
theorem countAt_of_getElem? (hnd : t.lines.Nodup)
    (hwidth : ∀ row ∈ t.counts, row.length = t.lines.length) {i : Nat}
    (hname : t.lines[i]? = some name) (row : Nat) :
    t.countAt row name = (t.counts.getD row []).getD i 0 := by
  obtain ⟨hi, rfl⟩ := List.getElem?_eq_some_iff.mp hname
  have hfit : (t.counts.getD row []).length ≤ t.lines.length := by
    by_cases hrow : row < t.counts.length
    · rw [getD_of_lt hrow]
      exact Nat.le_of_eq (hwidth _ (List.getElem_mem hrow))
    · rw [getD_of_le (Nat.le_of_not_lt hrow)]
      exact Nat.zero_le _
  rw [countAt_eq hfit, hnd.idxOf_getElem i hi]

/-- The counts of a row, line by line. -/
theorem Proper.row_eq (h : t.Proper) (hrow : row < t.counts.length) :
    t.counts[row] = t.lines.map (t.countAt row) := by
  have hwidth := h.width _ (List.getElem_mem hrow)
  refine List.ext_getElem (by rw [hwidth, List.length_map]) fun i hi hline => ?_
  rw [List.length_map] at hline
  rw [List.getElem_map, countAt_of_getElem? h.nodup h.width (List.getElem?_eq_getElem hline),
    getD_of_lt hrow, getD_of_lt hi]

theorem countAt_of_length_le (h : t.counts.length ≤ row) (name : String) :
    t.countAt row name = 0 := by
  rw [countAt, getD_of_le h, List.zip_nil_right]
  rfl

theorem countAt_of_notMem (h : name ∉ t.lines) (row : Nat) : t.countAt row name = 0 := by
  have hnone : (t.lines.zip (t.counts.getD row [])).lookup name = none := by
    refine List.lookup_eq_none_iff.mpr fun p hp => bne_iff_ne.mpr fun he => h ?_
    exact he ▸ (List.of_mem_zip hp).1
  rw [countAt, hnone]
  rfl

/-- The sum of a line over the rows of the CPUs among the first rows. -/
def total (t : InterruptTable) (rows : Nat) (name : String) : Nat :=
  (List.range' 1 (rows - 1)).foldl (fun n row => n + (t.countAt row name).toNat) 0

/-- Rows in which a line is not counted add nothing. -/
theorem foldl_countAt_zero {rows : List Nat} (h : ∀ row ∈ rows, t.countAt row name = 0)
    (n : Nat) :
    rows.foldl (fun n row => n + (t.countAt row name).toNat) n = n := by
  induction rows generalizing n with
  | nil => rfl
  | cons row rows ih =>
    rw [List.foldl_cons, h row List.mem_cons_self]
    exact ih (fun other hother => h other (List.mem_cons_of_mem row hother)) n

/-- Rows that a table does not have add nothing. -/
theorem total_of_length_le {rows : Nat} (hpos : 1 ≤ t.counts.length)
    (h : t.counts.length ≤ rows)
    (name : String) : t.total rows name = t.total t.counts.length name := by
  obtain ⟨more, rfl⟩ : ∃ more, rows = t.counts.length + more :=
    ⟨rows - t.counts.length, by omega⟩
  have hsplit : List.range' 1 (t.counts.length + more - 1) =
      List.range' 1 (t.counts.length - 1) ++ List.range' t.counts.length more := by
    have happend := List.range'_append_1 (s := 1) (m := t.counts.length - 1) (n := more)
    rw [Nat.add_sub_cancel' hpos] at happend
    rw [happend, Nat.sub_add_comm hpos]
  rw [total, hsplit, List.foldl_append, foldl_countAt_zero, total]
  intro row hrow
  exact countAt_of_length_le (List.mem_range'_1.mp hrow).1 name

/-- Nor do those of more rows than both the table and the room for it have. -/
theorem total_min {room : Nat} (hpos : 1 ≤ t.counts.length)
    (h : t.counts.length ≤ room) (rows : Nat)
    (name : String) : t.total (min rows room) name = t.total (min t.counts.length rows) name := by
  rcases Nat.le_total t.counts.length rows with hle | hle
  · rw [Nat.min_eq_left hle, total_of_length_le hpos (Nat.le_min.mpr ⟨hle, h⟩)]
  · rw [Nat.min_eq_right hle, Nat.min_eq_left (Nat.le_trans hle h)]

theorem total_of_notMem (h : name ∉ t.lines) (rows : Nat) : t.total rows name = 0 :=
  foldl_countAt_zero (fun row _ => countAt_of_notMem h row) 0

section Columns

variable {u : InterruptTable}

/-- The lines of a table, each with its counts row by row. -/
def columns (t : InterruptTable) : List (String × List UInt64) :=
  t.lines.zipIdx.map fun (name, i) => (name, t.counts.map (·.getD i 0))

/-- Tables of as many rows, of which one has the lines of the other in some order, each with its
column. -/
structure Rearranged (t u : InterruptTable) : Prop where
  rows : t.counts.length = u.counts.length
  width : ∀ row ∈ t.counts, row.length = t.lines.length
  width' : ∀ row ∈ u.counts, row.length = u.lines.length
  columns : t.columns.Perm u.columns

/-- The counts of a line, row by row. -/
def column (t : InterruptTable) (name : String) : List UInt64 :=
  (List.range t.counts.length).map fun row => t.countAt row name

theorem columns_eq (hnd : t.lines.Nodup)
    (hwidth : ∀ row ∈ t.counts, row.length = t.lines.length) :
    t.columns = t.lines.map fun name => (name, t.column name) := by
  refine List.ext_getElem (by simp [columns]) fun i hi hline => ?_
  rw [List.length_map] at hline
  simp only [columns, column, List.getElem_map, List.getElem_zipIdx, Nat.zero_add, Prod.mk.injEq,
    true_and]
  refine List.ext_getElem (by simp) fun row hrow _ => ?_
  rw [List.length_map] at hrow
  rw [List.getElem_map, List.getElem_map, List.getElem_range,
    countAt_of_getElem? hnd hwidth (List.getElem?_eq_getElem hline), getD_of_lt hrow]

end Columns

end ActivityArchive.Record.InterruptTable
