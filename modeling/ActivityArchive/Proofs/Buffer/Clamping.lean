import ActivityArchive.Activity.Interrupts
import ActivityArchive.Proofs.Buffer.Cells
import ActivityArchive.Proofs.Steps

/-!
Grids that agree on their first rows. Rows behind them may be more in one grid than in the other;
what is written there is not seen in the first rows, and what is written into a first row is written
into both.
-/
namespace ActivityArchive

theorem Slot.eq_or_other (s t : Slot) : t = s ∨ t = s.other := by
  cases s <;> cases t <;> simp [Slot.other]

namespace GridBuffer

variable {R : Type} [Inhabited R] {g g' h : GridBuffer R} {s t : Slot} {n cpu line : Nat}

theorem recordAt_congr (hlines : g'.lines = g.lines)
    (hcells : g'.cells.map (·.get t) = g.cells.map (·.get s)) (cpu line : Nat) :
    g'.recordAt t cpu line = g.recordAt s cpu line := by
  simp only [recordAt, rowCells, List.map_take, List.map_drop, hlines, hcells]

theorem recordAt_clear_other (g : GridBuffer R) (s : Slot) (cpu line : Nat) :
    (g.clear s).recordAt s.other cpu line = g.recordAt s.other cpu line := by
  refine recordAt_congr ?_ ?_ cpu line
  · rfl
  · simp [clear]

theorem recordAt_setRow_other (g : GridBuffer R) (s : Slot) (row : Nat) (rs : List R)
    (cpu line : Nat) :
    (g.setRow s row rs).recordAt s.other cpu line = g.recordAt s.other cpu line := by
  refine recordAt_congr ?_ ?_ cpu line
  · rfl
  · refine List.ext_getElem (by simp [setRow]) fun i hi hi' => ?_
    simp only [setRow, List.getElem_map, List.getElem_mapIdx]
    split
    · split <;> simp
    · rfl

theorem recordAt_setAt_other {r : R} (hset : g.setAt s cpu line r = .ok g') (c l : Nat) :
    g'.recordAt s.other c l = g.recordAt s.other c l := by
  rw [setAt, offset?] at hset
  split at hset
  · obtain rfl := Except.ok.inj hset
    refine recordAt_congr ?_ ?_ c l
    · rfl
    · refine List.ext_getElem (by simp) fun i hi hi' => ?_
      simp only [List.getElem_map, List.getElem_modify]
      split <;> simp
  · cases hset

/-- Two grids with lines alike that agree on their first `n` rows, in both slots. -/
structure Clamped (n : Nat) (g h : GridBuffer R) : Prop where
  sized : g.Sized
  sized' : h.Sized
  lines : g.lines = h.lines
  cpus : min g.cpus n = min h.cpus n
  observed : ∀ s, min (g.observed.get s).1 n = min (h.observed.get s).1 n
  recordAt : ∀ s cpu line, cpu < n → g.recordAt s cpu line = h.recordAt s cpu line

theorem Clamped.refl (hg : g.Sized) (n : Nat) : Clamped n g g :=
  ⟨hg, hg, rfl, rfl, fun _ => rfl, fun _ _ _ _ => rfl⟩

theorem Clamped.clear (hc : Clamped n g h) (s : Slot) : Clamped n (g.clear s) (h.clear s) where
  sized := sized_clear hc.sized s
  sized' := sized_clear hc.sized' s
  lines := hc.lines
  cpus := hc.cpus
  observed t := by
    rcases s.eq_or_other t with rfl | rfl
    · simp [GridBuffer.clear]
    · simpa [GridBuffer.clear] using hc.observed s.other
  recordAt t cpu line hcpu := by
    rcases s.eq_or_other t with rfl | rfl
    · rw [recordAt_clear, recordAt_clear]
    · rw [recordAt_clear_other, recordAt_clear_other]
      exact hc.recordAt s.other cpu line hcpu

/-- Room for some rows, of which only the first ones count. -/
theorem Clamped.observe (hc : Clamped n g h) (s : Slot) (rows lines : Nat) :
    Clamped n (g.observe s rows lines) (h.observe s (min rows n) lines) where
  sized := sized_observe hc.sized s _ _
  sized' := sized_observe hc.sized' s _ _
  lines := congrArg (max · lines) hc.lines
  cpus := by
    have hcpus := hc.cpus
    show min (max g.cpus rows) n = min (max h.cpus (min rows n)) n
    omega
  observed t := by
    rcases s.eq_or_other t with rfl | rfl
    · have hrows := hc.observed t
      rw [observed_observe, observed_observe]
      show min (max (g.observed.get t).1 rows) n = min (max (h.observed.get t).1 (min rows n)) n
      omega
    · have hother : ∀ (g : GridBuffer R) rows, (g.observe s rows lines).observed.get s.other =
          g.observed.get s.other := fun g rows => Pair.get_set_other _ s _
      rw [hother, hother]
      exact hc.observed s.other
  recordAt t cpu line hcpu := by
    rw [recordAt_observe hc.sized, recordAt_observe hc.sized']
    exact hc.recordAt t cpu line hcpu

/-- The records of a row, of which both grids have all or none. -/
theorem Clamped.row (hc : Clamped n g h) (s : Slot) (hcpu : cpu < n) :
    (g.rowCells cpu).map (·.get s) = (h.rowCells cpu).map (·.get s) := by
  have hcpus := hc.cpus
  have hlen : (g.rowCells cpu).length = (h.rowCells cpu).length := by
    by_cases hin : cpu < g.cpus
    · rw [hc.sized.length_rowCells hin, hc.sized'.length_rowCells (by omega), hc.lines]
    · have hnone : ∀ {g : GridBuffer R}, g.Sized → g.cpus ≤ cpu →
          (g.rowCells cpu).length = 0 := by
        intro g hg hle
        have hrow : g.cells.length ≤ cpu * g.lines := by
          rw [hg.cells]
          exact Nat.mul_le_mul_right _ hle
        rw [rowCells, List.drop_of_length_le hrow, List.take_nil, List.length_nil]
      rw [hnone hc.sized (by omega), hnone hc.sized' (by omega)]
  refine List.ext_getElem (by rw [List.length_map, List.length_map, hlen]) fun i hi hi' => ?_
  have hrecord := hc.recordAt s cpu i hcpu
  rwa [GridBuffer.recordAt, GridBuffer.recordAt, getD_of_lt hi, getD_of_lt hi'] at hrecord

end GridBuffer

namespace Interrupts

open GridBuffer

variable {g h : GridBuffer UInt64} {s : Slot} {n cpu : Nat} {cell : Nat × UInt64}

/-- A cell that is written, where the grid has it. -/
structure Written (s : Slot) (cpu : Nat) (cell : Nat × UInt64) (g g' : GridBuffer UInt64) :
    Prop where
  sized : g'.Sized
  lines : g'.lines = g.lines
  cpus : g'.cpus = g.cpus
  observed : g'.observed = g.observed
  recordAt : ∀ c l, g'.recordAt s c l =
    if c = cpu ∧ l = cell.1 ∧ cpu < g.cpus ∧ cell.1 < g.lines then cell.2
      else g.recordAt s c l
  other : ∀ c l, g'.recordAt s.other c l = g.recordAt s.other c l

theorem written_write (hg : g.Sized) (s : Slot) (cpu : Nat) (cell : Nat × UInt64) :
    Written s cpu cell g (write s cpu g cell) := by
  by_cases hin : cpu < g.cpus ∧ cell.1 < g.lines
  · obtain ⟨g', hset, hcpus, hlines, hobserved⟩ := setAt_ok hin.1 hin.2 s cell.2
    have hwrite : write s cpu g cell = g' := by rw [write, hset]
    rw [hwrite]
    refine ⟨sized_of_setAt hg hset, hlines, hcpus, hobserved, fun c l => ?_,
      recordAt_setAt_other hset⟩
    rw [recordAt_setAt hg hset]
    simp [hin.1, hin.2]
  · have hwrite : write s cpu g cell = g := by
      rw [write, setAt, offset?, if_neg hin]
      rfl
    rw [hwrite]
    exact ⟨hg, rfl, rfl, rfl, fun c l => (if_neg fun hcell => hin hcell.2.2).symm,
      fun _ _ => rfl⟩

/-- A cell of a first row. -/
theorem clamped_write (hc : Clamped n g h) (hcpu : cpu < n) (s : Slot) (cell : Nat × UInt64) :
    Clamped n (write s cpu g cell) (write s cpu h cell) := by
  have hw := written_write hc.sized s cpu cell
  have hw' := written_write hc.sized' s cpu cell
  have hcpus := hc.cpus
  refine ⟨hw.sized, hw'.sized, by rw [hw.lines, hw'.lines, hc.lines],
    by rw [hw.cpus, hw'.cpus, hcpus], fun t => by rw [hw.observed, hw'.observed, hc.observed],
    fun t c l hlt => ?_⟩
  rcases s.eq_or_other t with rfl | rfl
  · have hin : cpu < g.cpus ↔ cpu < h.cpus := by omega
    rw [hw.recordAt, hw'.recordAt, hc.recordAt t c l hlt, hc.lines]
    simp only [hin]
  · rw [hw.other, hw'.other, hc.recordAt s.other c l hlt]

/-- A cell of a row behind the first ones. -/
theorem clamped_write_behind (hc : Clamped n g h) (hcpu : n ≤ cpu) (s : Slot)
    (cell : Nat × UInt64) :
    Clamped n (write s cpu g cell) h := by
  have hw := written_write hc.sized s cpu cell
  refine ⟨hw.sized, hc.sized', hw.lines.trans hc.lines, by rw [hw.cpus, hc.cpus],
    fun t => by rw [hw.observed, hc.observed], fun t c l hlt => ?_⟩
  rcases s.eq_or_other t with rfl | rfl
  · rw [hw.recordAt, if_neg (by omega), hc.recordAt t c l hlt]
  · rw [hw.other, hc.recordAt s.other c l hlt]

theorem clamped_writeRow (hc : Clamped n g h) (s : Slot) (columns : List Nat)
    {row : List UInt64 × Nat} (hrow : row.2 < n) :
    Clamped n (writeRow s columns g row) (writeRow s columns h row) :=
  foldl_related (R := Clamped n) hc fun cell _ _ _ hc => clamped_write hc hrow s cell

theorem clamped_writeRow_behind (hc : Clamped n g h) (s : Slot) (columns : List Nat)
    {row : List UInt64 × Nat} (hrow : n ≤ row.2) : Clamped n (writeRow s columns g row) h :=
  List.foldlRecOn (motive := (Clamped n · h)) _ _ hc fun _ hc cell _ =>
    clamped_write_behind hc hrow s cell

/-- The rows of a table, and its first rows only. -/
theorem clamped_writeRows (hc : Clamped n g h) (s : Slot) (columns : List Nat)
    (counts : List (List UInt64)) :
    Clamped n (counts.zipIdx.foldl (writeRow s columns) g)
      ((counts.take n).zipIdx.foldl (writeRow s columns) h) := by
  have hsplit : counts.zipIdx =
      (counts.take n).zipIdx ++ (counts.drop n).zipIdx (counts.take n).length := by
    rw [← Nat.zero_add (counts.take n).length, ← List.zipIdx_append, List.take_append_drop]
  rw [hsplit, List.foldl_append]
  refine List.foldlRecOn (motive := (Clamped n · _)) _ _ ?_ fun g hc row hrow =>
    clamped_writeRow_behind hc s columns ?_
  · refine foldl_related (R := Clamped n) hc fun row hrow g h hc =>
      clamped_writeRow hc s columns ?_
    have hmem := List.mem_zipIdx hrow
    simp only [List.length_take] at hmem
    omega
  · have hmem := List.mem_zipIdx hrow
    simp only [List.length_take, List.length_drop] at hmem
    omega

end Interrupts

end ActivityArchive
