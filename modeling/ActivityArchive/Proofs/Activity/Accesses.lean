import ActivityArchive.Proofs.Activity.Aggregation
import ActivityArchive.Proofs.Activity.InterruptTotals
import ActivityArchive.Proofs.Buffer.Accesses
import ActivityArchive.Proofs.Steps

/-!
What activities access of their buffers. A record that is changed has room made for it before, and
what is read of a slot is what was observed in it. Interrupts stay in range as long as their grid is
sized, whatever rows and lines a sample has.
-/
namespace ActivityArchive

open GroupSpec

namespace Activity

variable {R : Type} {a : Activity R}

/-- The records of the sample in a slot. -/
def readAccess (a : Activity R) (s : Slot) : Access := a.buffer.readAccess s

/-- Neither slot observes records that there is no room for. -/
def Roomy (a : Activity R) : Prop := a.buffer.Roomy

/-- The records of the units that are added up, in both slots. -/
def unitAccesses (a : Activity R) (s : Slot) : List Access :=
  (List.range' 1 (unitsEnd a.count (a.buffer.column s) (a.buffer.column s.other) - 1)).map
    a.buffer.access

/-- The records that are shown. -/
def shownAccesses (a : Activity R) : List Access :=
  ((List.range a.count).filter fun idx => isShown idx a.selection a.offline).map a.buffer.access

theorem roomy_empty : (empty : Activity R).Roomy := SampleBuffer.roomy_empty

theorem Roomy.inRange_read (h : a.Roomy) (s : Slot) : (a.readAccess s).InRange := h s

theorem inRange_unit (a : Activity R) (s : Slot) : ∀ x ∈ a.unitAccesses s, x.InRange := by
  intro x hx
  obtain ⟨idx, hidx, rfl⟩ := List.mem_map.mp hx
  have hrange := List.mem_range'_1.mp hidx
  rw [unitsEnd, SampleBuffer.length_column, SampleBuffer.length_column] at hrange
  show idx < a.buffer.allocated
  omega

theorem inRange_shown (h : a.count ≤ a.buffer.allocated) :
    ∀ x ∈ a.shownAccesses, x.InRange := by
  intro x hx
  obtain ⟨idx, hidx, rfl⟩ := List.mem_map.mp hx
  exact Nat.lt_of_lt_of_le (List.mem_range.mp (List.mem_filter.mp hidx).1) h

variable [Inhabited R]

/-- A sample that is copied into a slot. -/
def loadAccess (a : Activity R) (s : Slot) (rs : List R) : Access :=
  (a.buffer.clear s).loadAccess s rs.length

/-- Room is made for a record before it is changed. -/
def updateAccess (a : Activity R) (s : Slot) (idx : Nat) : Access :=
  (a.buffer.observe s (idx + 1)).access idx

/-- A slot is searched for the record to be changed. -/
def updateByAccesses (a : Activity R) (s : Slot) (p : R → Bool) : List Access :=
  [a.readAccess s, a.updateAccess s (a.position s p)]

theorem inRange_load (a : Activity R) (s : Slot) (rs : List R) : (a.loadAccess s rs).InRange :=
  SampleBuffer.inRange_loadAccess _ s _

theorem inRange_update (a : Activity R) (s : Slot) (idx : Nat) : (a.updateAccess s idx).InRange :=
  Nat.lt_of_succ_le (SampleBuffer.le_length_observe a.buffer s (idx + 1)).2

/-- The slot that is searched has to have room, whatever the other one observes. -/
theorem inRange_updateBy {s : Slot} (h : (a.readAccess s).InRange) (p : R → Bool) :
    ∀ x ∈ a.updateByAccesses s p, x.InRange := by
  intro x hx
  rcases List.mem_cons.mp hx with rfl | hx
  · exact h
  · obtain rfl := List.mem_singleton.mp hx
    exact inRange_update a s _

theorem Roomy.clear (h : a.Roomy) (s : Slot) : (a.clear s).Roomy := SampleBuffer.Roomy.clear h s

theorem Roomy.load (h : a.Roomy) (s : Slot) (rs : List R) : (a.load s rs).Roomy :=
  ((SampleBuffer.Roomy.clear h s).ensure s rs.length).fill s rs

theorem Roomy.update (h : a.Roomy) (s : Slot) (i : Nat) (f : R → R) : (a.update s i f).Roomy := by
  have hroom : (a.update s i f).buffer.allocated = (a.buffer.observe s (i + 1)).allocated :=
    List.length_modify _ _ _
  exact fun t => hroom.symm ▸ SampleBuffer.Roomy.observe h s (i + 1) t

theorem Roomy.prepare (h : a.Roomy) (s : Slot) : (a.prepare s).Roomy :=
  (SampleBuffer.Roomy.observe h s a.count).observe s.other a.count

theorem Roomy.aggregate [DecidableEq R] (h : a.Roomy) (add : R → R → R) (s : Slot) :
    (a.aggregate add s).Roomy := by
  unfold Activity.aggregate
  dsimp only
  split
  · exact SampleBuffer.Roomy.fill (h.prepare s) s _
  · exact h.prepare s

end Activity

namespace Interrupts

variable {a : Interrupts}

/-- The cells of a row that are written. -/
def writeAccesses (s : Slot) (columns : List Nat) (g : GridBuffer UInt64)
    (row : List UInt64 × Nat) :
    List Access :=
  logFold (write s row.2) (fun g cell => g.cellAccesses row.2 cell.1) (columns.zip row.1) g

/-- A sample that is copied into a slot, where room is made for its rows and for all known lines. -/
def loadAccesses (a : Interrupts) (s : Slot) : Option Record.InterruptTable → List Access
  | none => []
  | some t =>
    let b := (a.clear s).addLines t.lines
    b.grid.observeAccesses t.counts.length b.lines.length ++
      logFold (writeRow s (t.lines.map b.lineIndex)) (writeAccesses s (t.lines.map b.lineIndex))
        t.counts.zipIdx (b.grid.observe s t.counts.length b.lines.length)

/-- The rows observed in a slot. -/
def unloadAccesses (a : Interrupts) (s : Slot) : List Access :=
  (List.range (a.grid.observed.get s).1).map a.grid.rowAccess

/-- Room is made for a row and a line before the count is written. -/
def absorbAccesses (a : Interrupts) (s : Slot) (cpu : Nat) (name : String) : List Access :=
  let b := (a.addLine sumLine).addLine name
  b.grid.observeAccesses (cpu + 1) b.lines.length ++
    (b.grid.observe s (cpu + 1) b.lines.length).cellAccesses cpu (b.lineIndex name)

/-- The rows that are added up, and the row that their sums are written over. -/
def totalAccesses (a : Interrupts) (s : Slot) : List Access :=
  (List.range' 1 (min a.count a.grid.cpus - 1)).map a.grid.rowAccess ++
    if 1 < min a.count a.grid.cpus then a.grid.setRowAccesses 0 (a.totals s) else []

/-- The rows that are shown of the first ones, and the names of their lines. -/
def shownAccesses (a : Interrupts) (rows : Nat) : List Access :=
  ((List.range (min a.count rows)).filter fun cpu => isShown cpu a.selection a.offline).flatMap
    fun cpu => a.grid.rowAccess cpu ::
      (List.range (min a.lines.length a.grid.lines)).map fun line => .line line a.lines.length

/-- What is accessed when a sample is emitted: nothing where it has no rows. -/
def emitAccesses (a : Interrupts) (s : Slot) : List Access :=
  if (a.grid.observed.get s).1 = 0 then []
  else (if isAggregated a.count then a.totalAccesses s else []) ++
    match prepareInterrupts a s with
    | .ok b => b.shownAccesses (a.grid.observed.get s).1
    | .error _ => []

theorem inRange_load (h : a.grid.Sized) (s : Slot) (sample : Option Record.InterruptTable) :
    ∀ x ∈ a.loadAccesses s sample, x.InRange := by
  cases sample with
  | none => simp [loadAccesses]
  | some t =>
    have hsized : ((a.clear s).addLines t.lines).grid.Sized :=
      ((later_clear a s).trans (later_addLines _ t.lines)).sized h
    have hwrites :
      ∀ x ∈ logFold (writeRow s (t.lines.map ((a.clear s).addLines t.lines).lineIndex))
        (writeAccesses s (t.lines.map ((a.clear s).addLines t.lines).lineIndex)) t.counts.zipIdx
        (((a.clear s).addLines t.lines).grid.observe s t.counts.length
          ((a.clear s).addLines t.lines).lines.length), x.InRange := by
      refine forall_logFold (P := GridBuffer.Sized) (GridBuffer.sized_observe hsized s _ _)
        fun row _ g hg => ⟨?_, ?_⟩
      · exact forall_logFold (P := GridBuffer.Sized) hg fun cell _ g hg =>
          ⟨hg.inRange_cell row.2 cell.1, sized_write hg s row.2 cell⟩
      · exact sized_foldl hg fun g cell hg => sized_write hg s row.2 cell
    intro x hx
    rcases List.mem_append.mp hx with hx | hx
    · exact hsized.inRange_observe _ _ x hx
    · exact hwrites x hx

/-- Rows that are too short leave cells alone, and what is too long in a row is not looked at. -/
example : empty.loadAccesses .curr (some ⟨["sum", "9"], [[1], [1, 1, 1], []]⟩) =
    [.cell 0 6, .cell 2 6, .cell 3 6] := by decide

theorem inRange_unload (h : a.grid.Sized) (s : Slot) : ∀ x ∈ a.unloadAccesses s, x.InRange := by
  intro x hx
  obtain ⟨cpu, hcpu, rfl⟩ := List.mem_map.mp hx
  exact h.inRange_row (Nat.lt_of_lt_of_le (List.mem_range.mp hcpu) (h.observed s))

theorem inRange_absorb (h : a.grid.Sized) (s : Slot) (cpu : Nat) (name : String) :
    ∀ x ∈ a.absorbAccesses s cpu name, x.InRange := by
  have hsized : ((a.addLine sumLine).addLine name).grid.Sized :=
    ((later_addLine a sumLine).trans (later_addLine _ name)).sized h
  intro x hx
  rcases List.mem_append.mp hx with hx | hx
  · exact hsized.inRange_observe _ _ x hx
  · exact (GridBuffer.sized_observe hsized s _ _).inRange_cell _ _ x hx

theorem inRange_total (h : a.grid.Sized) (s : Slot) : ∀ x ∈ a.totalAccesses s, x.InRange := by
  intro x hx
  rcases List.mem_append.mp hx with hx | hx
  · obtain ⟨cpu, hcpu, rfl⟩ := List.mem_map.mp hx
    have hrange := List.mem_range'_1.mp hcpu
    exact h.inRange_row (by omega)
  · split at hx
    · exact h.inRange_setRow (by omega) (totals_eq h s).1 x hx
    · cases hx

theorem inRange_shown (h : a.grid.Sized) {rows : Nat} (hrows : rows ≤ a.grid.cpus) :
    ∀ x ∈ a.shownAccesses rows, x.InRange := by
  intro x hx
  obtain ⟨cpu, hcpu, hx⟩ := List.mem_flatMap.mp hx
  have hcpu := List.mem_range.mp (List.mem_filter.mp hcpu).1
  rcases List.mem_cons.mp hx with rfl | hx
  · exact h.inRange_row (by omega)
  · obtain ⟨line, hline, rfl⟩ := List.mem_map.mp hx
    have hline := List.mem_range.mp hline
    show line < a.lines.length
    omega

theorem inRange_emit (h : a.grid.Sized) (s : Slot) : ∀ x ∈ a.emitAccesses s, x.InRange := by
  obtain ⟨b, hprepare, hlater, hcpus⟩ := prepareInterrupts_ok h s
  have hrows : (a.grid.observed.get s).1 ≤ b.grid.cpus := hcpus ▸ h.observed s
  intro x hx
  unfold emitAccesses at hx
  split at hx
  · cases hx
  · rw [hprepare] at hx
    rcases List.mem_append.mp hx with hx | hx
    · split at hx
      · exact inRange_total h s x hx
      · cases hx
    · exact inRange_shown (hlater.sized h) hrows x hx

/-- A slot whose rows are in range is unloaded. -/
theorem unload_of_inRange {s : Slot} (h : ∀ x ∈ a.unloadAccesses s, x.InRange) :
    ∃ t, a.unload s = .ok t := by
  have hrows : (List.range (a.grid.observed.get s).1).mapM (a.grid.row s) =
      .ok ((List.range (a.grid.observed.get s).1).map fun cpu =>
        (a.grid.rowCells cpu).map (·.get s)) :=
    mapM_ok fun cpu hcpu => (GridBuffer.row_ok_iff _ s cpu).mpr (h _ (List.mem_map_of_mem hcpu))
  unfold unload
  dsimp only
  split
  · exact ⟨none, rfl⟩
  · rw [hrows]
    exact ⟨_, rfl⟩

/-- Totals whose rows are in range are worked out. -/
theorem prepare_of_inRange {s : Slot}
    (h : isAggregated a.count → ∀ x ∈ a.totalAccesses s, x.InRange) :
    ∃ b, prepareInterrupts a s = .ok b := by
  unfold prepareInterrupts
  dsimp only
  split
  · rename_i hagg
    have hrows : ∀ cpu ∈ List.range' 1 (min a.count a.grid.cpus - 1),
        a.grid.row s cpu = .ok ((a.grid.rowCells cpu).map (·.get s)) := by
      intro cpu hcpu
      refine (GridBuffer.row_ok_iff _ s cpu).mpr (h hagg _ (List.mem_append_left _ ?_))
      exact List.mem_map_of_mem hcpu
    have htotal := aggregateInterrupts_of_rows hrows (.new a.count)
    simp only [show Interrupts.count { a with offline := .new a.count } = a.count from rfl, htotal]
    exact ⟨_, rfl⟩
  · exact ⟨_, rfl⟩

/-- Interrupts whose rows are in range are emitted. -/
theorem emit_of_inRange {s : Slot} {rows : Nat} (h : ∀ x ∈ a.shownAccesses rows, x.InRange)
    (isDefined : Nat → Bool) : emitInterrupts isDefined a s rows =
      .ok (((List.range (min a.count rows)).filter fun cpu =>
        isShown cpu a.selection a.offline).flatMap fun cpu =>
          rowEmissions isDefined a.lines cpu ((a.grid.rowCells cpu).map (·.get s))) := by
  refine emitInterrupts_of_rows (fun cpu hcpu => ?_) isDefined
  exact (GridBuffer.row_ok_iff _ s cpu).mpr
    (h _ (List.mem_flatMap.mpr ⟨cpu, hcpu, List.mem_cons_self⟩))

end Interrupts

end ActivityArchive
