import ActivityArchive.Proofs.Activity.InterruptTotals
import ActivityArchive.Proofs.Buffer.Clamping

/-!
Interrupts that agree on the rows that were planned for. A table and its first rows are loaded into
agreeing grids, totals are made of the agreeing rows only, and the same counts are emitted
(`Interrupts.Clamped.emit_eq`).
-/
namespace ActivityArchive

open GridBuffer Record

/-- The first rows of a table, with all lines. -/
def Record.InterruptTable.clamp (rows : Nat) (t : InterruptTable) : InterruptTable :=
  { t with counts := t.counts.take rows }

namespace Interrupts

open GroupSpec

variable {a b : Interrupts} {n : Nat}

/-- Interrupts that agree on the first `n` rows of both slots, for which they are planned. -/
structure Clamped (n : Nat) (a b : Interrupts) : Prop where
  count : a.count = n
  planned : b.planned = a.planned
  selection : b.selection = a.selection
  lines : b.lines = a.lines
  grid : GridBuffer.Clamped n a.grid b.grid

theorem Clamped.count' (h : Clamped n a b) : b.count = n := by
  rw [Interrupts.count, h.planned]
  exact h.count

theorem Clamped.refl (h : a.grid.Sized) : Clamped a.count a a :=
  ⟨rfl, rfl, rfl, rfl, .refl h a.count⟩

theorem Clamped.addLine (h : Clamped n a b) (name : String) :
    Clamped n (a.addLine name) (b.addLine name) := by
  unfold Interrupts.addLine
  rw [h.lines]
  split
  · exact h
  · exact { h with lines := rfl }

theorem Clamped.addLines (h : Clamped n a b) (names : List String) :
    Clamped n (a.addLines names) (b.addLines names) :=
  foldl_related (R := Clamped n) h fun name _ _ _ h => h.addLine name

theorem Clamped.clear (h : Clamped n a b) (s : Slot) : Clamped n (a.clear s) (b.clear s) :=
  { h with grid := h.grid.clear s }

/-- The grid after the rows of a table are written into it, whose lines are known. -/
def filledGrid (a : Interrupts) (s : Slot) (t : InterruptTable) : GridBuffer UInt64 :=
  t.counts.zipIdx.foldl (writeRow s (t.lines.map a.lineIndex))
    (a.grid.observe s t.counts.length a.lines.length)

/-- What room for a table has, and every count written into one of its rows keeps. -/
theorem filledGrid_induction {P : GridBuffer UInt64 → Prop} {s : Slot} {t : InterruptTable}
    (hroom : P (a.grid.observe s t.counts.length a.lines.length))
    (hwrite : ∀ g row cell, row < t.counts.length → P g → P (write s row g cell)) :
    P (a.filledGrid s t) := by
  refine List.foldlRecOn (motive := P) _ _ hroom fun g hg row hrow => ?_
  have hlt : row.2 < t.counts.length := by
    have hmem := List.mem_zipIdx hrow
    omega
  exact List.foldlRecOn (motive := P) _ _ hg fun g hg cell _ => hwrite g row.2 cell hlt hg

theorem Clamped.filledGrid (h : Clamped n a b) (s : Slot) (t : InterruptTable) :
    GridBuffer.Clamped n (a.filledGrid s t) (b.filledGrid s (t.clamp n)) := by
  have hcolumns : b.lineIndex = a.lineIndex := funext fun name => congrArg (List.idxOf name) h.lines
  have hrows : (t.counts.take n).length = min t.counts.length n := by
    rw [List.length_take, Nat.min_comm]
  show GridBuffer.Clamped n _ ((t.counts.take n).zipIdx.foldl (writeRow s (t.lines.map b.lineIndex))
    (b.grid.observe s (t.counts.take n).length b.lines.length))
  rw [hcolumns, hrows, h.lines]
  exact clamped_writeRows (h.grid.observe s t.counts.length a.lines.length) s _ t.counts

theorem Clamped.load (h : Clamped n a b) (s : Slot) (sample : Option InterruptTable) :
    Clamped n (a.load s sample) (b.load s (sample.map (·.clamp n))) := by
  cases sample with
  | none => exact h.clear s
  | some t =>
    have hnamed := (h.clear s).addLines t.lines
    exact { hnamed with grid := hnamed.filledGrid s t }

section Export

variable (s : Slot)

/-- The counts of the CPUs that are planned for. -/
theorem Clamped.unitRows (h : Clamped n a b) :
    GroupSpec.unitRows b.count b.grid s = GroupSpec.unitRows a.count a.grid s := by
  have hcpus := h.grid.cpus
  rw [GroupSpec.unitRows, GroupSpec.unitRows, h.count, h.count', Nat.min_comm n, Nat.min_comm n,
    hcpus]
  refine List.map_congr_left fun cpu hcpu => ?_
  have hlt := List.mem_range'_1.mp hcpu
  rw [h.grid.row s (by omega)]

theorem Clamped.totals (h : Clamped n a b) : b.totals s = a.totals s := by
  rw [Interrupts.totals, Interrupts.totals, h.unitRows, h.grid.lines]

theorem observed_totaledGrid (a : Interrupts) :
    (a.totaledGrid s).observed = a.grid.observed := by
  rw [Interrupts.totaledGrid]
  split <;> rfl

theorem recordAt_totaledGrid_other (a : Interrupts) (row i : Nat) :
    (a.totaledGrid s).recordAt s.other row i = a.grid.recordAt s.other row i := by
  rw [Interrupts.totaledGrid]
  split
  · exact recordAt_setRow_other a.grid s 0 _ row i
  · rfl

theorem Clamped.totaledGrid (h : Clamped n a b) (hmany : 1 < n) :
    GridBuffer.Clamped n (a.totaledGrid s) (b.totaledGrid s) := by
  have hcpus := h.grid.cpus
  refine ⟨sized_totaledGrid h.grid.sized s, sized_totaledGrid h.grid.sized' s, ?_,
    ?_, fun t => ?_, fun t cpu line hcpu => ?_⟩
  · rw [lines_totaledGrid, lines_totaledGrid, h.grid.lines]
  · rw [cpus_totaledGrid, cpus_totaledGrid, hcpus]
  · rw [observed_totaledGrid, observed_totaledGrid, h.grid.observed]
  · rcases s.eq_or_other t with rfl | rfl
    · rw [recordAt_totaledGrid h.grid.sized (h.count ▸ hmany),
        recordAt_totaledGrid h.grid.sized' (h.count' ▸ hmany), h.totals,
        h.grid.recordAt t cpu line hcpu]
      have hunits : 1 < a.grid.cpus ↔ 1 < b.grid.cpus := by omega
      simp only [hunits]
    · rw [recordAt_totaledGrid_other, recordAt_totaledGrid_other]
      exact h.grid.recordAt s.other cpu line hcpu

theorem prepareInterrupts_of_le (h : ¬ 1 < a.count) :
    prepareInterrupts a s = .ok { a with offline := .new a.count } :=
  if_neg fun hagg => h (of_decide_eq_true hagg)

/-- What is worked out before a sample is emitted, with the same CPUs offline. -/
theorem Clamped.prepare (h : Clamped n a b) :
    ∃ a' b', prepareInterrupts a s = .ok a' ∧ prepareInterrupts b s = .ok b' ∧
      Clamped n a' b' ∧ b'.offline = a'.offline ∧
      a'.grid.cpus = a.grid.cpus ∧ b'.grid.cpus = b.grid.cpus := by
  by_cases hmany : 1 < n
  · have hidle : b.idleRows s = a.idleRows s := by
      rw [idleRows, idleRows, h.unitRows]
    have hoffline : (Bitmap.new b.count).setAll (b.idleRows s) =
        (Bitmap.new a.count).setAll (a.idleRows s) := by
      rw [hidle, h.count, h.count']
    exact ⟨_, _, prepareInterrupts_eq h.grid.sized (h.count ▸ hmany) s,
      prepareInterrupts_eq h.grid.sized' (h.count' ▸ hmany) s,
      { h with grid := h.totaledGrid s hmany }, hoffline, cpus_totaledGrid a s,
      cpus_totaledGrid b s⟩
  · refine ⟨_, _, prepareInterrupts_of_le s (by rwa [h.count]),
      prepareInterrupts_of_le s (by rwa [h.count']), { h with }, ?_, rfl, rfl⟩
    show Bitmap.new b.count = Bitmap.new a.count
    rw [h.count, h.count']

/-- The same counts are emitted where as many of the rows planned for are observed. -/
theorem Clamped.emit_eq (h : Clamped n a b) (hoffline : b.offline = a.offline)
    (isDefined : Nat → Bool) {rows rows' : Nat} (hrows : min rows' n = min rows n)
    (hroom : rows ≤ a.grid.cpus) (hroom' : rows' ≤ b.grid.cpus) :
    emitInterrupts isDefined b s rows' = emitInterrupts isDefined a s rows := by
  rw [emitInterrupts_ok h.grid.sized isDefined s hroom,
    emitInterrupts_ok h.grid.sized' isDefined s hroom', h.count, h.count', Nat.min_comm n,
    Nat.min_comm n, hrows, h.selection, hoffline, h.lines]
  refine congrArg Except.ok (congrArg List.flatten (List.map_congr_left fun cpu hcpu => ?_))
  have hlt := List.mem_range.mp (List.mem_filter.mp hcpu).1
  rw [h.grid.row s (by omega)]

end Export

end Interrupts

end ActivityArchive
