import ActivityArchive.Proofs.Activity.Named
import ActivityArchive.Proofs.Activity.RowTotals

/-!
Totals of interrupts. Row 0 gets the sum of each line over the rows of the CPUs, as far as it fits a
word. The other rows keep their counts, and a row that is taken for offline has none
(`Named.prepare`).
-/
namespace ActivityArchive

namespace Interrupts

open GridBuffer GroupSpec

variable {a b : Interrupts} {s : Slot}

/-- Interrupts with their totals. -/
structure Totaled (s : Slot) (a b : Interrupts) : Prop where
  planned : b.planned = a.planned
  selection : b.selection = a.selection
  lines : b.lines = a.lines
  named : b.Named
  columns : b.grid.lines = a.grid.lines
  cpus : b.grid.cpus = a.grid.cpus
  total : 1 < a.grid.cpus → ∀ name, (b.countAt s 0 name).toNat =
    (List.range' 1 (min a.count a.grid.cpus - 1)).foldl
      (fun n row => n + (a.countAt s row name).toNat) 0 % UInt64.size
  unit : ∀ row, row ≠ 0 → ∀ name, b.countAt s row name = a.countAt s row name
  offline : ∀ row, b.offline.contains row = true → 1 ≤ row ∧
    ∀ name, a.countAt s row name = 0

namespace Totaled

variable {row : Nat}

/-- The aggregate is never offline. -/
theorem isShown_zero (h : Totaled s a b) (hselected : a.selection.contains 0 = true) :
    isShown 0 b.selection b.offline = true := by
  have honline : b.offline.contains 0 = false := by
    rw [← Bool.not_eq_true]
    intro hoff
    have hpos := (h.offline 0 hoff).1
    omega
  rw [isShown, h.selection, hselected, honline]
  rfl

/-- A row that is selected and not shown has no counts. -/
theorem countAt_of_hidden (h : Totaled s a b) (hselected : a.selection.contains row = true)
    (hhidden : isShown row b.selection b.offline ≠ true) (name : String) :
    a.countAt s row name = 0 := by
  rw [isShown, h.selection, hselected, Bool.true_and, ne_eq, Bool.not_eq_true',
    Bool.not_eq_false] at hhidden
  exact (h.offline row hhidden).2 name

end Totaled

/-- The rows of the CPUs, added up column by column. -/
def totals (a : Interrupts) (s : Slot) : List UInt64 :=
  ((unitRows a.count a.grid s).map (·.2)).foldl addRows (List.replicate a.grid.lines 0)

theorem totals_eq (h : a.grid.Sized) (s : Slot) :
    (a.totals s).length = a.grid.lines ∧ ∀ i, (a.totals s).getD i 0 =
      ((List.range' 1 (min a.count a.grid.cpus - 1)).map fun row =>
        a.grid.recordAt s row i).foldl (· + ·) 0 :=
  foldl_unitRows h a.count s

/-- The totals go into row 0 where there are rows of CPUs. -/
def totaledGrid (a : Interrupts) (s : Slot) : GridBuffer UInt64 :=
  if 1 < min a.count a.grid.cpus then a.grid.setRow s 0 (a.totals s) else a.grid

theorem sized_totaledGrid (h : a.grid.Sized) (s : Slot) : (a.totaledGrid s).Sized := by
  rw [totaledGrid]
  split
  · exact sized_setRow h s 0 _
  · exact h

theorem lines_totaledGrid (a : Interrupts) (s : Slot) : (a.totaledGrid s).lines = a.grid.lines := by
  rw [totaledGrid]
  split <;> rfl

theorem cpus_totaledGrid (a : Interrupts) (s : Slot) : (a.totaledGrid s).cpus = a.grid.cpus := by
  rw [totaledGrid]
  split <;> rfl

theorem recordAt_totaledGrid (h : a.grid.Sized) (hcount : 1 < a.count) (s : Slot) (row i : Nat) :
    (a.totaledGrid s).recordAt s row i =
      if 1 < a.grid.cpus ∧ row = 0 then (a.totals s).getD i 0 else a.grid.recordAt s row i := by
  rw [totaledGrid]
  by_cases hcpus : 1 < a.grid.cpus
  · rw [if_pos (by omega), recordAt_setRow h (totals_eq h s).1 (by omega)]
    simp [hcpus]
    rfl
  · rw [if_neg (by omega), if_neg fun hrow => hcpus hrow.1]

/-- The rows that are taken for offline. -/
def idleRows (a : Interrupts) (s : Slot) : List Nat :=
  ((unitRows a.count a.grid s).filter fun r => r.2.all (· == 0)).map (·.1)

theorem prepareInterrupts_eq (h : a.grid.Sized) (hcount : 1 < a.count) (s : Slot) :
    prepareInterrupts a s = .ok { a with
      grid := a.totaledGrid s
      offline := (Bitmap.new a.count).setAll (a.idleRows s) } := by
  have hagg : isAggregated a.count = true := decide_eq_true hcount
  have hrun := aggregateInterrupts_eq h a.count s (.new a.count)
  refine (if_pos hagg).trans ?_
  refine (congrArg (· >>= _) hrun).trans ?_
  rfl

theorem rowTotals_totaledGrid (h : a.grid.Sized) (s : Slot) :
    RowTotals a.count a.grid s (.new a.count) (a.totaledGrid s)
      ((Bitmap.new a.count).setAll (a.idleRows s)) :=
  rowTotals h (Bitmap.wellFormed_new a.count) a.count s

/-- What is worked out before a sample is emitted. -/
theorem Named.prepare (h : a.Named) (hcount : 1 < a.count) (s : Slot) :
    ∃ b, prepareInterrupts a s = .ok b ∧ Totaled s a b := by
  have hrows := rowTotals_totaledGrid h.sized s
  have hcolumns : (a.totaledGrid s).lines ≤ a.lines.length := by
    rw [hrows.lines]
    exact h.columns
  refine ⟨_, prepareInterrupts_eq h.sized hcount s, rfl, rfl, rfl,
    ⟨h.nodup, hrows.sized, hcolumns⟩, hrows.lines, hrows.cpus,
    fun hcpus name => ?_, fun row hrow name => ?_, fun row hrow => ?_⟩
  · have htotal := hrows.total (by omega) (a.lineIndex name)
    exact (congrArg UInt64.toNat htotal).trans UInt64.toNat_ofNat'
  · exact hrows.kept s row (a.lineIndex name) fun hzero => hrow hzero.2.2
  · have hoff := (hrows.marked row).mp hrow
    rw [Bitmap.contains_new] at hoff
    obtain ⟨hpos, -, hzero⟩ := hoff.resolve_left nofun
    exact ⟨hpos, fun name => hzero (a.lineIndex name)⟩

end Interrupts

end ActivityArchive
