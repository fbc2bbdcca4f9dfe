import ActivityArchive.Proofs.Activity.InterruptClamping
import ActivityArchive.Proofs.Activity.InterruptLoading
import ActivityArchive.Proofs.Activity.Replanning

/-!
Interrupt tables that are loaded by the names of their lines. Tables may name some lines only, and
in any order; their columns go where the names have theirs. Whatever was loaded, taken in or cleared
before, a slot then has the counts of the table and no others, and the counts of the other slot are
found where they were (`load_by_name`).
-/
namespace ActivityArchive.Interrupts

open GridBuffer Record

inductive Call
  /-- Asks for the position of a line, which is known from then on. -/
  | line (name : String)
  | load (s : Slot) (sample : Option InterruptTable)
  | take (s : Slot) (row : Nat) (name : String) (count : UInt64)
  | clear (s : Slot)

def call (a : Interrupts) : Call → Interrupts
  | .line name => a.addLine name
  | .load s sample => a.load s sample
  | .take s row name count => GroupSpec.absorbCell a s row name count
  | .clear s => a.clear s

/-- The interrupts after some calls on new ones. -/
def after (calls : List Call) : Interrupts := calls.foldl call empty

variable {a b : Interrupts} {s : Slot} {t : InterruptTable}

theorem Named.call (h : a.Named) (c : Call) : (a.call c).Named := by
  cases c with
  | line name => exact h.addLine name
  | load s sample => exact h.load s sample
  | take s row name count => exact (h.absorbCell (f := fun _ _ => count) row name rfl).1
  | clear s => exact named_clear h s

theorem named_after (calls : List Call) : (after calls).Named :=
  List.foldlRecOn (motive := Named) _ _ named_empty fun _ h c _ => h.call c

/-- The rows of a table go into one slot only. -/
theorem recordAt_filledGrid_other (h : a.grid.Sized) (s : Slot) (t : InterruptTable)
    (row line : Nat) :
    (a.filledGrid s t).recordAt s.other row line = a.grid.recordAt s.other row line := by
  let P : GridBuffer UInt64 → Prop := fun g =>
    g.Sized ∧ ∀ row line, g.recordAt s.other row line = a.grid.recordAt s.other row line
  have hroom : P (a.grid.observe s t.counts.length a.lines.length) :=
    ⟨sized_observe h s _ _, recordAt_observe h s s.other _ _⟩
  have hall : P (a.filledGrid s t) := by
    refine filledGrid_induction hroom fun g r cell _ hg => ?_
    have hwritten := written_write hg.1 s r cell
    refine ⟨hwritten.sized, fun row line => ?_⟩
    rw [hwritten.other]
    exact hg.2 row line
  exact hall.2 row line

/-- New lines have no counts in the other slot, and the known ones keep theirs. -/
theorem Named.countAt_load_other (h : a.Named) (s : Slot) (t : InterruptTable) (row : Nat)
    (name : String) : (a.load s (some t)).countAt s.other row name =
    a.countAt s.other row name := by
  obtain ⟨hnamed, hputs⟩ := (named_clear h s).addLines s.other (fun _ _ => 0) t.lines
  calc (a.load s (some t)).countAt s.other row name
      = ((a.clear s).addLines t.lines).countAt s.other row name :=
        recordAt_filledGrid_other hnamed.sized s t row _
    _ = (a.clear s).countAt s.other row name :=
        (hputs.countAt row name).trans (if_neg List.not_mem_nil)
    _ = a.countAt s.other row name := recordAt_clear_other a.grid s row _

/-- A slot is unloaded with the rows of the table that was loaded, each with a count for every line.
-/
theorem Loaded.unload_eq (h : b.Loaded s t) (hrows : t.counts ≠ []) :
    b.unload s = .ok (some
      ⟨b.lines,
        (List.range t.counts.length).map fun row => b.lines.map (b.countAt s row)⟩) := by
  have hsome : (b.grid.observed.get s).1 ≠ 0 := by
    rw [h.rows]
    exact fun hzero => hrows (List.eq_nil_of_length_eq_zero hzero)
  have hfull : ∀ row ∈ List.range t.counts.length, (b.grid.rowCells row).map (·.get s) =
      b.lines.map (b.countAt s row) := fun row hrow =>
    h.roomy.named.row_eq h.roomy.columns s
      (Nat.lt_of_lt_of_le (List.mem_range.mp hrow) h.roomy.rows)
  rw [Interrupts.unload_eq h.roomy.named.sized hsome, h.rows, List.map_congr_left hfull,
    List.map_map]
  simp [List.take_of_length_le]

/-- What loading a table into a slot makes of interrupts. -/
structure LoadsByName (s : Slot) (t : InterruptTable) (a b : Interrupts) : Prop where
  lines : b.lines = a.lines ++ t.lines.filter (· ∉ a.lines)
  /-- A row that the table does not have has no counts. -/
  count : ∀ row name i, t.lines[i]? = some name →
    b.countAt s row name = (t.counts.getD row []).getD i 0
  absent : ∀ row name, name ∉ t.lines → b.countAt s row name = 0
  other : ∀ row name, b.countAt s.other row name = a.countAt s.other row name
  unload : b.unload s = .ok (some
    ⟨b.lines, (List.range t.counts.length).map fun row => b.lines.map (b.countAt s row)⟩)

/-- After any calls on new interrupts, in either slot, a table of different lines is loaded by name.
-/
theorem load_by_name (calls : List Call) (s : Slot) (t : InterruptTable) (hnd : t.lines.Nodup)
    (hrows : t.counts ≠ []) (hwidth : ∀ row ∈ t.counts, row.length = t.lines.length) :
    LoadsByName s t (after calls) ((after calls).load s (some t)) := by
  have hnamed := named_after calls
  obtain ⟨hloaded, -⟩ := hnamed.loaded t s
  have hcounts : ∀ row name, ((after calls).load s (some t)).countAt s row name =
      t.countAt row name :=
    fun row name => (hloaded.countAt row name).trans (InterruptTable.lastAt_eq hnd hwidth row name)
  refine ⟨?_, fun row name i hname => ?_, fun row name hname => ?_, hnamed.countAt_load_other s t,
    hloaded.unload_eq hrows⟩
  · show (((after calls).clear s).addLines t.lines).lines = _
    rw [addLines_eq]
    exact foldl_enlist_of_nodup hnd
  · rw [hcounts]
    exact InterruptTable.countAt_of_getElem? hnd hwidth hname row
  · rw [hcounts]
    exact InterruptTable.countAt_of_notMem hname row

/-- The columns go where the names have theirs, and the row that is missing leaves nothing. -/
example :
    let a := empty.load .curr (some ⟨["sum", "timer"], [[9, 4], [9, 4]]⟩)
    (a.load .curr (some ⟨["sum", "rtc0", "timer"], [[8, 1, 7]]⟩)).unload .curr =
      .ok (some ⟨["sum", "timer", "rtc0"], [[8, 7, 1]]⟩) := by decide

/-- A table with a new line between two known ones, loaded over one with a row more. -/
theorem line_between_loaded :
    let calls := [.load .prev (some ⟨["sum", "timer"], [[5, 5]]⟩),
      .load .curr (some ⟨["sum", "timer"], [[9, 4], [9, 4]]⟩)]
    let t : InterruptTable := ⟨["sum", "rtc0", "timer"], [[8, 1, 7]]⟩
    t.lines.Nodup ∧ t.counts ≠ [] ∧ (∀ row ∈ t.counts, row.length = t.lines.length) ∧
      LoadsByName .curr t (after calls) ((after calls).load .curr (some t)) :=
  ⟨by decide, by decide, by decide, load_by_name _ .curr _ (by decide) (by decide) (by decide)⟩

end ActivityArchive.Interrupts
