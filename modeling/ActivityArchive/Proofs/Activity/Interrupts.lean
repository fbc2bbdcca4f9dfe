import ActivityArchive.Group.Interrupt
import ActivityArchive.Proofs.Buffer.Sized
import ActivityArchive.Proofs.Steps

/-!
Interrupts keep their grid sized: when a sample is loaded, when the aggregate is worked out and when
a count is taken in. So no row that is asked for is missing.
-/
namespace ActivityArchive

open GridBuffer

namespace Interrupts

variable {a b c : Interrupts} {g : GridBuffer UInt64}

/-- The same plan, and a grid that is still sized. -/
structure Later (a b : Interrupts) : Prop where
  planned : b.planned = a.planned
  selection : b.selection = a.selection
  sized : a.grid.Sized → b.grid.Sized

theorem Later.refl (a : Interrupts) : Later a a := ⟨rfl, rfl, id⟩

theorem Later.trans (h : Later a b) (h' : Later b c) : Later a c :=
  ⟨h'.planned.trans h.planned, h'.selection.trans h.selection, fun hs => h'.sized (h.sized hs)⟩

theorem later_grid (a : Interrupts) {g : GridBuffer UInt64} (h : a.grid.Sized → g.Sized) :
    Later a { a with grid := g } :=
  ⟨rfl, rfl, h⟩

theorem later_addLine (a : Interrupts) (name : String) : Later a (a.addLine name) := by
  unfold addLine
  split
  · exact .refl a
  · exact ⟨rfl, rfl, id⟩

theorem later_addLines (a : Interrupts) (names : List String) : Later a (a.addLines names) := by
  induction names generalizing a with
  | nil => exact .refl a
  | cons name names ih => exact (later_addLine a name).trans (ih (a.addLine name))

theorem sized_write (h : g.Sized) (s : Slot) (cpu : Nat) (cell : Nat × UInt64) :
    (write s cpu g cell).Sized := by
  unfold write
  split
  · rename_i g' hset
    exact sized_of_setAt h hset
  · exact h

theorem sized_foldl {A : Type} {f : GridBuffer UInt64 → A → GridBuffer UInt64} {xs : List A}
    (h : g.Sized) (hf : ∀ g x, g.Sized → (f g x).Sized) : (xs.foldl f g).Sized := by
  induction xs generalizing g with
  | nil => exact h
  | cons x xs ih => exact ih (hf g x h)

theorem later_clear (a : Interrupts) (s : Slot) : Later a (a.clear s) :=
  later_grid a fun h => sized_clear h s

theorem later_load (a : Interrupts) (s : Slot) (sample : Option Record.InterruptTable) :
    Later a (a.load s sample) := by
  unfold load
  cases sample with
  | none => exact later_clear a s
  | some t =>
    refine ((later_clear a s).trans (later_addLines _ t.lines)).trans (later_grid _ fun h => ?_)
    exact sized_foldl (sized_observe h s _ _) fun g row hg =>
      sized_foldl hg fun g cell hg => sized_write hg s row.2 cell

theorem unload_ok (h : a.grid.Sized) (s : Slot) : ∃ t, a.unload s = .ok t := by
  have hrows : (List.range (a.grid.observed.get s).1).mapM (a.grid.row s) = .ok _ :=
    mapM_ok fun cpu hcpu =>
      h.row_ok s (Nat.lt_of_lt_of_le (List.mem_range.mp hcpu) (h.observed s))
  simp only [unload, hrows]
  split
  · exact ⟨none, rfl⟩
  · exact ⟨_, rfl⟩

end Interrupts

namespace GroupSpec

open Interrupts

variable {a : Interrupts}

/-- The rows of the CPUs that are added up, behind their numbers. -/
def unitRows (count : Nat) (g : GridBuffer UInt64) (s : Slot) : List (Nat × List UInt64) :=
  (List.range' 1 (min count g.cpus - 1)).map fun cpu => (cpu, (g.rowCells cpu).map (·.get s))

/-- The rows of the CPUs are added up where none of them is missing. -/
theorem aggregateInterrupts_of_rows {g : GridBuffer UInt64} {count : Nat} {s : Slot}
    (h : ∀ cpu ∈ List.range' 1 (min count g.cpus - 1),
      g.row s cpu = .ok ((g.rowCells cpu).map (·.get s))) (offline : Bitmap) :
    aggregateInterrupts count g s offline =
      .ok (if 1 < min count g.cpus then
          g.setRow s 0 (((unitRows count g s).map (·.2)).foldl addRows (List.replicate g.lines 0))
        else g,
        offline.setAll (((unitRows count g s).filter fun r => r.2.all (· == 0)).map (·.1))) := by
  have hrows : (List.range' 1 (min count g.cpus - 1)).mapM
      (fun cpu => (g.row s cpu).map fun r => (cpu, r)) = .ok (unitRows count g s) := by
    refine mapM_ok fun cpu hcpu => ?_
    rw [h cpu hcpu, Except.map]
  simp only [aggregateInterrupts, hrows, bind, Except.bind, pure, Except.pure]

/-- No row that is added up is missing. -/
theorem aggregateInterrupts_eq {g : GridBuffer UInt64} (h : g.Sized) (count : Nat) (s : Slot)
    (offline : Bitmap) :
    aggregateInterrupts count g s offline =
      .ok (if 1 < min count g.cpus then
          g.setRow s 0 (((unitRows count g s).map (·.2)).foldl addRows (List.replicate g.lines 0))
        else g,
        offline.setAll (((unitRows count g s).filter fun r => r.2.all (· == 0)).map (·.1))) := by
  refine aggregateInterrupts_of_rows (fun cpu hcpu => h.row_ok s ?_) offline
  rw [List.mem_range'_1] at hcpu
  omega

theorem aggregateInterrupts_ok {g : GridBuffer UInt64} (h : g.Sized) (count : Nat) (s : Slot)
    (offline : Bitmap) :
    ∃ g' offline', aggregateInterrupts count g s offline = .ok (g', offline') ∧ g'.Sized ∧
      g'.cpus = g.cpus := by
  refine ⟨_, _, aggregateInterrupts_eq h count s offline, ?_, ?_⟩
  · split
    · exact sized_setRow h s 0 _
    · exact h
  · split <;> rfl

theorem prepareInterrupts_ok (h : a.grid.Sized) (s : Slot) :
    ∃ b, prepareInterrupts a s = .ok b ∧ Later a b ∧ b.grid.cpus = a.grid.cpus := by
  unfold prepareInterrupts
  dsimp only
  split
  · obtain ⟨g, offline, hagg, hg, hcpus⟩ :=
      aggregateInterrupts_ok h (count a) s (.new (count a))
    exact ⟨{ a with grid := g, offline }, by
      simp [count] at hagg ⊢; rw [hagg]; rfl, ⟨rfl, rfl, fun _ => hg⟩, hcpus⟩
  · exact ⟨_, rfl, ⟨rfl, rfl, id⟩, rfl⟩

/-- The rows of the CPUs shown are emitted where none of them is missing. -/
theorem emitInterrupts_of_rows {s : Slot} {rows : Nat}
    (h : ∀ cpu ∈ (List.range (min (count a) rows)).filter fun cpu =>
        isShown cpu a.selection a.offline,
      a.grid.row s cpu = .ok ((a.grid.rowCells cpu).map (·.get s))) (isDefined : Nat → Bool) :
    emitInterrupts isDefined a s rows =
      .ok (((List.range (min (count a) rows)).filter fun cpu =>
        isShown cpu a.selection a.offline).flatMap fun cpu =>
          rowEmissions isDefined a.lines cpu ((a.grid.rowCells cpu).map (·.get s))) := by
  have hcpus : ((List.range (min (count a) rows)).filter fun cpu =>
        isShown cpu a.selection a.offline).mapM
      (fun cpu => (a.grid.row s cpu).map (rowEmissions isDefined a.lines cpu)) =
        .ok (((List.range (min (count a) rows)).filter fun cpu =>
          isShown cpu a.selection a.offline).map fun cpu =>
            rowEmissions isDefined a.lines cpu ((a.grid.rowCells cpu).map (·.get s))) := by
    refine mapM_ok fun cpu hcpu => ?_
    rw [h cpu hcpu, Except.map]
  simp only [emitInterrupts, hcpus, bind, Except.bind, pure, Except.pure, List.flatMap]

theorem emitInterrupts_ok (h : a.grid.Sized) (isDefined : Nat → Bool) (s : Slot) {rows : Nat}
    (hrows : rows ≤ a.grid.cpus) :
    emitInterrupts isDefined a s rows =
      .ok (((List.range (min (count a) rows)).filter fun cpu =>
        isShown cpu a.selection a.offline).flatMap fun cpu =>
          rowEmissions isDefined a.lines cpu ((a.grid.rowCells cpu).map (·.get s))) := by
  refine emitInterrupts_of_rows (fun cpu hcpu => h.row_ok s ?_) isDefined
  have hlt := List.mem_range.mp (List.mem_filter.mp hcpu).1
  omega

end GroupSpec

end ActivityArchive
