import ActivityArchive.Proofs.Activity.InterruptLoading
import ActivityArchive.Proofs.Activity.InterruptTotals
import ActivityArchive.Proofs.Group.Support

/-!
Which totals are written of an interrupt table. They stand in the emissions of row 0 alone, the sum
under its own metric and every other line that is known under its name.
-/
namespace ActivityArchive

open Interrupts Record

namespace Record.InterruptTable

/-- The total that is written of a line: the sum over the CPUs, or the count of row 0 where no table
with the row of a CPU was ever loaded. -/
def shownTotal (t : InterruptTable) (count : Nat) (wide : Prop) [Decidable wide] (name : String) :
    UInt64 :=
  if wide then t.sumAt (min count t.counts.length) name else t.lastAt 0 name

end Record.InterruptTable

namespace GroupSpec

/-- What row 0 holds before a loaded table is emitted: the sums over the CPUs where there is room
for one, and else the counts it came with. -/
theorem prepare_loaded {a : Interrupts} {s : Slot} {t : InterruptTable} (h : a.Loaded s t)
    (hcount : 1 < a.count) (hrows : 1 ≤ t.counts.length) :
    ∃ b, prepareInterrupts a s = .ok b ∧ Totaled s a b ∧
      ∀ name, b.countAt s 0 name = t.shownTotal a.count (1 < a.grid.cpus) name := by
  obtain ⟨b, hprepare, htotaled⟩ := h.roomy.named.prepare hcount s
  refine ⟨b, hprepare, htotaled, fun name => ?_⟩
  have hb := prepareInterrupts_eq h.roomy.named.sized hcount s
  rw [hprepare] at hb
  cases hb
  refine (recordAt_totaledGrid h.roomy.named.sized hcount s 0 _).trans ?_
  rw [InterruptTable.shownTotal]
  by_cases hroom : 1 < a.grid.cpus
  · rw [if_pos ⟨hroom, rfl⟩, if_pos hroom, (totals_eq h.roomy.named.sized s).2,
      ← InterruptTable.sumAt_min hrows h.roomy.rows]
    refine congrArg (List.foldl (· + ·) 0) (List.map_congr_left fun row _ => ?_)
    exact h.countAt row name
  · rw [if_neg fun hboth => hroom hboth.1, if_neg hroom]
    exact h.countAt 0 name

variable {isDefined : Nat → Bool} {cpu line : Nat} {name : String} {count : UInt64}
  {label : Option String}
  {v : Value} {s : Slot} {t : InterruptTable}

theorem mem_cell_sum : .value sumMetric label v ∈ cellEmissions isDefined cpu line name count ↔
    cpu = 0 ∧ line = 0 ∧ isDefined sumMetric = true ∧ label = none ∧ v = .u64 count := by
  have hline : sumMetric ≠ lineMetric := by decide
  have hcpuLine : sumMetric ≠ cpuLineMetric := by decide
  unfold cellEmissions
  split
  · split <;> split <;> simp [*]
  · split <;> simp [*]

theorem mem_cell_line :
    .value lineMetric label v ∈ cellEmissions isDefined cpu line name count ↔
    cpu = 0 ∧ line ≠ 0 ∧ isDefined lineMetric = true ∧ label = some name ∧
    v = .u64 count := by
  have hsum : lineMetric ≠ sumMetric := by decide
  have hcpuLine : lineMetric ≠ cpuLineMetric := by decide
  unfold cellEmissions
  split
  · split <;> split <;> simp [*]
  · split <;> simp [*]

/-- The emissions of a row, cell by cell. -/
theorem mem_rowEmissions {lines : List String} {f : String → UInt64} {e : Emission} :
    e ∈ rowEmissions isDefined lines cpu (lines.map f) ↔
      ∃ i name, lines[i]? = some name ∧ e ∈ cellEmissions isDefined cpu i name (f name) := by
  have hzip : lines.zip (lines.map f) = lines.map fun name => (name, f name) := by
    have hmap := List.zip_map' (f := id) (g := f) (l := lines)
    rwa [List.map_id] at hmap
  rw [rowEmissions, hzip, List.mem_flatMap]
  constructor
  · rintro ⟨⟨⟨name, count⟩, i⟩, hmem, he⟩
    rw [List.mk_mem_zipIdx_iff_getElem?, List.getElem?_map, Option.map_eq_some_iff] at hmem
    obtain ⟨name', hname, hpair⟩ := hmem
    cases hpair
    exact ⟨i, name, hname, he⟩
  · rintro ⟨i, name, hname, he⟩
    refine ⟨((name, f name), i), ?_, he⟩
    rw [List.mk_mem_zipIdx_iff_getElem?, List.getElem?_map, hname]
    rfl

/-- What interrupts emit, cell by cell. -/
theorem mem_emitInterrupts (isDefined : Nat → Bool) (s : Slot) {c : Interrupts} (h : c.Named)
    (hcolumns : c.grid.lines = c.lines.length) {rows : Nat} (hrows : rows ≤ c.grid.cpus) :
    ∃ es, emitInterrupts isDefined c s rows = .ok es ∧ ∀ e, e ∈ es ↔
      ∃ cpu < min c.count rows, isShown cpu c.selection c.offline = true ∧
        ∃ i name, c.lines[i]? = some name ∧
          e ∈ cellEmissions isDefined cpu i name (c.countAt s cpu name) := by
  refine ⟨_, emitInterrupts_ok h.sized isDefined s hrows, fun e => ?_⟩
  simp only [List.mem_flatMap, List.mem_filter, List.mem_range]
  constructor
  · rintro ⟨cpu, ⟨hcpu, hshown⟩, he⟩
    rw [h.row_eq hcolumns s (by omega)] at he
    exact ⟨cpu, hcpu, hshown, mem_rowEmissions.mp he⟩
  · rintro ⟨cpu, hcpu, hshown, he⟩
    refine ⟨cpu, ⟨hcpu, hshown⟩, ?_⟩
    rw [h.row_eq hcolumns s (by omega)]
    exact mem_rowEmissions.mpr he

/-- Which totals an export of a loaded table writes. -/
structure WritesTotals (view : ExportView) (t : InterruptTable) (total : String → UInt64) :
    Prop where
  sum : ∀ label v, .value sumMetric label v ∈ (interrupts.emit view).2 ↔
    t.counts ≠ [] ∧ view.acts.irq.selection.contains 0 = true ∧
    view.isDefined sumMetric = true ∧
      label = none ∧ v = .u64 (total sumLine)
  line : ∀ label v, .value lineMetric label v ∈ (interrupts.emit view).2 ↔
    t.counts ≠ [] ∧ view.acts.irq.selection.contains 0 = true ∧
    view.isDefined lineMetric = true ∧
      ∃ name ∈ view.acts.irq.lines, name ≠ sumLine ∧ label = some name ∧
      v = .u64 (total name)

theorem writesTotals (view : ExportView) (h : view.acts.irq.Loaded view.slot t)
    (hfirst : view.acts.irq.lines.head? = some sumLine) (hcount : 2 ≤ view.acts.irq.count) :
    WritesTotals view t (t.shownTotal view.acts.irq.count (1 < view.acts.irq.grid.cpus)) := by
  by_cases hrows : t.counts.length = 0
  · have hnil : t.counts = [] := List.length_eq_zero_iff.mp hrows
    have hemit : (interrupts.emit view).2 = [] :=
      congrArg Prod.snd (if_pos (h.rows.trans hrows))
    constructor <;> simp [hemit, hnil]
  have hne : t.counts ≠ [] := fun hnil => hrows (List.length_eq_zero_iff.mpr hnil)
  obtain ⟨c, hprepare, htotaled, hzero⟩ := prepare_loaded h (by omega) (by omega)
  obtain ⟨es, hes, hmem⟩ := mem_emitInterrupts view.isDefined view.slot htotaled.named
    (by rw [htotaled.columns, htotaled.lines, h.roomy.columns])
    (htotaled.cpus ▸ h.roomy.rows)
  have hemit : (interrupts.emit view).2 = es := by
    refine (congrArg Prod.snd (if_neg fun hnone => hrows (h.rows.symm.trans hnone))).trans ?_
    rw [hprepare]
    dsimp only
    rw [h.rows, hes]
  have hcounted : 0 < min c.count t.counts.length := by
    have hsame : c.count = view.acts.irq.count := by
      rw [Interrupts.count, htotaled.planned]
      rfl
    omega
  have hshown : isShown 0 c.selection c.offline = true ↔
      view.acts.irq.selection.contains 0 = true := by
    constructor
    · intro hshown
      rw [isShown, htotaled.selection, Bool.and_eq_true] at hshown
      exact hshown.1
    · exact htotaled.isShown_zero
  obtain ⟨rest, hlines⟩ := List.head?_eq_some_iff.mp hfirst
  have hnodup := htotaled.named.nodup
  rw [htotaled.lines, hlines] at hnodup
  constructor
  · intro label v
    rw [hemit, hmem]
    constructor
    · rintro ⟨cpu, -, hcpu, i, name, hname, he⟩
      obtain ⟨rfl, rfl, hdef, rfl, rfl⟩ := mem_cell_sum.mp he
      rw [htotaled.lines, hlines] at hname
      obtain rfl : sumLine = name := Option.some.inj hname
      exact ⟨hne, hshown.mp hcpu, hdef, rfl, congrArg Value.u64 (hzero sumLine)⟩
    · rintro ⟨-, hselected, hdef, rfl, rfl⟩
      refine ⟨0, hcounted, hshown.mpr hselected, 0, sumLine, ?_, mem_cell_sum.mpr
        ⟨rfl, rfl, hdef, rfl, congrArg Value.u64 (hzero sumLine).symm⟩⟩
      rw [htotaled.lines, hlines]
      rfl
  · intro label v
    rw [hemit, hmem]
    constructor
    · rintro ⟨cpu, -, hcpu, i, name, hname, he⟩
      obtain ⟨rfl, hi, hdef, rfl, rfl⟩ := mem_cell_line.mp he
      rw [htotaled.lines] at hname
      refine ⟨hne, hshown.mp hcpu, hdef, name, List.mem_of_getElem? hname, fun hsum => ?_, rfl,
        congrArg Value.u64 (hzero name)⟩
      rw [hlines] at hname
      obtain ⟨i, rfl⟩ := Nat.exists_eq_succ_of_ne_zero hi
      exact (List.nodup_cons.mp hnodup).1 (hsum ▸ List.mem_of_getElem? hname)
    · rintro ⟨-, hselected, hdef, name, hname, hsum, rfl, rfl⟩
      obtain ⟨i, hi⟩ := List.mem_iff_getElem?.mp hname
      refine ⟨0, hcounted, hshown.mpr hselected, i, name, htotaled.lines ▸ hi, mem_cell_line.mpr
        ⟨rfl, fun hzero => hsum ?_, hdef, rfl, congrArg Value.u64 (hzero name).symm⟩⟩
      rw [hlines, hzero] at hi
      exact (Option.some.inj hi).symm

/-- The totals are asked for where the aggregate is selected. -/
theorem asked_totals (dv : DefineView) {idx : Nat} (hidx : idx = sumMetric ∨ idx = lineMetric) :
    idx ∈ interrupts.asked dv ↔ dv.acts.irq.selection.contains 0 = true := by
  have hcpuLine : idx ≠ cpuLineMetric := by
    rcases hidx with rfl | rfl <;> decide
  have hmetrics : idx ∈ interrupts.asked dv ↔ .metric idx ∈ defineInterrupts dv.acts.irq := by
    rw [asked, List.mem_flatMap]
    constructor
    · rintro ⟨step, hstep, hin⟩
      cases step with
      | table =>
        have hstep : .table ∈ defineInterrupts dv.acts.irq := hstep
        unfold defineInterrupts at hstep
        generalize dv.acts.irq.lines.drop 1 = names at hstep
        simp at hstep
      | metric i =>
        obtain rfl : idx = i := List.mem_singleton.mp hin
        exact hstep
      | entry d l num => cases hin
    · exact fun h => ⟨_, h, List.mem_cons_self⟩
  rw [hmetrics]
  unfold defineInterrupts
  generalize dv.acts.irq.lines.drop 1 = names
  by_cases hall : dv.acts.irq.selection.contains 0 = true
  · rcases hidx with rfl | rfl <;> simp [hall]
  · simp [hall, hcpuLine]

end GroupSpec

end ActivityArchive
