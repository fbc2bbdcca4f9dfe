import ActivityArchive.Proofs.Activity.InterruptLoading
import ActivityArchive.Proofs.Activity.InterruptTotals
import ActivityArchive.Proofs.Group.Restoring
import ActivityArchive.Proofs.Instance.Labels

/-!
Interrupt counts shown and read back. A record shows the totals of all lines and, of each CPU that
is online, the low half of each count under a label of its own; every reading leads back to the row
and the line that it was written for (`Transcript.puts_interrupts`).
-/
namespace ActivityArchive

open GroupSpec Interrupts Record

namespace GroupSpec

variable {f : Nat → String → UInt64} {rest : List String} {cpus : List Nat}

def writtenTotal (f : Nat → String → UInt64) (name : String) : List Emission :=
  [.entry Domain.interrupt name none, .value lineMetric (some name) (.u64 (f 0 name))]

def writtenCount (f : Nat → String → UInt64) (cpu : Nat) (name : String) : List Emission :=
  [.entry Domain.perCpuInterrupt (Domain.lineLabel name (cpu - 1)) none,
    .value cpuLineMetric (some (Domain.lineLabel name (cpu - 1))) (.u32 (f cpu name).toUInt32)]

/-- What is written of some counts: of the aggregate, and of each CPU that is shown. -/
def writtenInterrupts (rest : List String) (cpus : List Nat) (f : Nat → String → UInt64) :
    List Emission :=
  .value sumMetric none (.u64 (f 0 sumLine)) :: (rest.flatMap (writtenTotal f) ++
    cpus.flatMap fun cpu => rest.flatMap (writtenCount f cpu))

/-- The rows and the lines of the counts of CPUs. -/
def cpuKeys (rest : List String) (cpus : List Nat) : List (Nat × String) :=
  cpus.flatMap fun cpu => rest.map (cpu, ·)

/-- What is read back of a count. -/
def readBack (f : Nat → String → UInt64) (row : Nat) (name : String) : UInt64 :=
  if row = 0 then f 0 name else (f row name).toUInt32.toUInt64

theorem rowEmissions_cells (isDefined : Nat → Bool) (lines : List String) (cpu : Nat)
    (row : List UInt64) :
    rowEmissions isDefined lines cpu row =
      (lines.zip row).zipIdx.flatMap fun x => cellEmissions isDefined cpu x.2 x.1.1 x.1.2 := rfl

theorem rowEmissions_eq {isDefined : Nat → Bool} (hdefined : ∀ idx < 3, isDefined idx = true)
    (rest : List String) (f : Nat → String → UInt64) (cpu : Nat) :
    rowEmissions isDefined (sumLine :: rest) cpu ((sumLine :: rest).map (f cpu)) =
      if cpu = 0 then .value sumMetric none (.u64 (f 0 sumLine)) :: rest.flatMap (writtenTotal f)
      else rest.flatMap (writtenCount f cpu) := by
  have hsum := hdefined sumMetric (by decide)
  have hline := hdefined lineMetric (by decide)
  have hcpuLine := hdefined cpuLineMetric (by decide)
  have hzip : (sumLine :: rest).zip ((sumLine :: rest).map (f cpu)) =
      (sumLine :: rest).map fun name => (name, f cpu name) := by
    have hmap := List.zip_map' (f := id) (g := f cpu) (l := sumLine :: rest)
    rwa [List.map_id] at hmap
  have hrest : ((rest.map fun name => (name, f cpu name)).zipIdx 1).flatMap
      (fun x => cellEmissions isDefined cpu x.2 x.1.1 x.1.2) =
        rest.flatMap fun name => if cpu = 0 then writtenTotal f name
          else writtenCount f cpu name := by
    rw [← List.zipIdx_map_fst 1 rest, List.flatMap_map, List.zipIdx_map_fst, List.zipIdx_map,
      List.flatMap_map]
    refine List.flatMap_congr fun x hx => ?_
    obtain ⟨name, line⟩ := x
    have hpos : line ≠ 0 := by
      have hle := (List.mk_mem_zipIdx_iff_le_and_getElem?_sub.mp hx).1
      omega
    by_cases hcpu : cpu = 0
    · subst hcpu
      simp [cellEmissions, hpos, hline, writtenTotal]
    · simp [cellEmissions, hpos, hcpu, hcpuLine, writtenCount]
  rw [rowEmissions_cells, hzip, List.map_cons, List.zipIdx_cons, List.flatMap_cons, hrest]
  by_cases hcpu : cpu = 0
  · subst hcpu
    simp [cellEmissions, hsum]
  · simp [cellEmissions, hcpu]

/-- What is shown of the first rows of a table: the totals of its lines, and the rows of the CPUs
that have counts. -/
structure ShownCounts (rows : Nat) (t : InterruptTable) (rest : List String) (cpus : List Nat)
    (f : Nat → String → UInt64) : Prop where
  lines : ∀ name ∈ t.lines, name = sumLine ∨ name ∈ rest
  fresh : sumLine ∉ rest
  online : ∀ cpu ∈ cpus, 1 ≤ cpu ∧ cpu < rows
  idle : ∀ cpu, 1 ≤ cpu → cpu < rows → cpu ∉ cpus → ∀ name, t.countAt cpu name = 0
  total : ∀ name, (f 0 name).toNat = t.total rows name % UInt64.size
  count : ∀ cpu, cpu ≠ 0 → ∀ name, f cpu name = t.countAt cpu name

theorem emitInterrupts_eq (isDefined : Nat → Bool) {c : Interrupts} (s : Slot) {rows : Nat}
    (h : c.Named) (hcolumns : c.grid.lines = c.lines.length) (hrows : rows ≤ c.grid.cpus)
    (hdefined : ∀ idx < 3, isDefined idx = true) (hlines : c.lines = sumLine :: rest)
    (hpos : 0 < min c.count rows) (hzero : isShown 0 c.selection c.offline = true) :
    emitInterrupts isDefined c s rows = .ok (writtenInterrupts rest
      ((List.range' 1 (min c.count rows - 1)).filter fun cpu => isShown cpu c.selection c.offline)
      (c.countAt s)) := by
  have hrange : List.range (min c.count rows) = 0 :: List.range' 1 (min c.count rows - 1) :=
    List.range_eq_range'.trans (List.range'_eq_cons_iff.mpr ⟨rfl, hpos, rfl⟩)
  have hrow : ∀ cpu < c.grid.cpus,
      rowEmissions isDefined c.lines cpu ((c.grid.rowCells cpu).map (·.get s)) =
        if cpu = 0 then .value sumMetric none (.u64 (c.countAt s 0 sumLine)) ::
          rest.flatMap (writtenTotal (c.countAt s))
        else rest.flatMap (writtenCount (c.countAt s) cpu) := by
    intro cpu hcpu
    rw [h.row_eq hcolumns s hcpu, hlines]
    exact rowEmissions_eq hdefined rest (c.countAt s) cpu
  rw [emitInterrupts_ok h.sized isDefined s hrows, hrange,
    List.filter_cons_of_pos (by exact hzero), List.flatMap_cons, hrow 0 (by omega), if_pos rfl,
    writtenInterrupts, List.cons_append]
  refine congrArg (fun es => Except.ok (_ :: (_ ++ es))) (List.flatMap_congr fun cpu hcpu => ?_)
  have hlt := List.mem_range'_1.mp (List.mem_filter.mp hcpu).1
  rw [hrow cpu (by omega), if_neg (by omega)]

/-- An export keeps what is known of the lines, and the room there is. -/
theorem listed_emit (view : ExportView) (h : view.acts.irq.Listed)
    (hcount : 2 ≤ view.acts.irq.count) :
    (interrupts.emit view).1.irq.Listed ∧
      (interrupts.emit view).1.irq.count = view.acts.irq.count ∧
      (interrupts.emit view).1.irq.grid.cpus = view.acts.irq.grid.cpus := by
  by_cases hrows : (view.acts.irq.grid.observed.get view.slot).1 = 0
  · have hsame : (interrupts.emit view).1 = view.acts := congrArg Prod.fst (if_pos hrows)
    rw [hsame]
    exact ⟨h, rfl, rfl⟩
  · obtain ⟨c, hprepare, htotaled⟩ := h.named.prepare hcount view.slot
    have hirq : (interrupts.emit view).1.irq = c := by
      refine (congrArg (fun w : Activities × List Emission => w.1.irq) (if_neg hrows)).trans ?_
      rw [hprepare]
    rw [hirq, Interrupts.count, htotaled.planned]
    exact ⟨⟨htotaled.named, htotaled.lines ▸ h.first⟩, rfl, htotaled.cpus⟩

/-- All metrics are asked for where everything is selected. -/
theorem asked_interrupts (dv : DefineView) (hcount : 2 ≤ dv.acts.irq.count)
    (hselected : ∀ i < dv.acts.irq.count, dv.acts.irq.selection.contains i = true) :
    ∀ idx < 3, idx ∈ interrupts.asked dv := by
  have hzero := hselected 0 (by omega)
  have hone : (List.range' 1 (dv.acts.irq.count - 1)).filter
      dv.acts.irq.selection.contains ≠ [] :=
    List.ne_nil_of_mem (List.mem_filter.mpr
      ⟨List.mem_range'_1.mpr (by omega), hselected 1 (by omega)⟩)
  have hmetric : ∀ idx < 3, .metric idx ∈ interrupts.define dv := by
    intro idx hidx
    show .metric idx ∈ defineInterrupts dv.acts.irq
    have hsplit : idx = sumMetric ∨ idx = lineMetric ∨ idx = cpuLineMetric := by
      simp only [sumMetric, lineMetric, cpuLineMetric]
      omega
    rcases hsplit with rfl | rfl | rfl <;> simp [defineInterrupts, hzero, hone]
  intro idx hidx
  exact List.mem_flatMap.mpr ⟨_, hmetric idx hidx, List.mem_cons_self⟩

/-- The totals of a table that was loaded, and its rows. -/
theorem shownCounts {a c : Interrupts} {s : Slot} {t : InterruptTable} (h : a.Loaded s t)
    (ht : t.Proper) (htotaled : Totaled s a c) (hlines : c.lines = sumLine :: rest)
    (hrows : 2 ≤ t.counts.length)
    (hselected : ∀ i < a.count, a.selection.contains i = true) :
    ShownCounts (min t.counts.length a.count) t rest
      ((List.range' 1 (min a.count t.counts.length - 1)).filter fun cpu =>
        isShown cpu c.selection c.offline) (c.countAt s) := by
  have hroom : t.counts.length ≤ a.grid.cpus := h.roomy.rows
  have hcounts : ∀ row name, a.countAt s row name = t.countAt row name := fun row name =>
    (h.countAt row name).trans (ht.lastAt_eq row name)
  refine ⟨fun name hname => ?_, ?_, fun cpu hcpu => ?_, fun cpu hpos hlt hoff name => ?_,
    fun name => ?_, fun cpu hcpu name => ?_⟩
  · have hknown := htotaled.lines ▸ h.lines name hname
    rw [hlines] at hknown
    exact List.mem_cons.mp hknown
  · have hnd := htotaled.named.nodup
    rw [hlines] at hnd
    exact (List.nodup_cons.mp hnd).1
  · have hrange := List.mem_range'_1.mp (List.mem_filter.mp hcpu).1
    omega
  · have hmem : cpu ∈ List.range' 1 (min a.count t.counts.length - 1) := by
      rw [List.mem_range'_1]
      omega
    rw [← hcounts]
    exact htotaled.countAt_of_hidden (hselected cpu (by omega))
      (fun hshown => hoff (List.mem_filter.mpr ⟨hmem, hshown⟩)) name
  · rw [htotaled.total (by omega), ← InterruptTable.total_min (by omega) hroom]
    simp only [hcounts]
    rfl
  · rw [htotaled.unit cpu hcpu, hcounts]

/-- What is written of a table that was loaded. -/
theorem emit_shown (view : ExportView) {t : InterruptTable} (h : view.acts.irq.Loaded view.slot t)
    (ht : t.Proper) (hfirst : view.acts.irq.lines.head? = some sumLine)
    (hcount : 2 ≤ view.acts.irq.count)
    (hrows : 2 ≤ t.counts.length)
    (hselected : ∀ i < view.acts.irq.count, view.acts.irq.selection.contains i = true)
    (hdefined : ∀ idx < 3, view.isDefined idx = true) :
    ∃ rest cpus f, (interrupts.emit view).2 = writtenInterrupts rest cpus f ∧
      ShownCounts (min t.counts.length view.acts.irq.count) t rest cpus f := by
  obtain ⟨c, hprepare, htotaled⟩ := h.roomy.named.prepare hcount view.slot
  obtain ⟨rest, hlines⟩ := List.head?_eq_some_iff.mp (htotaled.lines ▸ hfirst)
  have hcounted : c.count = view.acts.irq.count := by
    rw [Interrupts.count, htotaled.planned]
    rfl
  have hemit := emitInterrupts_eq view.isDefined view.slot htotaled.named
    (by rw [htotaled.columns, htotaled.lines, h.roomy.columns]) (htotaled.cpus ▸ h.roomy.rows)
    hdefined hlines (by omega) (htotaled.isShown_zero (hselected 0 (by omega)))
  have hpresent : (view.acts.irq.grid.observed.get view.slot).1 ≠ 0 := by
    rw [h.rows]
    omega
  have hwritten : (interrupts.emit view).2 = writtenInterrupts rest
      ((List.range' 1 (min c.count t.counts.length - 1)).filter fun cpu =>
        isShown cpu c.selection c.offline) (c.countAt view.slot) := by
    refine (congrArg Prod.snd (if_neg hpresent)).trans ?_
    rw [hprepare]
    dsimp only
    rw [h.rows, hemit]
  rw [hcounted] at hwritten
  exact ⟨rest, _, _, hwritten, shownCounts h ht htotaled hlines hrows hselected⟩

variable {st : Store} {es : List Emission} {view : ImportView} {idx : Nat}
  {keys : List (Nat × String)} {reading : Nat × String → Reading} {acts : Activities}

def totalReading (st : Store) (f : Nat → String → UInt64) (key : Nat × String) : Reading :=
  (Group.interrupts.numberFor st lineMetric (some key.2), .u64 (f 0 key.2))

def countReading (st : Store) (f : Nat → String → UInt64) (key : Nat × String) : Reading :=
  (Group.interrupts.numberFor st cpuLineMetric (some (Domain.lineLabel key.2 (key.1 - 1))),
    .u32 (f key.1 key.2).toUInt32)

/-- The readings of what is written, metric by metric. -/
def interruptColumns (st : Store) (rest : List String) (cpus : List Nat)
    (f : Nat → String → UInt64) : List (Nat × List Reading) :=
  [(sumMetric, [(none, .u64 (f 0 sumLine))]),
    (lineMetric, (rest.map (0, ·)).map (totalReading st f)),
    (cpuLineMetric, (cpuKeys rest cpus).map (countReading st f))]

theorem readings_interrupts (st : Store) (rest : List String) (cpus : List Nat)
    (f : Nat → String → UInt64) :
    Group.interrupts.readings st (fun _ => true) (writtenInterrupts rest cpus f) =
      (interruptColumns st rest cpus f).flatMap fun c => c.2.map fun r => (c.1, r) := by
  have htotals : ∀ names : List String,
      Group.interrupts.readings st (fun _ => true) (names.flatMap (writtenTotal f)) =
        names.map fun name => (lineMetric, totalReading st f (0, name)) := by
    intro names
    rw [Group.readings, List.filterMap_flatMap, List.map_eq_flatMap]
    rfl
  have hcounts : ∀ cpu, ∀ names : List String,
      Group.interrupts.readings st (fun _ => true) (names.flatMap (writtenCount f cpu)) =
        names.map fun name => (cpuLineMetric, countReading st f (cpu, name)) := by
    intro cpu names
    rw [Group.readings, List.filterMap_flatMap, List.map_eq_flatMap]
    rfl
  have hcpus : Group.interrupts.readings st (fun _ => true)
      (cpus.flatMap fun cpu => rest.flatMap (writtenCount f cpu)) =
        (cpuKeys rest cpus).map fun key => (cpuLineMetric, countReading st f key) := by
    rw [Group.readings, List.filterMap_flatMap, cpuKeys, List.map_flatMap]
    refine List.flatMap_congr fun cpu _ => (hcounts cpu rest).trans ?_
    rw [List.map_map]
    rfl
  have hsplit : Group.interrupts.readings st (fun _ => true) (writtenInterrupts rest cpus f) =
      (sumMetric, Group.interrupts.numberFor st sumMetric none, .u64 (f 0 sumLine)) ::
        (Group.interrupts.readings st (fun _ => true) (rest.flatMap (writtenTotal f)) ++
          Group.interrupts.readings st (fun _ => true)
            (cpus.flatMap fun cpu => rest.flatMap (writtenCount f cpu))) := by
    rw [Group.readings, Group.readings, Group.readings, writtenInterrupts,
      ← List.filterMap_append]
    rfl
  rw [hsplit, htotals, hcpus, Group.numberFor_none]
  simp only [interruptColumns, List.flatMap_cons, List.flatMap_nil, List.append_nil, List.map_map,
    List.map_cons, List.map_nil, List.singleton_append]
  rfl

/-- Readings that tell the counts of some rows and lines. -/
def Tells (view : ImportView) (idx : Nat) (f : Nat → String → UInt64)
    (reading : Nat × String → Reading) (keys : List (Nat × String)) : Prop :=
  ∀ key ∈ keys, view.word64? idx (reading key).2 = some (f key.1 key.2) ∧
    cellOf? view idx (reading key).1 = some key

theorem absorb_reading {r : Reading} {row : Nat} {name : String} {count : UInt64}
    (hword : view.word64? idx r.2 = some count) (hcell : cellOf? view idx r.1 = some (row, name)) :
    interrupts.absorb view idx [r] acts =
      { acts with irq := absorbCell acts.irq view.slot row name count } := by
  obtain ⟨number, v⟩ := r
  simp only [interrupts, List.foldl_cons, List.foldl_nil, hword, hcell]

/-- Readings of one metric, each taken in where it belongs. -/
theorem Tells.puts (h : Tells view idx f reading keys) (acts : Activities) {rows : Nat}
    (hacts : acts.irq.Showing view.slot ∧ rows ≤ (acts.irq.grid.observed.get view.slot).1) :
    let after := interrupts.absorb view idx (keys.map reading) acts
    (after.irq.Showing view.slot ∧ rows ≤ (after.irq.grid.observed.get view.slot).1) ∧
      Puts view.slot f keys acts.irq after.irq := by
  let P : Activities → Prop := fun acts =>
    acts.irq.Showing view.slot ∧ rows ≤ (acts.irq.grid.observed.get view.slot).1
  have hstep : ∀ key ∈ keys, ∀ acts, P acts →
    P (interrupts.absorb view idx [reading key] acts) ∧
      Puts view.slot f [key] acts.irq (interrupts.absorb view idx [reading key] acts).irq := by
    rintro ⟨row, name⟩ hkey acts hacts
    obtain ⟨hword, hcell⟩ := h _ hkey
    rw [absorb_reading hword hcell]
    obtain ⟨hshowing, hrows, hputs⟩ := hacts.1.absorbCell (f := f) row name rfl
    refine ⟨⟨hshowing, ?_⟩, hputs⟩
    show rows ≤ ((absorbCell acts.irq view.slot row name (f row name)).grid.observed.get
      view.slot).1
    rw [hrows]
    exact Nat.le_trans hacts.2 (Nat.le_max_left _ _)
  have hfold := puts_foldl (fun acts : Activities => acts.irq) hstep hacts
  have hkeys : keys.flatMap (fun key => [key]) = keys := List.flatMap_singleton' keys
  have habsorb : interrupts.absorb view idx (keys.map reading) acts =
      keys.foldl (fun acts key => interrupts.absorb view idx [reading key] acts) acts :=
    List.foldl_map
  rw [hkeys] at hfold
  rw [habsorb]
  exact hfold

theorem readsBack_interrupts (rest : List String) (cpus : List Nat)
    (f : Nat → String → UInt64) :
    Group.interrupts.ReadsBack (fun _ => true) (writtenInterrupts rest cpus f) := by
  intro idx label v he _
  rcases List.mem_cons.mp he with he | he
  · cases he
    exact ⟨Value.exact_u64 _, rfl⟩
  · rcases List.mem_append.mp he with he | he
    · obtain ⟨name, -, he⟩ := List.mem_flatMap.mp he
      simp only [writtenTotal, List.mem_cons, reduceCtorEq, List.not_mem_nil, or_false,
        false_or] at he
      cases he
      exact ⟨Value.exact_u64 _, rfl⟩
    · obtain ⟨cpu, -, he⟩ := List.mem_flatMap.mp he
      obtain ⟨name, -, he⟩ := List.mem_flatMap.mp he
      simp only [writtenCount, List.mem_cons, reduceCtorEq, List.not_mem_nil, or_false,
        false_or] at he
      cases he
      exact ⟨Value.exact_u32 _, rfl⟩

theorem tells_totals (hcarries : st.Carries .interrupts (writtenInterrupts rest cpus f)) :
    Tells ⟨Group.interrupts.metrics, st.instances, .curr⟩ lineMetric (readBack f)
      (totalReading st f) (rest.map (0, ·)) := by
  intro key hkey
  obtain ⟨name, hname, rfl⟩ := List.mem_map.mp hkey
  have he : .value lineMetric (some name) (.u64 (f 0 name)) ∈ writtenInterrupts rest cpus f :=
    List.mem_cons_of_mem _ (List.mem_append_left _
      (List.mem_flatMap.mpr ⟨name, hname, by simp [writtenTotal]⟩))
  refine ⟨if_pos (accepts_of_kind rfl), ?_⟩
  have hlabel := hcarries.label?_numberFor (d := Domain.interrupt) he rfl
  show (ImportView.label? _ lineMetric _).map _ = _
  rw [totalReading, hlabel]
  rfl

/-- The label of a count leads to its line and its CPU. -/
theorem tells_counts (hcarries : st.Carries .interrupts (writtenInterrupts rest cpus f))
    (hcpus : ∀ cpu ∈ cpus, 1 ≤ cpu ∧ cpu < UInt64.size) :
    Tells ⟨Group.interrupts.metrics, st.instances, .curr⟩ cpuLineMetric (readBack f)
      (countReading st f) (cpuKeys rest cpus) := by
  intro key hkey
  obtain ⟨cpu, hcpu, hkey⟩ := List.mem_flatMap.mp hkey
  obtain ⟨name, hname, rfl⟩ := List.mem_map.mp hkey
  obtain ⟨hpos, hword⟩ := hcpus cpu hcpu
  have he : .value cpuLineMetric (some (Domain.lineLabel name (cpu - 1)))
    (.u32 (f cpu name).toUInt32) ∈
      writtenInterrupts rest cpus f :=
    List.mem_cons_of_mem _ (List.mem_append_right _ (List.mem_flatMap.mpr ⟨cpu, hcpu,
      List.mem_flatMap.mpr ⟨name, hname, by simp [writtenCount]⟩⟩))
  refine ⟨?_, ?_⟩
  · have hzero : cpu ≠ 0 := by omega
    rw [readBack, if_neg hzero]
    exact if_pos (accepts_of_kind rfl)
  · have hlabel := hcarries.label?_numberFor (d := Domain.perCpuInterrupt) he rfl
    show ((ImportView.label? _ cpuLineMetric _).bind _).map _ = _
    rw [countReading, hlabel, Option.bind_some, Domain.splitLabel?_lineLabel (by omega),
      Option.map_some]
    dsimp only
    rw [Nat.sub_add_cancel hpos]

end GroupSpec

open GroupSpec

/-- What a record brings back of the interrupts that were written into it. -/
theorem Transcript.puts_interrupts {st : Store} {groups : List Group} {es : Group → List Emission}
    {record : StoredRecord} {rest : List String} {cpus : List Nat} {f : Nat → String → UInt64}
    (h : Transcript st groups es record) (hg : .interrupts ∈ groups)
    (hes : es .interrupts = writtenInterrupts rest cpus f)
    (hcpus : ∀ cpu ∈ cpus, 1 ≤ cpu ∧ cpu < UInt64.size) {acts : Activities}
    (hacts : acts.irq.Showing .curr) :
    let after := Session.takeAll st.instances (st.decode record).sets acts
    (after.irq.Showing .curr ∧ 1 ≤ (after.irq.grid.observed.get .curr).1) ∧
      Puts .curr (readBack f) ((0, sumLine) :: (rest.map (0, ·) ++ cpuKeys rest cpus)) acts.irq
        after.irq := by
  have hcarries := hes ▸ h.carries .interrupts hg
  have hback : Group.interrupts.ReadsBack (fun _ => true) (es .interrupts) :=
    hes ▸ readsBack_interrupts rest cpus f
  have hpart : (Session.takeAll st.instances (st.decode record).sets acts).irq = _ :=
    h.part_takeAll_decode hback fun _ _ _ _ => nofun
  have hnd : ((interruptColumns st rest cpus f).map (·.1)).Nodup :=
    (by decide : ([0, 1, 2] : List Nat).Nodup)
  have hlt : ∀ i ∈ (interruptColumns st rest cpus f).map (·.1),
      i < Group.interrupts.metrics.length := (by decide : ∀ i ∈ [0, 1, 2], i < 3)
  rw [if_pos hg, hes, readings_interrupts,
    Session.takeAll_gather_sparse hnd hlt fun _ _ _ => rfl] at hpart
  dsimp only
  rw [hpart]
  obtain ⟨hsum, hrows, hfirst⟩ := hacts.absorbCell (f := readBack f) 0 sumLine rfl
  have hone : 1 ≤ ((absorbCell acts.irq .curr 0 sumLine
      (readBack f 0 sumLine)).grid.observed.get .curr).1 := by
    rw [hrows]
    exact Nat.le_max_right _ _
  obtain ⟨htotals, hsecond⟩ := (tells_totals hcarries).puts
    { acts with irq := absorbCell acts.irq .curr 0 sumLine (readBack f 0 sumLine) } ⟨hsum, hone⟩
  obtain ⟨hcounts, hthird⟩ := (tells_counts hcarries hcpus).puts _ htotals
  exact ⟨hcounts, (hfirst.trans hsecond).trans hthird⟩

end ActivityArchive
