import ActivityArchive.Proofs.Group.InterruptRestoring
import ActivityArchive.Proofs.Session.Reading

/-!
What comes back of interrupts. A record read back shows of each line of its sample the total over
the CPUs, within a word, and of each CPU the low half of its count, wherever the lines stood in the
samples before it and whatever they are called (`import_export_interrupts`).
-/
namespace ActivityArchive.Archive

open Activities GroupSpec Interrupts Record Session

variable {config : Config} {header : HostHeader} {discovery earlier : List Sample} {store : Store}
  {s t t' : Session} {x y : Sample} {record : StoredRecord} {table : InterruptTable}

/-- Samples whose interrupt tables are proper. -/
def InterruptsProper (samples : List Sample) : Prop :=
  ∀ x ∈ samples, ∀ t, x.irq = some t → t.Proper

/-- Samples whose interrupt tables have the sum as their first line. -/
def SumFirst (samples : List Sample) : Prop :=
  ∀ x ∈ samples, ∀ t, x.irq = some t → t.lines.head? = some sumLine

theorem InterruptsProper.sumFirst {samples : List Sample} (h : InterruptsProper samples) :
    SumFirst samples := fun x hx t ht => (h x hx t ht).first

/-- What is read back of a table, of which the first `count` rows are exported. -/
structure InterruptsReturned (count : Nat) (table back : InterruptTable) : Prop where
  nodup : back.lines.Nodup
  total : ∀ name ∈ table.lines, (back.countAt 0 name).toNat =
    table.total (min table.counts.length count) name % UInt64.size
  unit : ∀ row, 1 ≤ row → row < min table.counts.length count → ∀ name ∈ table.lines,
    name ≠ sumLine → (back.countAt row name).toNat =
    (table.countAt row name).toNat % UInt32.size
  rest : ∀ row name, ¬ (name ∈ table.lines ∧
    (row = 0 ∨ row < min table.counts.length count ∧ name ≠ sumLine)) →
    back.countAt row name = 0

/-- Interrupts of which no line is known before a row is planned for, and then the sum first. -/
def Begun (a : Interrupts) : Prop :=
  a.Named ∧ (a.lines = [] ∧ a.count = 0 ∨ a.lines.head? = some sumLine)

theorem begun_scan (a : Activities) (ha : Begun a.irq)
    (hsum : ∀ t, x.irq = some t → t.lines.head? = some sumLine) : Begun (a.scan x).irq := by
  cases hx : x.irq with
  | none =>
    have hirq : (a.scan x).irq = a.irq := by simp only [scan, hx]
    rw [hirq]
    exact ha
  | some t =>
    have hirq : (a.scan x).irq = (a.irq.plan t.counts.length).addLines t.lines := by
      simp only [scan, hx]
    have hplan : (a.irq.plan t.counts.length).Named := ⟨ha.1.nodup, ha.1.sized, ha.1.columns⟩
    rw [hirq]
    refine ⟨(hplan.addLines .curr (fun _ _ => 0) t.lines).1, Or.inr ?_⟩
    exact head?_addLines (hsum t hx) (ha.2.imp_left And.left)

theorem begun_scanAll (samples : List Sample) (hsum : SumFirst samples) (a : Activities)
    (ha : Begun a.irq) : Begun (samples.foldl scan a).irq := by
  induction samples generalizing a with
  | nil => exact ha
  | cons x samples ih =>
    exact ih (fun y hy => hsum y (List.mem_cons_of_mem x hy)) (a.scan x)
      (begun_scan a ha (hsum x List.mem_cons_self))

/-- What definition makes of the tables seen before it. -/
theorem listed_defineView (config : Config) (header : HostHeader)
    (hsum : SumFirst discovery) (hrows : 2 ≤ interruptRows discovery) :
    (defineView config header discovery).acts.irq.Listed ∧
      (defineView config header discovery).acts.irq.count = interruptRows discovery ∧
      (defineView config header discovery).acts.irq.selection =
        config.cpuSelection (interruptRows discovery) := by
  obtain ⟨hnamed, hfirst⟩ := begun_scanAll discovery hsum { Activities.empty with header }
    ⟨named_empty, Or.inl ⟨rfl, rfl⟩⟩
  have hcount : (discovery.foldl scan { Activities.empty with header }).irq.count =
    interruptRows discovery := scan_interrupts _ discovery
  have hfirst := hfirst.resolve_left fun hnone => by omega
  refine ⟨⟨⟨hnamed.nodup, hnamed.sized, hnamed.columns⟩, hfirst⟩, hcount, ?_⟩
  show config.cpuSelection _ = _
  rw [hcount]

theorem cpus_defineView (config : Config) (header : HostHeader) (discovery : List Sample) :
    (defineView config header discovery).acts.irq.grid.cpus = 0 := by
  have hgrid : ∀ a : Activities, (discovery.foldl scan a).irq.grid = a.irq.grid := by
    intro a
    induction discovery generalizing a with
    | nil => rfl
    | cons x samples ih =>
      refine (ih (a.scan x)).trans ?_
      simp only [scan]
      split
      · exact grid_addLines _ _
      · rfl
  exact congrArg GridBuffer.cpus (hgrid { Activities.empty with header })

theorem mem_defined_interrupts {samples : List Sample}
    (h : Exported config header discovery samples s)
    (henabled : config.enables Group.interrupts.name = true)
    (hrows : 2 ≤ interruptRows discovery) : .interrupts ∈ s.defined := by
  have hpresent : Group.interrupts.spec.isPresent (defineView config header discovery).acts =
      true := by
    refine decide_eq_true ?_
    rw [interrupts_defineView]
    omega
  have henabled : (defineView config header discovery).config.enables Group.interrupts.name =
      true :=
    henabled
  rw [h.defined.2]
  refine List.mem_filter.mpr ⟨Group.mem_all .interrupts, ?_⟩
  rw [taken, henabled, hpresent]
  simp

/-- Room for the rows of the largest table loaded so far. -/
theorem cpus_loadSample (a : Interrupts) (slot : Slot) (x : Sample) :
    (a.load slot x.irq).grid.cpus = max a.grid.cpus (x.irq.elim 0 (·.counts.length)) := by
  cases x.irq with
  | none => exact (Nat.max_eq_left (Nat.zero_le _)).symm
  | some t => exact cpus_load a slot t

/-- Whatever samples were exported, the lines begin with the sum, and no row is dropped that there
was room for. -/
theorem listed_exported {samples : List Sample} (h : Exported config header discovery samples s)
    (henabled : config.enables Group.interrupts.name = true) (hrows : 2 ≤ interruptRows discovery)
    (hsum : SumFirst discovery) :
    s.acts.irq.Listed ∧ s.acts.irq.count = interruptRows discovery ∧
      s.acts.irq.grid.cpus = interruptRows samples := by
  induction h with
  | define hnew hdef =>
    obtain ⟨hlisted, hcount, -⟩ := listed_defineView config header hsum hrows
    rw [(define_ok hnew hdef).2.2.1]
    exact ⟨hlisted, hcount, cpus_defineView config header discovery⟩
  | @exportRecord samples s s' store store' x hrun hexp ih =>
    obtain ⟨hlisted, hcount, hcpus⟩ := ih
    have htook := took_of_exportRecord hrun.nodup hexp
    have hmem := mem_defined_interrupts hrun henabled hrows
    have hload : (s.acts.irq.load s.slot x.irq).Listed := hlisted.load s.slot x.irq
    have hloaded : (s.acts.irq.load s.slot x.irq).count = interruptRows discovery := by
      rw [Interrupts.count, (later_load s.acts.irq s.slot x.irq).planned]
      exact hcount
    have hirq : s'.acts.irq = (interrupts.emit ((s.loaded x).view .interrupts)).1.irq :=
      htook.part .interrupts hmem
    obtain ⟨hemit, hkept, hroom⟩ := listed_emit ((s.loaded x).view .interrupts) hload (by
      show 2 ≤ (s.acts.irq.load s.slot x.irq).count
      rw [hloaded]
      exact hrows)
    refine ⟨hirq ▸ hemit, hirq ▸ hkept.trans hloaded, ?_⟩
    rw [hirq, hroom, interruptRows, List.foldl_append, ← interruptRows, ← hcpus]
    exact cpus_loadSample s.acts.irq s.slot x

/-- What is written of the interrupts of a sample. -/
theorem emissions_interrupts (hrun : Exported config header discovery earlier s)
    (h : Written (defineView config header discovery) store s x record)
    (henabled : config.enables Group.interrupts.name = true) (hrows : 2 ≤ interruptRows discovery)
    (hall : config.SelectsAll (interruptRows discovery)) (hdiscovery : InterruptsProper discovery)
    (hproper : InterruptsProper (earlier ++ [x])) (hx : x.irq = some table)
    (htable : 2 ≤ table.counts.length) :
    ∃ rest cpus f, (s.loaded x).emissions .interrupts = writtenInterrupts rest cpus f ∧
      ShownCounts (min table.counts.length (interruptRows discovery)) table rest cpus f := by
  obtain ⟨hlisted, hcount, -⟩ := listed_exported hrun henabled hrows hdiscovery.sumFirst
  obtain ⟨-, hplanned, hselection⟩ := listed_defineView config header hdiscovery.sumFirst hrows
  have hmem := mem_defined_interrupts hrun henabled hrows
  have hselected : ∀ i < interruptRows discovery,
      (config.cpuSelection (interruptRows discovery)).contains i = true := fun i hi =>
    (config.contains_cpuSelection _ i).mpr (hall.selects hi)
  have hirq : ((s.loaded x).view .interrupts).acts.irq = s.acts.irq.load s.slot (some table) := by
    rw [← hx]
    rfl
  have hloaded : (s.acts.irq.load s.slot (some table)).count = interruptRows discovery := by
    rw [Interrupts.count, (later_load s.acts.irq s.slot _).planned]
    exact hcount
  have hsame : (s.acts.irq.load s.slot (some table)).selection =
      config.cpuSelection (interruptRows discovery) := by
    rw [(later_load s.acts.irq s.slot _).selection, h.later.irq.selection, hselection]
  have hproper : table.Proper := hproper x (by simp) table hx
  have hfirst := (hlisted.load s.slot (some table)).first
  have hasked := asked_interrupts (defineView config header discovery) (hplanned ▸ hrows)
    (by rw [hplanned, hselection]; exact hselected)
  have hshown := emit_shown ((s.loaded x).view .interrupts) (t := table)
    (by rw [hirq]; exact (hlisted.named.loaded table s.slot).1) hproper
    (by rw [hirq]; exact hfirst) (by rw [hirq, hloaded]; exact hrows) htable
    (by rw [hirq, hloaded, hsame]; exact hselected)
    (fun idx hidx => (h.handles .interrupts hmem idx).mpr (hasked idx hidx))
  rw [hirq, hloaded] at hshown
  exact hshown

theorem mem_keys {rest : List String} {cpus : List Nat} {row : Nat} {name : String} :
    (row, name) ∈ (0, sumLine) :: (rest.map (0, ·) ++ cpuKeys rest cpus) ↔
      (row = 0 ∧ (name = sumLine ∨ name ∈ rest)) ∨ (row ∈ cpus ∧ name ∈ rest) := by
  simp only [cpuKeys, List.mem_cons, List.mem_append, List.mem_map, List.mem_flatMap, Prod.mk.injEq]
  constructor
  · rintro (⟨rfl, rfl⟩ | ⟨other, hother, rfl, rfl⟩
      | ⟨cpu, hcpu, other, hother, rfl, rfl⟩)
    · exact Or.inl ⟨rfl, Or.inl rfl⟩
    · exact Or.inl ⟨rfl, Or.inr hother⟩
    · exact Or.inr ⟨hcpu, hother⟩
  · rintro (⟨rfl, rfl | hname⟩ | ⟨hcpu, hname⟩)
    · exact Or.inl ⟨rfl, rfl⟩
    · exact Or.inr (Or.inl ⟨name, hname, rfl, rfl⟩)
    · exact Or.inr (Or.inr ⟨row, hcpu, name, hname, rfl, rfl⟩)

/-- Counts that are shown and put back. -/
theorem returned_of_shown {count : Nat} {rest : List String} {cpus : List Nat}
    {f : Nat → String → UInt64} {back : InterruptTable} (hnodup : back.lines.Nodup)
    (h : ShownCounts (min table.counts.length count) table rest cpus f)
    (hback : ∀ row name, back.countAt row name =
      if (row, name) ∈ (0, sumLine) :: (rest.map (0, ·) ++ cpuKeys rest cpus)
        then readBack f row name
      else 0) : InterruptsReturned count table back := by
  refine ⟨hnodup, fun name hname => ?_, fun row hpos hrow name hname hsum => ?_,
    fun row name hnot => ?_⟩
  · rw [hback, if_pos (mem_keys.mpr (Or.inl ⟨rfl, h.lines name hname⟩)), readBack, if_pos rfl]
    exact h.total name
  · have hmem := (h.lines name hname).resolve_left hsum
    have hzero : row ≠ 0 := by omega
    rw [hback, readBack, if_neg hzero, h.count row hzero]
    by_cases honline : row ∈ cpus
    · rw [if_pos (mem_keys.mpr (Or.inr ⟨honline, hmem⟩)), UInt32.toNat_toUInt64,
        UInt64.toNat_toUInt32]
    · rw [if_neg fun hkey => honline ((mem_keys.mp hkey).resolve_left fun h => hzero h.1).1,
        h.idle row hpos hrow honline]
      rfl
  · rw [hback]
    split
    · rename_i hkey
      rcases mem_keys.mp hkey with ⟨rfl, hline⟩ | ⟨honline, hrest⟩
      · have hnone : name ∉ table.lines := fun hname => hnot ⟨hname, Or.inl rfl⟩
        have htotal := h.total name
        rw [InterruptTable.total_of_notMem hnone] at htotal
        rw [readBack, if_pos rfl]
        exact UInt64.toNat_inj.mp htotal
      · obtain ⟨hpos, hrow⟩ := h.online row honline
        have hnone : name ∉ table.lines := fun hname =>
          hnot ⟨hname, Or.inr ⟨hrow, fun hsum => h.fresh (hsum ▸ hrest)⟩⟩
        rw [readBack, if_neg (by omega), h.count row (by omega),
          InterruptTable.countAt_of_notMem hnone]
        rfl
    · rfl

/-- The interrupt tables of a run, read back in whatever order records are read. Rows are numbered
by words. -/
theorem import_export_interrupts (config : Config) (header : HostHeader)
    (discovery samples : List Sample) (store : Store)
    (hrun : Run config header discovery samples store)
    (henabled : config.enables Group.interrupts.name = true) (hrows : 2 ≤ interruptRows discovery)
    (hword : interruptRows discovery ≤ UInt64.size)
    (hall : config.SelectsAll (interruptRows discovery))
    (hproper : InterruptsProper (discovery ++ samples)) :
    store.fetch.length = samples.length ∧
      ∀ (k : Nat) (x : Sample) (r : FetchedRecord) (table : InterruptTable), samples[k]? =
      some x →
        store.fetch[k]? = some r → x.irq = some table → 2 ≤ table.counts.length →
          ∀ t, Reader store.instances t → ∃ y t' back, t.importRecord r = (.ok y, t') ∧
            y.irq = some back ∧ InterruptsReturned (interruptRows discovery) table back := by
  obtain ⟨hlen, hwritten⟩ := hrun.written
  refine ⟨hlen, fun k x r table hx hr hirq htable t ht => ?_⟩
  obtain ⟨s, record, hexported, h, rfl⟩ := hwritten k x r hx hr
  obtain ⟨y, t', himport, hread⟩ := ht.importRecord_ok (store.decode record)
  have hdiscovery : InterruptsProper discovery := fun y hy =>
    hproper y (List.mem_append_left _ hy)
  have hupto : InterruptsProper (samples.take k ++ [x]) := by
    intro y hy
    refine hproper y (List.mem_append_right _ ?_)
    rcases List.mem_append.mp hy with hy | hy
    · exact List.mem_of_mem_take hy
    · exact List.mem_singleton.mp hy ▸ List.mem_of_getElem? hx
  obtain ⟨rest, cpus, f, hemit, hshown⟩ := emissions_interrupts hexported h henabled hrows hall
    hdiscovery hupto hirq htable
  have hmem := mem_defined_interrupts hexported henabled hrows
  have hcpus : ∀ cpu ∈ cpus, 1 ≤ cpu ∧ cpu < UInt64.size := by
    intro cpu hcpu
    have honline := hshown.online cpu hcpu
    omega
  have hblank := ht.importing.blank.irq
  obtain ⟨⟨hshowing, hone⟩, hputs⟩ :=
    h.transcript.puts_interrupts hmem hemit hcpus hblank.showing
  obtain ⟨back, hunload, hlines, hcounts⟩ := hshowing.unload (by omega)
  have hy : y.irq = some back := Except.ok.inj (hread.irq.symm.trans hunload)
  refine ⟨y, t', back, himport, hy, returned_of_shown ?_ hshown fun row name => ?_⟩
  · rw [hlines]
    exact hshowing.named.nodup
  · rw [hcounts, hputs.countAt, hblank.counts]

/-- Tables with the same lines in another order, one of which is called like a label, and with
counts that do not fit half a word. -/
def nmiLast : InterruptTable where
  lines := ["sum", "9::cpu1", "NMI"]
  counts := [[0, 0, 0], [9, 4294967301, 2], [7, 3, 0]]

def nmiFirst : InterruptTable where
  lines := ["sum", "NMI", "9::cpu1"]
  counts := [[0, 0, 0], [8, 2, 4294967302], [9, 1, 4]]

def sampleOf (t : InterruptTable) : Sample := { Sample.blank with irq := some t }

theorem swappedLines_come_back :
    ∃ store, Run {} {} [sampleOf nmiLast] [sampleOf nmiLast, sampleOf nmiFirst] store ∧
      ∃ r, store.fetch[1]? = some r ∧ ∃ t, Reader store.instances t ∧
        ∃ y t' back, t.importRecord r = (.ok y, t') ∧ y.irq = some back ∧ back.lines.Nodup ∧
          (back.countAt 0 "9::cpu1").toNat = 4294967306 ∧ (back.countAt 1 "9::cpu1").toNat = 6 ∧
          (back.countAt 2 "NMI").toNat = 1 ∧ back.countAt 1 "sum" = 0 := by
  have hknown : ∀ x ∈ [sampleOf nmiLast, sampleOf nmiFirst],
      BatteriesKnown [sampleOf nmiLast] x := by
    intro x hx i b hb
    simp only [List.mem_cons, List.not_mem_nil, or_false] at hx
    rcases hx with rfl | rfl <;> cases hb
  have hproper : InterruptsProper
      ([sampleOf nmiLast] ++ [sampleOf nmiLast, sampleOf nmiFirst]) := by
    intro x hx t ht
    simp only [List.cons_append, List.nil_append, List.mem_cons, List.not_mem_nil, or_false] at hx
    rcases hx with rfl | rfl | rfl <;> cases ht <;> exact ⟨by decide, rfl, by decide⟩
  obtain ⟨store, hrun⟩ := exists_run {} {} (by decide) hknown
  obtain ⟨hlen, hback⟩ := import_export_interrupts {} {} [sampleOf nmiLast]
    [sampleOf nmiLast, sampleOf nmiFirst] store hrun rfl (by decide)
      (by decide) ⟨rfl, by simp⟩ hproper
  obtain ⟨r, hr⟩ : ∃ r, store.fetch[1]? = some r :=
    ⟨_, List.getElem?_eq_getElem (by rw [hlen]; decide)⟩
  obtain ⟨t, ht⟩ := exists_reader store.instances
  obtain ⟨y, t', back, himport, hy, hreturned⟩ :=
    hback 1 (sampleOf nmiFirst) r nmiFirst rfl hr rfl (by decide) t ht
  refine ⟨store, hrun, r, hr, t, ht, y, t', back, himport, hy, hreturned.nodup, ?_, ?_, ?_, ?_⟩
  · exact (hreturned.total "9::cpu1" (by decide)).trans (by decide)
  · exact (hreturned.unit 1 (by decide) (by decide) "9::cpu1" (by decide) (by decide)).trans
      (by decide)
  · exact (hreturned.unit 2 (by decide) (by decide) "NMI" (by decide) (by decide)).trans
      (by decide)
  · exact hreturned.rest 1 "sum" (by decide)

end ActivityArchive.Archive
