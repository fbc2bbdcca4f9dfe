import ActivityArchive.Proofs.Group.Confinement
import ActivityArchive.Proofs.Session.InRange
import ActivityArchive.Proofs.Session.InStep
import ActivityArchive.Proofs.Session.Numbering
import ActivityArchive.Proofs.Store.Naming

/-!
Runs of a session confined to its selection. Whatever is defined and exported, and whichever of the
calls fail, no instance gets in that the configuration leaves out, no value names an instance that
is not known, and the metrics of all CPUs together have no values where these are left out
(`selection_confined`).
-/
namespace ActivityArchive

open Numbering Record

theorem Config.Selects.mono {c : Config} {m n i : Nat} (h : c.Selects m i) (hle : m ≤ n) :
    c.Selects n i := by
  refine h.imp id fun h => ?_
  split
  · rename_i hcpus
    rw [hcpus] at h
    exact ⟨h.1, Nat.lt_of_lt_of_le h.2 hle⟩
  · rename_i cpus hcpus
    rwa [hcpus] at h

theorem Activities.within_empty (config : Config) : Activities.empty.Within config [] where
  count k := by cases k <;> rfl
  rows := rfl
  selected k i hi := by cases k <;> cases hi
  selectedRows i hi := by cases hi

namespace Bench

variable {N : Numbering} {A : Descriptor → Prop} {b : Bench} {c : Catalog} {ds : List Descriptor}
  {d : DomainId} {l : String} {num : Option Int}

/-- A registry that keeps to a numbering, with a store of allowed metrics. -/
structure Confined (N : Numbering) (A : Descriptor → Prop) (b : Bench) : Prop where
  registry : b.registry.Conforms N
  store : b.store.Labelled A

theorem store_register (b : Bench) (group : String) (d : DomainId) (l : String) (num : Option Int) :
    (b.register group d l num).2.store = b.store ∨
      ∃ n, b.store.addInstance d l n = .ok (b.register group d l num).2.store := by
  unfold register
  dsimp only
  split
  · exact Or.inl rfl
  · rcases b.registry.add d l (num.getD (b.registry.next d)) with cause | ⟨_ | _, r⟩
    · exact Or.inl rfl
    · exact Or.inl rfl
    · dsimp only
      rcases hadd : b.store.addInstance d l (num.getD (b.registry.next d)) with cause | store
      · exact Or.inl rfl
      · exact Or.inr ⟨_, hadd⟩

theorem store_put (b : Bench) (c : Catalog) (idx : Nat) (label : Option String) (v : Value) :
    (b.put c idx label v).2.store = b.store ∨
      ∃ handle, b.store.put handle label v.text = .ok (b.put c idx label v).2.store := by
  unfold put
  split
  · exact Or.inl rfl
  · split
    · exact Or.inl rfl
    · rename_i handle _
      rcases hput : b.store.put handle label v.text with cause | store
      · exact Or.inl rfl
      · exact Or.inr ⟨handle, hput⟩

theorem Confined.register (h : b.Confined N A) (hadmits : N.Admits d l num) (group : String) :
    (b.register group d l num).2.Confined N A where
  registry := by
    rcases b.registry_register group d l num with hr | hr <;> rw [hr]
    · exact h.registry
    · refine Registry.conforms_insert h.registry ?_
      cases num with
      | none => exact hadmits _
      | some n => exact hadmits
  store := by
    rcases b.store_register group d l num with hs | ⟨n, hs⟩
    · rw [hs]
      exact h.store
    · exact h.store.attempt (c := .addInstance d l n) trivial hs

theorem Confined.put (h : b.Confined N A) (c : Catalog) (idx : Nat) (label : Option String)
    (v : Value) : (b.put c idx label v).2.Confined N A where
  registry := by
    rw [registry_put]
    exact h.registry
  store := by
    rcases b.store_put c idx label v with hs | ⟨handle, hs⟩
    · rw [hs]
      exact h.store
    · exact h.store.attempt (c := .put handle label v.text) trivial hs

theorem Confined.emit (h : b.Confined N A) (c : Catalog) {e : Emission}
    (he : ∀ d l num, e = .entry d l num → N.Admits d l num) :
    (Bench.emit c e b).2.Confined N A := by
  cases e with
  | entry d l num => exact h.register (he d l num rfl) c.group
  | value idx label v => exact h.put c idx label v
  | fault cause => exact h

theorem labelled_defineStep {w : Catalog × Store} {idx : Nat} (hc : w.1.Whole ds)
    (h : w.2.Labelled A) (hidx : ∀ d, ds[idx]? = some d → A d) :
    (Catalog.defineStep idx w).2.2.Labelled A := by
  rcases Catalog.defineStep_cases idx w with hsame | ⟨d, handle, store, hd, hadd, hset⟩
  · rw [hsame]
    exact h
  · rw [hset]
    refine h.attempt (c := .addMetric d) (hidx d (hc.descriptors ▸ hd)) ?_
    rw [Store.attempt, hadd, Except.map]

theorem labelled_define {store : Store} (hc : c.Whole ds) (h : store.Labelled A)
    (hds : ∀ idx ∈ List.range ds.length, ∀ d, ds[idx]? = some d → A d) :
    (c.define store).2.2.Labelled A := by
  have hsteps : (attemptAll Catalog.defineStep (List.range c.size) (c, store)).2.1.Whole ds ∧
      (attemptAll Catalog.defineStep (List.range c.size) (c, store)).2.2.Labelled A := by
    refine attemptAll_preserves (P := fun w : Catalog × Store => w.1.Whole ds ∧ w.2.Labelled A)
      ⟨hc, h⟩ fun idx hidx w hw => ?_
    rw [Catalog.size, hc.descriptors] at hidx
    exact ⟨hw.1.defineStep idx, labelled_defineStep hw.1 hw.2 (hds idx hidx)⟩
  unfold Catalog.define
  split
  · exact h
  · rcases hrun : attemptAll Catalog.defineStep (List.range c.size) (c, store) with
      ⟨_ | _, c', store'⟩ <;> rw [hrun] at hsteps <;> exact hsteps.2

/-- A definition asks for allowed metrics and admitted instances only. -/
theorem Confined.define (h : b.Confined N A) (hc : c.Whole ds) {step : Definition}
    (hmetrics : ∀ idx ∈ step.indices ds.length, ∀ d, ds[idx]? = some d → A d)
    (hentry : ∀ d l num, step = .entry d l num → N.Admits d l num) :
    (Bench.define step (c, b)).2.2.Confined N A := by
  cases step with
  | table =>
    show (b.onCatalog (c.define b.store)).2.2.Confined N A
    rw [onCatalog_snd]
    exact ⟨h.registry, labelled_define hc h.store hmetrics⟩
  | metric idx =>
    show (b.onCatalog (Catalog.defineStep idx (c, b.store))).2.2.Confined N A
    rw [onCatalog_snd]
    exact ⟨h.registry, labelled_defineStep hc h.store (hmetrics idx List.mem_cons_self)⟩
  | entry d l num => exact h.register (hentry d l num rfl) c.group

end Bench

namespace Session

variable {config : Config} {seen discovery : List Sample} {s : Session} {w : Session × Store}

theorem within_planned (h : s.acts.Within s.config seen) (header : HostHeader)
    (discovery : List Sample) :
    (s.planned header discovery).acts.Within s.config (seen ++ discovery) := by
  have hcount : ∀ k, ((s.planned header discovery).acts.multi k).count =
      longest k (seen ++ discovery) := by
    intro k
    have hselect : ((s.planned header discovery).acts.multi k).count =
        ((discovery.foldl Activities.scan { s.acts with header }).multi k).count := by
      cases k <;> rfl
    rw [hselect, (Activities.scan_multi _ discovery k).2, longest, List.foldl_append]
    exact congrArg (discovery.foldl _ ·) (h.count k)
  have hrows : (s.planned header discovery).acts.irq.count =
      Archive.interruptRows (seen ++ discovery) := by
    have hselect : (s.planned header discovery).acts.irq.count =
        (discovery.foldl Activities.scan { s.acts with header }).irq.count := rfl
    rw [hselect, Activities.scan_interrupts, Archive.interruptRows, List.foldl_append]
    exact congrArg (discovery.foldl _ ·) h.rows
  refine ⟨hcount, hrows, fun k i hi => ?_, fun i hi => ?_⟩
  · rw [multi_planned] at hi
    -- Only CPUs are selected again; what was selected of the others stays selected among more.
    cases k with
    | cpu | softnet | cpufreq =>
      rw [← hcount, multi_planned]
      exact (s.config.contains_cpuSelection _ i).mp hi
    | _ => exact (h.selected _ i hi).mono (le_longest_append _ seen discovery)
  · rw [← hrows]
    exact (s.config.contains_cpuSelection _ i).mp hi

/-- What a run keeps: nothing but what the selection allows was planned, registered or put. -/
structure Confining (config : Config) (seen : List Sample) (w : Session × Store) : Prop where
  configured : w.1.config = config
  within : w.1.acts.Within config seen
  sized : w.1.acts.irq.grid.Sized
  tabled : Tabled w.1
  bench : Bench.Confined (confined config seen) (Group.Wanted config) ⟨w.1.registry, w.2⟩

theorem Confining.defineGroup (h : Confining config seen w) (discovery : List Sample) (g : Group) :
    Confining config seen (Session.defineGroup discovery g w).2 := by
  have htabled := h.tabled.defineGroup discovery g
  obtain ⟨s, store⟩ := w
  obtain rfl := h.configured
  by_cases ht : s.takes g
  · have hsteps : (attemptAll Bench.define (g.spec.define ⟨s.acts, s.config, discovery⟩)
        (s.catalogOf g, ⟨s.registry, store⟩)).2.2.Confined (confined s.config seen)
          (Group.Wanted s.config) := by
      refine (attemptAll_preserves (P := fun x : Catalog × Bench => x.1.Whole g.metrics ∧
        x.2.Confined (confined s.config seen) (Group.Wanted s.config))
        ⟨h.tabled.whole g, h.bench⟩ fun step hstep x hx => ?_).2
      refine ⟨Bench.whole_define hx.1 step, hx.2.define hx.1 (fun idx hidx d hd => ?_) ?_⟩
      · exact Group.wanted_of_asked ⟨s.acts, s.config, discovery⟩ h.within
          (List.mem_flatMap.mpr ⟨step, hstep, hidx⟩) hd
      · rintro d l num rfl
        exact g.spec_confined.define ⟨s.acts, s.config, discovery⟩ seen h.within d l num hstep
    rcases hrun : attemptAll Bench.define (g.spec.define ⟨s.acts, s.config, discovery⟩)
      (s.catalogOf g, ⟨s.registry, store⟩) with ⟨_ | _, c, b⟩ <;> rw [hrun] at hsteps <;>
    · simp only [Session.defineGroup, if_pos ht, hrun] at htabled ⊢
      exact ⟨rfl, h.within, h.sized, htabled, hsteps⟩
  · simpa only [Session.defineGroup, if_neg ht] using h

/-- The samples seen by definitions, after one more: it sees its samples if it is let in. -/
def seenBy (s : Session) (seen discovery : List Sample) : List Sample :=
  if s.phase = .uninitialized then seen ++ discovery else seen

theorem Confining.define (h : Confining config seen w) (header : HostHeader)
    (discovery : List Sample) :
    Confining config (w.1.seenBy seen discovery) (w.1.define w.2 header discovery).2 := by
  obtain rfl := h.configured
  by_cases hphase : w.1.phase = .uninitialized
  · rw [seenBy, if_pos hphase]
    have hplan : Confining w.1.config (seen ++ discovery) (w.1.planned header discovery, w.2) :=
      ⟨rfl, within_planned h.within header discovery, Activities.sized_scan _ discovery h.sized,
        h.tabled.planned header discovery,
        fun d e he => confined_append (h.bench.registry d e he), h.bench.store⟩
    have hall : Confining w.1.config (seen ++ discovery) (attemptAll (Session.defineGroup discovery)
        Group.all (w.1.planned header discovery, w.2)).2 :=
      attemptAll_preserves (P := Confining w.1.config (seen ++ discovery)) hplan
        fun g _ _ hw => hw.defineGroup discovery g
    have htabled := h.tabled.define w.2 header discovery
    rw [define_of_uninitialized hphase] at htabled ⊢
    rcases hrun : attemptAll (Session.defineGroup discovery) Group.all
      (w.1.planned header discovery, w.2) with ⟨_ | _, s, store⟩ <;> rw [hrun] at hall htabled
    · exact hall
    · exact ⟨hall.configured, hall.within, hall.sized, htabled, hall.bench⟩
  · have hcheck : w.1.check .define = .error (.invalidState w.1.phase .define) :=
      if_neg (by simpa [Operation.allowedIn] using hphase)
    rw [seenBy, if_neg hphase, Session.define, hcheck]
    exact h

theorem Confining.exportGroup (h : Confining config seen w) (g : Group) :
    Confining config seen (Session.exportGroup g w).2 := by
  obtain rfl := h.configured
  have hlater := (Group.spec_selfContained g).later (w.1.view g) h.sized
  rw [exportGroup_eq]
  refine ⟨rfl, h.within.later hlater, hlater.irq.sized h.sized,
    ⟨h.tabled.routes, h.tabled.length, h.tabled.whole⟩, ?_⟩
  refine attemptAll_preserves (P := Bench.Confined (confined w.1.config seen)
    (Group.Wanted w.1.config)) h.bench fun e he b hb => hb.emit _ ?_
  rintro d l num rfl
  exact g.spec_confined.emit (w.1.view g) seen h.within h.sized d l num he

theorem Confining.exportRecord (h : Confining config seen w) (x : Sample) :
    Confining config seen (w.1.exportRecord w.2 x).2 := by
  rcases hcheck : w.1.check .exportRecord with cause | _
  · rw [Session.exportRecord, hcheck]
    exact h
  · have hlater := Activities.later_load w.1.acts w.1.slot x
    have hload : Confining config seen (w.1.loaded x, w.2) :=
      ⟨h.configured, h.within.later hlater, hlater.irq.sized h.sized,
        ⟨h.tabled.routes, h.tabled.length, h.tabled.whole⟩, h.bench⟩
    have hall : Confining config seen (attemptAll Session.exportGroup w.1.defined
        (w.1.loaded x, w.2)).2 :=
      attemptAll_preserves (P := Confining config seen) hload fun g _ _ hw => hw.exportGroup g
    rw [exportRecord_eq hcheck]
    rcases hrun : attemptAll Session.exportGroup w.1.defined (w.1.loaded x, w.2) with
      ⟨_ | _, s, store⟩ <;> rw [hrun] at hall
    · exact hall
    · dsimp only
      rcases hwrite : store.write x.timestamp with cause | store'
      · exact hall
      · have hstore := hall.bench.store.attempt (c := .write x.timestamp) trivial hwrite
        exact ⟨hall.configured, hall.within, hall.sized,
          ⟨hall.tabled.routes, hall.tabled.length, hall.tabled.whole⟩,
          ⟨hall.bench.registry, hstore⟩⟩

/-- What a run on an empty store leaves, with the samples that its definitions saw. -/
inductive Ran (config : Config) : List Sample → Session × Store → Prop
  | new {s : Session} : Session.new config = .ok s → Ran config [] (s, .empty)
  | define {seen : List Sample} {w : Session × Store} (header : HostHeader)
      (discovery : List Sample) : Ran config seen w →
      Ran config (w.1.seenBy seen discovery) (w.1.define w.2 header discovery).2
  | exportRecord {seen : List Sample} {w : Session × Store} (sample : Sample) :
    Ran config seen w → Ran config seen (w.1.exportRecord w.2 sample).2

theorem Ran.reachable (h : Ran config seen w) : Reachable config w := by
  induction h with
  | new hs => exact .new hs
  | define header discovery _ ih => exact .define header discovery ih
  | exportRecord sample _ ih => exact .exportRecord sample ih

theorem Ran.confining (h : Ran config seen w) : Confining config seen w := by
  induction h with
  | new hs =>
    rw [new_eq] at hs
    cases hs
    exact ⟨rfl, Activities.within_empty config, GridBuffer.sized_empty,
      (safe_initial config).toTabled, Registry.conforms_empty _, Store.labelled_empty _⟩
  | define header discovery _ ih => exact ih.define header discovery
  | exportRecord sample _ ih => exact ih.exportRecord sample

/-- A session and its store that hold nothing but what is selected. -/
structure Confined (config : Config) (seen : List Sample) (w : Session × Store) : Prop where
  instances : w.2.instances = w.1.registry
  disks : ∀ names, config.disks = some names →
    ∀ e ∈ w.1.registry.entries Domain.disk, e.2 ∈ names
  interfaces : ∀ names, config.interfaces = some names →
    ∀ e ∈ w.1.registry.entries Domain.interface, e.2 ∈ names
  filesystems : ∀ names, config.filesystems = some names →
    ∀ e ∈ w.1.registry.entries Domain.filesystem, e.2 ∈ names
  cpus : ∀ e ∈ w.1.registry.entries Domain.perCpu, OfCpu config seen e.1 e.2
  lines : ∀ e ∈ w.1.registry.entries Domain.perCpuInterrupt, OfLine config seen e.2
  values : ∀ r ∈ w.2.records, ∀ v ∈ r.values, w.2.Names v
  noGlobals : config.includeAll = false →
    ∀ r ∈ w.2.records, ∀ v ∈ r.values, v.metric ∉ Group.globalMetrics.map (·.id)

/-- After any definitions and exports, and whichever of them failed, session and store hold nothing
but what is selected. -/
theorem selection_confined (config : Config) (seen : List Sample) (w : Session × Store)
    (h : Ran config seen w) : Confined config seen w := by
  have hc := h.confining
  have hpasses : ∀ {filter : Option (List String)} {names : List String} {l : String},
      passes filter l = true → filter = some names → l ∈ names := by
    rintro _ names l hl rfl
    exact List.contains_iff_mem.mp hl
  have hdisk := hc.bench.registry Domain.disk
  have hinterface := hc.bench.registry Domain.interface
  have hfilesystem := hc.bench.registry Domain.filesystem
  have hcpu := hc.bench.registry Domain.perCpu
  have hline := hc.bench.registry Domain.perCpuInterrupt
  rw [confined_disk] at hdisk
  rw [confined_interface] at hinterface
  rw [confined_filesystem] at hfilesystem
  rw [confined_perCpu] at hcpu
  rw [confined_perCpuInterrupt] at hline
  refine ⟨h.reachable.inStep.instances, fun names hf e he => hpasses (hdisk e he) hf,
    fun names hf e he => hpasses (hinterface e he) hf,
    fun names hf e he => hpasses (hfilesystem e he) hf, hcpu, hline, hc.bench.store.written, ?_⟩
  intro hall r hr v hv hglobal
  obtain ⟨m, hwanted, hid⟩ := hc.bench.store.metric_of_written hr hv
  rw [hwanted (hid ▸ hglobal)] at hall
  cases hall

/-- One of two disks and the second of two CPUs, without the totals of all CPUs. -/
def picking : Config := { cpus := some [1], includeAll := false, disks := some ["dev8-0"] }

/-- Two CPUs that ticked, and two disks. -/
def twoOfEach : Sample := { Sample.blank with
  cpu := [{ user := 3 }, { user := 1 }, { user := 2 }], disk := [{ major := 8 }, { major := 9 }] }

/-- A session that picks, after an export. -/
def picked : Session × Store :=
  let w := ((initial picking).define .empty {} [twoOfEach]).2
  (w.1.exportRecord w.2 twoOfEach).2

theorem picked_confined :
    Ran picking [twoOfEach] picked ∧ picked.2.records.length = 1 ∧
      picked.1.registry.entries Domain.disk = [(0, "dev8-0")] ∧
      picked.1.registry.entries Domain.perCpu = [(1, "cpu1")] ∧
      Confined picking [twoOfEach] picked := by
  have hran : Ran picking [twoOfEach] picked :=
    .exportRecord _ (.define _ _ (.new (new_eq picking)))
  exact ⟨hran, by decide, by decide, by decide,
    selection_confined picking [twoOfEach] picked hran⟩

end Session

end ActivityArchive
