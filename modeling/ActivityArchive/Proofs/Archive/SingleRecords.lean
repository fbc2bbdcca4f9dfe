import ActivityArchive.Proofs.Archive.RoundTrip
import ActivityArchive.Proofs.Group.Counted

/-!
What comes back of the records that a sample has once: a record of whole numbers comes back as it
was, and memory use as far as its families are shown (`import_export_counts`). A kind that a sample
does not have is not there afterwards either, whatever the samples before it had.
-/
namespace ActivityArchive.Archive

open Activities GroupSpec Record Session

variable {config : Config} {header : HostHeader} {discovery : List Sample} {dv : DefineView}
  {store : Store} {s : Session} {x y : Sample} {r : StoredRecord} {acts : Activities} {k : Single}

/-- Every group of one record but the uptime is present where some sample has the record. -/
theorem isPresent_group (hk : k ≠ .record) (acts : Activities) :
    k.group.spec.isPresent acts = decide (0 < (acts.single k).count) := by
  cases k <;> first | rfl | exact absurd rfl hk

theorem single_defineView (config : Config) (header : HostHeader) (discovery : List Sample)
    (k : Single) : (defineView config header discovery).acts.single k =
      (discovery.foldl scan { Activities.empty with header }).single k := by
  cases k <;> rfl

theorem taken_single (hk : k ≠ .record) (hgroups : config.groups = none) (hx : x ∈ discovery)
    (hr : (x.single k).isSome) : taken (defineView config header discovery) k.group = true := by
  have henabled : config.enables k.group.name = true := by
    rw [Config.enables, hgroups]
    rfl
  have hlen : 0 < (x.singles k).length := by
    obtain ⟨z, hz⟩ := Option.isSome_iff_exists.mp hr
    simp [Sample.singles, hz]
  have hcount : 0 < ((defineView config header discovery).acts.single k).count := by
    rw [single_defineView, lt_count_scan_single]
    exact Or.inr ⟨x, hx, hlen⟩
  have hpresent := (isPresent_group hk (defineView config header discovery).acts).trans
    (decide_eq_true hcount)
  have henabled' : (defineView config header discovery).config.enables k.group.name = true :=
    henabled
  rw [taken, henabled', hpresent]
  simp

/-- What a group of one record emits of a sample that was loaded. -/
theorem emissions_single {g : Group} {F : Writer k} (h : g.spec.Writes k F) (s : Session)
    (x : Sample) : (s.loaded x).emissions g =
      ((x.single k).map (F ((s.loaded x).view g).isDefined)).getD [] := by
  have hsingle : single? ((s.loaded x).view g) k = x.single k := by
    show (((s.acts.load s.slot x).single k).records s.slot).head? = _
    rw [single_load]
    cases x.single k <;> rfl
  rw [emissions, h.emit, hsingle]

/-- A kind of records that a group restores comes back as far as the group says. -/
theorem Returned.single_eq {F : Writer k} {defined : Nat → Bool} {fits : k.Rec → Prop}
    {out : k.Rec → Option k.Rec} (h : Returned dv store s x r acts y)
    (hres : Restores k.group k F defined fits out) (hfits : ∀ z, x.single k = some z → fits z)
    (htaken : (x.single k).isSome → taken dv k.group = true)
    (hdef : (x.single k).isSome → k.group ∈ s.defined →
      ((s.loaded x).view k.group).isDefined = defined) :
    y.single k = (x.single k).bind out := by
  have hmem : (x.single k).isSome → k.group ∈ s.defined := by
    intro hsome
    rw [h.written.defined]
    exact List.mem_filter.mpr ⟨Group.mem_all _, htaken hsome⟩
  have hes : (s.loaded x).emissions k.group = ((x.single k).map (F defined)).getD [] := by
    rw [emissions_single hres.writes]
    cases hx : x.single k with
    | none => rfl
    | some z =>
      have hsome : (x.single k).isSome = true := by rw [hx]; rfl
      rw [hdef hsome (hmem hsome)]
  have hholds := h.written.transcript.holds_single store.instances hres hes hfits hmem
    (h.blank.single k)
  rw [h.single k, hholds.records]
  cases (x.single k).bind out <;> rfl

theorem asked_memory (dv : DefineView) :
    Group.memory.spec.asked dv = shownMemory dv.config.memory := by
  show ((shownMemory dv.config.memory).map Definition.metric).flatMap _ = _
  rw [List.flatMap_map]
  exact List.flatMap_singleton' _

/-- Memory has the metrics of its families when a sample is exported. -/
theorem isDefined_memory (h : Written dv store s x r) (hmem : .memory ∈ s.defined) :
    ((s.loaded x).view .memory).isDefined = dv.config.memory.shows := by
  funext idx
  have hhandles := h.handles .memory hmem idx
  rw [asked_memory] at hhandles
  show ((s.catalogOf .memory).handle? idx).isSome = decide _
  rw [Bool.eq_iff_iff, hhandles, decide_eq_true_iff]

/-- A sample that came back with what the families of memory use leave of it. -/
structure SameCounts (families : MemoryFamilies) (x y : Sample) : Prop where
  timestamp : y.timestamp = x.timestamp
  counted : ∀ k ∈ Single.counted, y.single k = x.single k
  memory : y.memory = if families.any then x.memory.map families.restrict else none

theorem sameCounts_returned (hgroups : config.groups = none) (hx : x ∈ discovery)
    (hfits : ∀ h, x.huge = some h → HugeFits h)
    (h : Returned (defineView config header discovery) store s x r acts y) :
    SameCounts config.memory x y where
  timestamp := h.timestamp
  counted k hk := by
    obtain ⟨F, hres⟩ := Single.restores_counted hk
    have hne : k ≠ .record := by
      rintro rfl
      exact absurd hk (by decide)
    have hfits' : ∀ z, x.single k = some z → k.Fits z := by
      intro z hz
      cases k with
      | huge => exact hfits z hz
      | _ => trivial
    have hback := h.single_eq (hres _) hfits' (taken_single hne hgroups hx) fun _ _ => rfl
    rw [hback, Option.bind_fun_some]
  memory := by
    have hback := h.single_eq (k := .memory) (restores_memory config.memory) (fun _ _ => trivial)
      (taken_single nofun hgroups hx) fun _ hmem => isDefined_memory h.written hmem
    have hmemory : y.memory = x.memory.bind fun m =>
        if config.memory.any then some (config.memory.restrict m) else none := hback
    rw [hmemory]
    by_cases hany : config.memory.any = true
    · simp only [hany, if_true, Option.map_eq_bind]
      rfl
    · simp [hany]

/-- With all groups enabled, an archive of samples that was exported comes back with its host, and
every sample with its time, its records of whole numbers, and its memory use as far as it is shown.
-/
theorem import_export_counts (a : Archive) (config : Config) (store : Store)
    (hgroups : config.groups = none) (hne : a.samples ≠ [])
    (hfits : ∀ x ∈ a.samples, ∀ h, x.huge = some h → HugeFits h)
    (hexport : a.toStore config = .ok store) :
    ∃ b, ofStore store = .ok b ∧ b.header = a.header ∧
      List.Forall₂ (SameCounts config.memory) a.samples b.samples := by
  obtain ⟨b, hb, hheader, hsamples⟩ := import_export hexport
  refine ⟨b, hb, hheader hne, ?_⟩
  refine ((List.forall₂_and_left _ _).mpr ⟨fun _ hx => hx, hsamples⟩).imp ?_
  rintro x y ⟨hx, s, r, acts, h⟩
  exact sameCounts_returned hgroups hx (hfits x hx) h

/-- Two samples, the second without the memory use and the task switches of the first. -/
def twoSamples : Archive where
  header := { ncpu := 4, release := "6.1.0" }
  samples :=
    [ { Sample.blank with
        timestamp := 10
        pcsw := some { contextSwitch := 7, processes := 2 }
        memory := some { total := 2048, free := 512, swapTotal := 64 }
        huge := some { total := 8, free := 3 } },
      { Sample.blank with timestamp := 20, nfs := some { rpccnt := 5, getattcnt := 3 } } ]

theorem twoSamples_come_back :
    ∃ store, twoSamples.toStore {} = .ok store ∧
      ∃ b, ofStore store = .ok b ∧ b.header = twoSamples.header ∧
        List.Forall₂ (SameCounts {}) twoSamples.samples b.samples := by
  obtain ⟨store, hexport⟩ := toStore_ok {} (a := twoSamples) (by decide)
  refine ⟨store, hexport, ?_⟩
  refine import_export_counts twoSamples {} store rfl (List.cons_ne_nil _ _) ?_ hexport
  intro x hx h hhuge
  simp only [twoSamples, List.mem_cons, List.not_mem_nil, or_false] at hx
  rcases hx with rfl | rfl
  · cases hhuge
    decide
  · cases hhuge

end ActivityArchive.Archive
