import ActivityArchive.Proofs.Activity.Replanning
import ActivityArchive.Proofs.Session.Calls
import ActivityArchive.Proofs.Session.Reachability

/-!
Definition after a definition that failed. The session is still uninitialized, so it may be defined
again, but the catalog of the file header is closed once its metrics are registered: from then on
every definition is refused at that group and writes nothing. Only where the very first metric was
refused is nothing left but the plan, and samples that cover those of the first attempt define the
session as if it were new.
-/
namespace ActivityArchive

open Record

namespace Catalog

variable {c : Catalog} {store : Store}

theorem defineStep_keeps (idx : Nat) (w : Catalog × Store) :
    (defineStep idx w).2.1.group = w.1.group ∧
      (defineStep idx w).2.1.descriptors = w.1.descriptors := by
  rcases defineStep_cases idx w with hsame | ⟨d, handle, store, -, -, hset⟩
  · rw [hsame]
    exact ⟨rfl, rfl⟩
  · rw [hset]
    exact ⟨rfl, rfl⟩

theorem define_keeps (c : Catalog) (store : Store) :
    (c.define store).2.1.group = c.group ∧ (c.define store).2.1.descriptors = c.descriptors := by
  let P : Catalog × Store → Prop := fun w =>
    w.1.group = c.group ∧ w.1.descriptors = c.descriptors
  have hall : P (attemptAll defineStep (List.range c.size) (c, store)).2 :=
    attemptAll_preserves ⟨rfl, rfl⟩ fun idx _ w hw =>
      ⟨(defineStep_keeps idx w).1.trans hw.1, (defineStep_keeps idx w).2.trans hw.2⟩
  unfold define
  split
  · exact ⟨rfl, rfl⟩
  · split
    · rename_i hrun
      rw [hrun] at hall
      exact hall
    · exact hall

/-- A catalog whose first metric is refused registers nothing. -/
theorem define_refused {d : Descriptor} {cause : StoreError} (hclosed : c.isClosed = false)
    (hd : c.descriptors[0]? = some d) (hh : c.handle? 0 = none)
    (hrefused : store.addMetric d = .error cause) :
    ∃ e, c.define store = (.error e, c, store) := by
  have hstep : ∃ e, defineStep 0 (c, store) = (.error e, c, store) := by
    by_cases hs : store.isSealed
    · simp [defineStep, defineMetric, resolve, hd, hh, ok_bind, hs]
    · cases cause <;>
        simp [defineStep, defineMetric, resolve, hd, hh, ok_bind, hs, hclosed, hrefused]
  obtain ⟨e, hstep⟩ := hstep
  obtain ⟨n, hn⟩ : ∃ n, c.size = n + 1 :=
    Nat.exists_eq_succ_of_ne_zero fun h0 => by
      simp [size] at h0
      simp [h0] at hd
  refine ⟨e, ?_⟩
  rw [define, if_neg (by simp [hclosed]), hn, List.range_succ_eq_map, attemptAll_cons_error hstep]

end Catalog

namespace Session

variable {config : Config} {header header' : HostHeader} {discovery discovery' : List Sample}
  {s : Session} {store store' : Store} {w w' : Session × Store} {g : Group} {c : Catalog}

theorem setCatalog_of_eq (hlen : s.catalogs.length = Group.all.length) (h : s.catalogOf g = c) :
    s.setCatalog g c = s := by
  have hlt : g.index < s.catalogs.length := hlen ▸ Group.index_lt g
  have hget : s.catalogs[g.index] = c := by
    rw [← h, catalogOf, List.getD_eq_getElem?_getD, List.getElem?_eq_getElem hlt,
      Option.getD_some]
  rw [setCatalog, ← hget, List.set_getElem_self hlt]

/-- Definition ends at the file header, which leaves session and store as they were. -/
theorem define_of_fileHeader {cause : CatalogError} (h : s.phase = .uninitialized)
    (hlen : s.catalogs.length = Group.all.length)
    (hc : (s.catalogOf .fileHeader).define store = (.error cause, s.catalogOf .fileHeader, store)) :
    s.define store header discovery =
      (.error (.catalog cause), s.planned header discovery, store) := by
  have hrun : defineGroup discovery .fileHeader (s.planned header discovery, store) =
      (.error (.catalog cause), s.planned header discovery, store) := by
    have hsame : (s.planned header discovery).setCatalog .fileHeader (s.catalogOf .fileHeader) =
      s.planned header discovery := setCatalog_of_eq hlen rfl
    have hcat : (s.planned header discovery).catalogOf .fileHeader = s.catalogOf .fileHeader := rfl
    simp only [defineGroup_fileHeader, hcat, hc, hsame]
  rw [define_of_uninitialized (w := (s, store)) h, all_eq_cons, attemptAll_cons_error hrun]

/-- A session on whose definition the metrics of the file header were registered, but not those of
every group. -/
structure Stuck (s : Session) : Prop where
  phase : s.phase = .uninitialized
  length : s.catalogs.length = Group.all.length
  closed : (s.catalogOf .fileHeader).isClosed = true
  unavailable : (s.catalogOf .fileHeader).unavailableAt 0 = .unavailable "file-header" "hinv.ncpu"

/-- Such a session is refused at the file header, and what is planned for it is all that changes. -/
theorem Stuck.define_eq (h : Stuck s) :
    s.define store header discovery =
      (.error (.catalog (.unavailable "file-header" "hinv.ncpu")),
        s.planned header discovery, store) := by
  apply define_of_fileHeader h.phase h.length
  rw [Catalog.define, if_pos h.closed, h.unavailable]

theorem Stuck.call (h : Stuck s) (c : Call) :
    Stuck (s.call c) ∧ (s.call c).defined = s.defined := by
  cases c with
  | define store header discovery =>
    have hcall : s.call (.define store header discovery) = s.planned header discovery := by
      show (s.define store header discovery).2.1 = _
      rw [h.define_eq]
    rw [hcall]
    exact ⟨⟨h.phase, h.length, h.closed, h.unavailable⟩, rfl⟩
  | exportRecord store x =>
    have hcall : s.call (.exportRecord store x) = s := by
      show (s.exportRecord store x).2.1 = s
      rw [exportRecord_of_uninitialized (w := (s, store)) h.phase]
    rw [hcall]
    exact ⟨h, rfl⟩

theorem Stuck.calls (h : Stuck s) (cs : List Call) :
    Stuck (cs.foldl Session.call s) ∧ (cs.foldl Session.call s).defined = s.defined := by
  induction cs generalizing s with
  | nil => exact ⟨h, rfl⟩
  | cons c cs ih =>
    obtain ⟨hc, hdef⟩ := h.call c
    obtain ⟨hcs, hdefs⟩ := ih hc
    exact ⟨hcs, hdefs.trans hdef⟩

/-- The groups behind the file header leave its catalog alone. -/
theorem Stuck.defineAll {gs : List Group} (h : Stuck w.1) (hgs : .fileHeader ∉ gs) :
    Stuck (attemptAll (defineGroup discovery) gs w).2.1 := by
  refine attemptAll_preserves (P := fun w : Session × Store => Stuck w.1) h fun g hg w hw => ?_
  have hne : .fileHeader ≠ g := fun he => hgs (he ▸ hg)
  obtain ⟨hphase, hlen, hcat⟩ := @defineGroup_keeps discovery w g .fileHeader hw.length hne
  exact ⟨hphase.trans hw.phase, hlen, hcat ▸ hw.closed, hcat ▸ hw.unavailable⟩

theorem stuck_of_defineGroup (hphase : w.1.phase = .uninitialized)
    (hlen : w.1.catalogs.length = Group.all.length)
    (hfresh : w.1.catalogOf .fileHeader = Group.fileHeader.catalog)
    (h : defineGroup discovery .fileHeader w = (.ok (), w')) : Stuck w'.1 := by
  have hclosed := closed_of_defineGroup hlen h
  obtain ⟨hgroup, hdesc⟩ := Catalog.define_keeps (w.1.catalogOf .fileHeader) w.2
  rw [defineGroup_fileHeader] at h
  rcases hdef : (w.1.catalogOf .fileHeader).define w.2 with ⟨_ | _, c, store⟩
  · simp [hdef] at h
  simp only [hdef, Prod.mk.injEq, true_and] at h
  rw [hdef, hfresh] at hgroup hdesc
  subst h
  have hcat : (w.1.setCatalog .fileHeader c).catalogOf .fileHeader = c :=
    (catalogOf_setCatalog hlen).trans (if_pos rfl)
  refine ⟨hphase, by simpa [setCatalog] using hlen, hclosed, ?_⟩
  show ((w.1.setCatalog .fileHeader c).catalogOf .fileHeader).unavailableAt 0 = _
  rw [hcat, Catalog.unavailableAt, hgroup, hdesc]
  rfl

theorem stuck_of_failed {e : SessionError}
    (hfail : (initial config).define store header discovery = (.error e, w))
    (hdef : .fileHeader ∈ w.1.defined) : Stuck w.1 := by
  have hlen : ((initial config).planned header discovery).catalogs.length = Group.all.length :=
    (establishing_initial (B := fun _ _ => True) config header discovery).established.length
  have hfresh : ((initial config).planned header discovery).catalogOf .fileHeader =
    Group.fileHeader.catalog := catalogOf_initial config .fileHeader
  rw [define_of_uninitialized (w := (initial config, store)) rfl] at hfail
  rcases hfirst : defineGroup discovery .fileHeader
    ((initial config).planned header discovery, store)
    with ⟨e' | _, w₁⟩
  · rw [all_eq_cons, attemptAll_cons_error hfirst] at hfail
    have hnone : w₁.1.defined = [] := by
      rw [defineGroup_fileHeader] at hfirst
      split at hfirst <;> cases hfirst
      rfl
    cases hfail
    rw [hnone] at hdef
    cases hdef
  · have hstuck := stuck_of_defineGroup rfl hlen hfresh hfirst
    rw [all_eq_cons, attemptAll_cons_ok hfirst] at hfail
    have hrest : Stuck (attemptAll (defineGroup discovery) Group.all.tail w₁).2.1 :=
      hstuck.defineAll fileHeader_notMem_tail
    rcases hend : attemptAll (defineGroup discovery) Group.all.tail w₁ with ⟨_ | _, w₂⟩ <;>
      rw [hend] at hfail hrest
    · cases hfail
      exact hrest
    · cases hfail

/-- The records of a kind with its selection fitted to their number, where CPUs are selected. -/
def selected (config : Config) (k : Multi) (x : Activity k.Rec) : Activity k.Rec :=
  match k with
  | .cpu | .softnet | .cpufreq => { x with selection := config.cpuSelection x.count }
  | _ => x

theorem selected_selected (config : Config) (k : Multi) (x : Activity k.Rec)
    (planned : Option Nat) :
    selected config k { selected config k x with planned } =
    selected config k { x with planned } := by
  cases k <;> rfl

theorem planned_selected (config : Config) (k : Multi) (x : Activity k.Rec) :
    (selected config k x).planned = x.planned := by
  cases k <;> rfl

theorem header_planned (s : Session) (header : HostHeader) (discovery : List Sample) :
    (s.planned header discovery).acts.header = header :=
  Activities.header_scan { s.acts with header } discovery

theorem single_planned (s : Session) (header : HostHeader) (discovery : List Sample) (k : Single) :
    (s.planned header discovery).acts.single k = { s.acts.single k with
      planned := (discovery.map fun x => (x.singles k).length).foldl raised
        (s.acts.single k).planned } := by
  have hselect : (s.planned header discovery).acts.single k =
      (discovery.foldl Activities.scan { s.acts with header }).single k := by cases k <;> rfl
  rw [hselect, Activities.single_scan]

theorem multi_planned (s : Session) (header : HostHeader) (discovery : List Sample) (k : Multi) :
    (s.planned header discovery).acts.multi k = selected s.config k { s.acts.multi k with
      planned := (discovery.map fun x => (x.multi k).length).foldl raised
        (s.acts.multi k).planned } := by
  have hselect : (s.planned header discovery).acts.multi k = selected s.config k
      ((discovery.foldl Activities.scan { s.acts with header }).multi k) := by cases k <;> rfl
  rw [hselect, Activities.multi_scan]

theorem irq_planned (s : Session) (header : HostHeader) (discovery : List Sample) :
    (s.planned header discovery).acts.irq =
      let planned := (discovery.filterMap Sample.rows?).foldl raised s.acts.irq.planned
      { s.acts.irq with
        planned
        lines := (discovery.flatMap Sample.lineNames).foldl Interrupts.enlist s.acts.irq.lines
        selection := s.config.cpuSelection (planned.getD 0) } := by
  have hselect : (s.planned header discovery).acts.irq =
      let x := (discovery.foldl Activities.scan { s.acts with header }).irq
      { x with selection := s.config.cpuSelection x.count } := rfl
  rw [hselect, Activities.irq_scan]
  rfl

/-- Samples that cover those planned for before plan what they plan for a session that saw no
others. -/
theorem planned_planned (h : Covers discovery' discovery) (hlines : s.acts.irq.lines = []) :
    (s.planned header discovery).planned header' discovery' = s.planned header' discovery' := by
  have hacts : ((s.planned header discovery).planned header' discovery').acts =
      (s.planned header' discovery').acts := by
    apply Activities.ext_parts
    intro t
    cases t with
    | header => exact (header_planned _ header' discovery').trans (header_planned s _ _).symm
    | single k =>
      refine (single_planned _ header' discovery' k).trans
        (Eq.trans ?_ (single_planned s _ _ k).symm)
      rw [single_planned, foldl_raised_sizes _ _ (h.singles k)]
    | multi k =>
      refine (multi_planned _ header' discovery' k).trans (Eq.trans ?_ (multi_planned s _ _ k).symm)
      rw [multi_planned, planned_selected, foldl_raised_sizes _ _ (h.multi k)]
      exact selected_selected s.config k { s.acts.multi k with planned := _ } _
    | interrupts =>
      refine (irq_planned _ header' discovery').trans (Eq.trans ?_ (irq_planned s _ _).symm)
      have hprefix := h.lines
      rw [← Interrupts.foldl_enlist_nil, ← Interrupts.foldl_enlist_nil] at hprefix
      have henlisted := Interrupts.foldl_enlist_of_prefix List.nil_prefix hprefix
      have hraised := foldl_raised_covered s.acts.irq.planned h.rows
      simp only [irq_planned, hlines, henlisted, hraised]
      rfl
  exact congrArg (fun acts => { s with acts }) hacts

/-- Where the first metric is refused, the session has only planned. -/
theorem define_refused (config : Config) (header : HostHeader) (discovery : List Sample)
    {d : Descriptor} {cause : StoreError} (hd : Group.fileHeader.metrics.head? = some d)
    (hrefused : store.addMetric d = .error cause) :
    ∃ e, (initial config).define store header discovery =
      (.error e, (initial config).planned header discovery, store) := by
  have hlen : (initial config).catalogs.length = Group.all.length := by simp [initial]
  have hdesc : Group.fileHeader.catalog.descriptors[0]? = some d := by
    rw [← List.head?_eq_getElem?]
    exact hd
  obtain ⟨e, he⟩ := Catalog.define_refused rfl hdesc (Catalog.handle?_new _ _ 0) hrefused
  exact ⟨_, define_of_fileHeader rfl hlen (catalogOf_initial config .fileHeader ▸ he)⟩

/-- A session that can be called on for a definition, but is not defined by any. -/
structure Barred (s : Session) : Prop where
  phase : s.phase = .uninitialized
  define : ∀ store header discovery, ∃ s',
    s.define store header discovery =
      (.error (.catalog (.unavailable "file-header" "hinv.ncpu")), s', store) ∧
    s'.phase = .uninitialized ∧ s'.defined = s.defined
  exportRecord : ∀ store x, s.exportRecord store x =
    (.error (.invalidState .uninitialized .exportRecord), s, store)

theorem Stuck.barred (h : Stuck s) : Barred s where
  phase := h.phase
  define store header discovery := ⟨s.planned header discovery, h.define_eq, h.phase, rfl⟩
  exportRecord store x := by rw [exportRecord_of_uninitialized (w := (s, store)) h.phase, h.phase]

/-- Definition after a failed one. Once the file header was defined it fails as well, whatever it is
given and whatever was called in between; where the first metric was refused it ends as on a new
session, if its samples cover those of the first attempt. -/
theorem define_after_failure {s₁ : Session} {store₁ : Store} {e : SessionError}
    (hnew : Session.new config = .ok s)
    (hfail : s.define store header discovery = (.error e, s₁, store₁)) :
    s₁.phase = .uninitialized ∧
      (.fileHeader ∈ s₁.defined → ∀ calls : List Call,
        Barred (calls.foldl call s₁) ∧ (calls.foldl call s₁).defined = s₁.defined) ∧
      ((∃ d cause, Group.fileHeader.metrics.head? = some d ∧
        store.addMetric d = .error cause) →
        store₁ = store ∧ ∀ store' header' discovery', Covers discovery' discovery →
          s₁.define store' header' discovery' = s.define store' header' discovery') := by
  rw [new_eq] at hnew
  cases hnew
  refine ⟨?_, fun hdef calls => ?_, fun ⟨d, cause, hd, hrefused⟩ => ?_⟩
  · have hkeeps := (defineAll_keeps discovery Group.all
      ((initial config).planned header discovery, store)).1
    rw [define_of_uninitialized (w := (initial config, store)) rfl] at hfail
    rcases hall : attemptAll (defineGroup discovery) Group.all
      ((initial config).planned header discovery, store) with ⟨_ | _, w⟩ <;>
      rw [hall] at hfail hkeeps <;> cases hfail
    exact hkeeps
  · obtain ⟨hstuck, hsame⟩ := (stuck_of_failed hfail hdef).calls calls
    exact ⟨hstuck.barred, hsame⟩
  · obtain ⟨e', he'⟩ := define_refused config header discovery hd hrefused
    rw [he'] at hfail
    cases hfail
    refine ⟨rfl, fun store' header' discovery' hcovers => ?_⟩
    rw [define_of_uninitialized (w := ((initial config).planned header discovery, store')) rfl,
      planned_planned hcovers rfl, define_of_uninitialized (w := (initial config, store')) rfl]

/-- Two batteries of the same number end the definition behind the headers, and after that not even
a definition without samples succeeds. -/
theorem second_define_fails :
    let config : Config := { groups := some ["bat"] }
    let failed := (initial config).define .empty {} [withBatteries [0, 0]]
    Session.new config = .ok (initial config) ∧
      failed.1 = .error (.registry (.duplicateLabel Domain.battery "BAT0" 0 1)) ∧
      (failed.2.1.define .empty {} []).1 =
        .error (.catalog (.unavailable "file-header" "hinv.ncpu")) ∧
      ((initial config).define .empty {} []).1 = .ok () := by
  exact ⟨new_eq _, rfl, rfl, rfl⟩

/-- The session that failed at the batteries stays undefined, and one that a sealed store refused is
defined by the same samples on an open store. -/
theorem retried_on_open_store :
    let config : Config := { groups := some ["bat"] }
    let failed := (initial config).define .empty {} [withBatteries [0, 0]]
    let refused := (initial config).define (Store.close .empty) {} [withBatteries [3]]
    failed.1 = .error (.registry (.duplicateLabel Domain.battery "BAT0" 0 1)) ∧
      Barred failed.2.1 ∧
      refused.1 = .error (.catalog (.unavailable "file-header" "hinv.ncpu")) ∧
      refused.2.1.define .empty {} [withBatteries [3]] =
        (initial config).define .empty {} [withBatteries [3]] ∧
      ((initial config).define .empty {} [withBatteries [3]]).1 = .ok () := by
  intro config failed refused
  have hfailed : failed.1 = .error (.registry (.duplicateLabel Domain.battery "BAT0" 0 1)) := rfl
  have hrefused : refused.1 = .error (.catalog (.unavailable "file-header" "hinv.ncpu")) := rfl
  obtain ⟨-, hbarred, -⟩ := define_after_failure (new_eq config)
    (show failed = (.error _, failed.2.1, failed.2.2) from Prod.ext hfailed rfl)
  obtain ⟨-, -, hretry⟩ := define_after_failure (new_eq config)
    (show refused = (.error _, refused.2.1, refused.2.2) from Prod.ext hrefused rfl)
  have hheader : .fileHeader ∈ failed.2.1.defined := by
    have hdefined : failed.2.1.defined = [.fileHeader, .recordHeader] := rfl
    rw [hdefined]
    exact List.mem_cons_self
  refine ⟨hfailed, (hbarred hheader []).1, hrefused, ?_, rfl⟩
  exact (hretry ⟨_, .closed, rfl, rfl⟩).2 .empty {} [withBatteries [3]] (.refl _)

end Session

end ActivityArchive
