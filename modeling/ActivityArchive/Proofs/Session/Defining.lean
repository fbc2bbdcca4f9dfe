import ActivityArchive.Proofs.Session.Establishing

/-!
Definition of a new session on an empty store. It fails only where the batteries of the samples seen
contradict each other, and leaves a session that is ready to export.
-/
namespace ActivityArchive.Session

open Numbering Record

/-- What the groups see of a session whose samples were scanned. -/
def planned (s : Session) (header : HostHeader) (discovery : List Sample) : Session :=
  { s with acts := discovery.foldl Activities.scan { s.acts with header } }.select

def defineView (config : Config) (header : HostHeader) (discovery : List Sample) : DefineView :=
  let acts := discovery.foldl Activities.scan { Activities.empty with header }
  ⟨{ acts with
      cpu := { acts.cpu with selection := config.cpuSelection acts.cpu.count }
      softnet := { acts.softnet with selection := config.cpuSelection acts.softnet.count }
      cpufreq := { acts.cpufreq with selection := config.cpuSelection acts.cpufreq.count }
      irq := { acts.irq with selection := config.cpuSelection acts.irq.count } },
    config, discovery⟩

/-- A session that is ready to export onto a store. -/
structure Ready (dv : DefineView) (B : Int → String → Prop) (w : Session × Store) : Prop where
  established : Established dv w.1 w.2
  nodup : w.1.defined.Nodup
  phase : w.1.phase ∈ Operation.exportRecord.allowedIn
  later : dv.acts.Later w.1.acts
  sized : w.1.acts.irq.grid.Sized
  conforms : w.1.registry.Conforms (withBatteries B)

variable {s : Session} {store : Store} {dv : DefineView} {B : Int → String → Prop}

theorem catalogOf_close (h : s.catalogs.length = Group.all.length) (g : Group) :
    { s with catalogs := s.catalogs.map Catalog.close }.catalogOf g = (s.catalogOf g).close := by
  have hlt : g.index < s.catalogs.length := h ▸ Group.index_lt g
  simp [catalogOf, hlt]

theorem Established.close (h : Established dv s store) (phase : Phase) :
    Established dv { s with catalogs := s.catalogs.map Catalog.close, phase } store := by
  have hcat : ∀ g, { s with catalogs := s.catalogs.map Catalog.close, phase }.catalogOf g =
      (s.catalogOf g).close := catalogOf_close h.length
  refine ⟨h.sound, h.config, by simpa using h.length, fun g => ?_, fun g => ?_, h.metrics,
    fun g hg idx => ?_, h.registered⟩
  · rw [hcat]
    exact h.descriptors g
  · rw [hcat]
    exact ⟨(h.truthful g).length, (h.truthful g).lookup⟩
  · rw [hcat]
    exact h.handles g hg idx

def initial (config : Config) : Session where
  phase := .uninitialized
  config
  catalogs := Group.all.map Group.catalog
  defined := []
  registry := .empty
  acts := .empty
  routes := ⟨Group.places⟩
  slot := .curr
  records := 0

theorem new_eq (config : Config) : Session.new config = .ok (initial config) := by
  rw [Session.new, Group.routes_ok]
  rfl

theorem catalogOf_initial (config : Config) (g : Group) :
    (initial config).catalogOf g = g.catalog := by
  simp [catalogOf, initial, Group.getElem?_index]

/-- What definition turns a new session into before it takes any group. -/
theorem establishing_initial (config : Config) (header : HostHeader) (discovery : List Sample) :
    Establishing (defineView config header discovery) B Group.all
      ((initial config).planned header discovery, .empty) where
  established := by
    have hcat : ∀ g, ((initial config).planned header discovery).catalogOf g = g.catalog :=
      catalogOf_initial config
    refine ⟨⟨Registry.wellFormed_empty, rfl, rfl⟩, rfl, by simp [planned, select, initial],
      fun g => ?_, fun g => ?_, by simp [Store.empty], by simp [planned, select, initial],
      by simp [planned, select, initial]⟩
    · rw [hcat]
      rfl
    · rw [hcat]
      exact Catalog.truthful_new _ _ _
  acts := rfl
  fresh g _ := catalogOf_initial config g
  conforms := Registry.conforms_empty _

/-- A session that has exported nothing yet, onto a store without records. -/
structure Unused (dv : DefineView) (w : Session × Store) : Prop where
  acts : w.1.acts = dv.acts
  slot : w.1.slot = .curr
  count : w.1.records = 0
  records : w.2.records = []
  pending : w.2.pending = []

theorem sized_defineView (config : Config) (header : HostHeader) (discovery : List Sample) :
    (defineView config header discovery).acts.irq.grid.Sized :=
  Activities.sized_scan _ discovery GridBuffer.sized_empty

/-- The definition of a new session, by the outcome of its groups. -/
theorem define_eq (config : Config) (header : HostHeader) (discovery : List Sample)
    (store : Store) :
    (initial config).define store header discovery =
      match attemptAll (defineGroup discovery) Group.all
        ((initial config).planned header discovery, store) with
      | (.ok _, s, store) =>
        (.ok (), { s with catalogs := s.catalogs.map Catalog.close, phase := .catalogsDefined },
          store)
      | failed => failed := rfl

/-- The groups leave the phase, the routes and the activities of a session, wherever they stop. -/
theorem defineAll_keeps (discovery : List Sample) (gs : List Group) (w : Session × Store) :
    (attemptAll (defineGroup discovery) gs w).2.1.phase = w.1.phase ∧
      (attemptAll (defineGroup discovery) gs w).2.1.routes = w.1.routes ∧
      (attemptAll (defineGroup discovery) gs w).2.1.acts = w.1.acts := by
  refine attemptAll_preserves (P := fun w' : Session × Store => w'.1.phase = w.1.phase ∧
    w'.1.routes = w.1.routes ∧ w'.1.acts = w.1.acts) ⟨rfl, rfl, rfl⟩ fun g _ w' hw => ?_
  obtain ⟨s, store⟩ := w'
  by_cases ht : s.takes g
  · rcases hrun : attemptAll Bench.define (g.spec.define ⟨s.acts, s.config, discovery⟩)
      (s.catalogOf g, ⟨s.registry, store⟩) with ⟨_ | _, c, b⟩ <;>
    · simp only [defineGroup, if_pos ht, hrun]
      exact hw
  · simp only [defineGroup, if_neg ht]
    exact hw

/-- Whatever becomes of a definition, the session has planned for the samples seen. -/
theorem acts_define (config : Config) (header : HostHeader) (discovery : List Sample)
    (store : Store) : ((initial config).define store header discovery).2.1.acts =
      (defineView config header discovery).acts := by
  have hkeeps := (defineAll_keeps discovery Group.all
    ((initial config).planned header discovery, store)).2.2
  rw [define_eq]
  rcases hrun : attemptAll (defineGroup discovery) Group.all
    ((initial config).planned header discovery, store) with ⟨_ | _, w⟩ <;>
      rw [hrun] at hkeeps <;>
  exact hkeeps

/-- Definition leaves a session that is ready to export, or fails at the batteries. -/
theorem define_outcome {config : Config} {header : HostHeader} {discovery : List Sample}
    (hB : BatteriesKeepTo B (defineView config header discovery)) :
    ((∃ w, (initial config).define .empty header discovery = (.ok (), w) ∧
        Ready (defineView config header discovery) B w ∧
        Unused (defineView config header discovery) w ∧
        w.1.defined = Group.all.filter (taken (defineView config header discovery)))) ∨
      (∃ cause w, (initial config).define .empty header discovery =
        (.error (.registry cause), w) ∧ cause.domain = Domain.battery) ∧
        Group.batteries ∈ Group.all.filter (taken (defineView config header discovery)) ∧
        ¬ OneToOne B := by
  rcases hrun : attemptAll (defineGroup discovery) Group.all
    ((initial config).planned header discovery, .empty) with ⟨outcome, s, store⟩
  have hout := defineAll_outcome (establishing_initial config header discovery) Group.nodup_all hB
  rw [show (defineView config header discovery).discovery = discovery from rfl, hrun] at hout
  rw [define_eq, hrun]
  rcases hout with ⟨hok, hest, hsame, hdef⟩ | ⟨⟨cause, herr, hd⟩, hmem, h1⟩
  · obtain rfl : outcome = .ok () := hok
    have hdef : s.defined = Group.all.filter (taken (defineView config header discovery)) := hdef
    have hsession := hsame.session
    refine Or.inl ⟨_, rfl, ⟨hest.established.close _, ?_, List.mem_cons_self, ?_, ?_,
      hest.conforms⟩, ⟨hest.acts, ?_, ?_, hsame.records, hsame.pending⟩, hdef⟩
    · show s.defined.Nodup
      rw [hdef]
      exact Group.nodup_all.filter _
    · show (defineView config header discovery).acts.Later s.acts
      rw [hest.acts]
      exact .refl _
    · show s.acts.irq.grid.Sized
      rw [hest.acts]
      exact sized_defineView config header discovery
    · exact congrArg Session.slot hsession
    · exact congrArg Session.records hsession
  · obtain rfl : outcome = .error (.registry cause) := herr
    exact Or.inr ⟨⟨cause, _, rfl, hd⟩, hmem, h1⟩

end ActivityArchive.Session
