import ActivityArchive.Proofs.Session.Batteries

/-!
What a session and its store can become. A session is new, or its definition failed, or it is ready
to export (`Reachable.condition`). A failed definition is final: the catalog of the file header is
closed, so no later definition gets past it.
-/
namespace ActivityArchive.Session

open Record

inductive Reachable (config : Config) : Session × Store → Prop
  | new {s : Session} : Session.new config = .ok s → Reachable config (s, .empty)
  | define {w : Session × Store} (header : HostHeader) (discovery : List Sample) :
    Reachable config w → Reachable config (w.1.define w.2 header discovery).2
  | exportRecord {w : Session × Store} (sample : Sample) :
    Reachable config w → Reachable config (w.1.exportRecord w.2 sample).2

/-- A session whose definition failed. -/
structure Spent (w : Session × Store) : Prop where
  phase : w.1.phase = .uninitialized
  length : w.1.catalogs.length = Group.all.length
  closed : (w.1.catalogOf .fileHeader).isClosed = true

variable {config : Config} {header : HostHeader} {discovery : List Sample} {w : Session × Store}

theorem closed_of_define_ok {c c' : Catalog} {store store' : Store}
    (h : c.define store = (.ok (), c', store')) : c'.isClosed = true := by
  unfold Catalog.define at h
  split at h
  · cases h
  · split at h
    · cases h
      rfl
    · rename_i hno
      exact absurd h (hno () c' store')

theorem defineGroup_fileHeader (w : Session × Store) :
    defineGroup discovery .fileHeader w =
      match (w.1.catalogOf .fileHeader).define w.2 with
      | (.ok _, c, store) => (.ok (), { w.1.setCatalog .fileHeader c with
          defined := w.1.defined ++ [.fileHeader] }, store)
      | (.error cause, c, store) =>
        (.error (.catalog cause), w.1.setCatalog .fileHeader c, store) := by
  obtain ⟨s, store⟩ := w
  have hdef : Group.fileHeader.spec.define ⟨s.acts, s.config, discovery⟩ = [.table] := rfl
  have htakes : s.takes .fileHeader = true := rfl
  simp only [defineGroup, htakes, if_true, hdef, attemptAll, Bench.define]
  rcases (s.catalogOf .fileHeader).define store with ⟨_ | _, c, store'⟩ <;> rfl

theorem closed_of_defineGroup {w' : Session × Store}
    (hlen : w.1.catalogs.length = Group.all.length)
    (h : defineGroup discovery .fileHeader w = (.ok (), w')) :
    (w'.1.catalogOf .fileHeader).isClosed = true := by
  rw [defineGroup_fileHeader] at h
  rcases hdef : (w.1.catalogOf .fileHeader).define w.2 with ⟨_ | _, c, store⟩
  · simp [hdef] at h
  · have hcat : (w.1.setCatalog .fileHeader c).catalogOf .fileHeader = c :=
      (catalogOf_setCatalog hlen).trans (if_pos rfl)
    simp only [hdef, Prod.mk.injEq, true_and] at h
    rw [← h]
    exact (congrArg Catalog.isClosed hcat).trans (closed_of_define_ok hdef)

theorem defineGroup_keeps {g g' : Group} (hlen : w.1.catalogs.length = Group.all.length)
    (hg : g' ≠ g) :
    (defineGroup discovery g w).2.1.phase = w.1.phase ∧
      (defineGroup discovery g w).2.1.catalogs.length = Group.all.length ∧
      (defineGroup discovery g w).2.1.catalogOf g' = w.1.catalogOf g' := by
  obtain ⟨s, store⟩ := w
  by_cases ht : s.takes g
  · rcases hrun : attemptAll Bench.define (g.spec.define ⟨s.acts, s.config, discovery⟩)
      (s.catalogOf g, ⟨s.registry, store⟩) with ⟨_ | _, c, b⟩ <;>
    · simp only [defineGroup, if_pos ht, hrun]
      refine ⟨rfl, ?_, ?_⟩
      · simpa [setCatalog] using hlen
      · exact (catalogOf_setCatalog (c := c) hlen).trans (if_neg hg)
  · simp only [defineGroup, if_neg ht]
    exact ⟨trivial, hlen, trivial⟩

theorem Spent.defineGroup {g : Group} (h : Spent w) (hg : g ≠ .fileHeader) :
    Spent (defineGroup discovery g w).2 := by
  obtain ⟨hphase, hlen, hcat⟩ := defineGroup_keeps h.length (Ne.symm hg)
  exact ⟨hphase.trans h.phase, hlen, hcat ▸ h.closed⟩

theorem Spent.defineAll {gs : List Group} (h : Spent w) (hgs : .fileHeader ∉ gs) :
    Spent (attemptAll (Session.defineGroup discovery) gs w).2 := by
  refine attemptAll_preserves h fun g hg w hw => hw.defineGroup fun he => hgs ?_
  exact he ▸ hg

theorem all_eq_cons : Group.all = .fileHeader :: Group.all.tail := rfl

theorem fileHeader_notMem_tail : .fileHeader ∉ Group.all.tail := by
  have hnd : (.fileHeader :: Group.all.tail).Nodup := all_eq_cons ▸ Group.nodup_all
  exact (List.nodup_cons.mp hnd).1

theorem define_of_uninitialized (h : w.1.phase = .uninitialized) :
    w.1.define w.2 header discovery =
      match attemptAll (Session.defineGroup discovery) Group.all
        (w.1.planned header discovery, w.2) with
      | (.ok _, s, store) =>
        (.ok (), { s with catalogs := s.catalogs.map Catalog.close, phase := .catalogsDefined },
          store)
      | failed => failed := by
  have hcheck : w.1.check .define = .ok () := if_pos (by rw [h]; decide)
  rw [define, hcheck]
  rfl

/-- A definition that failed is not made up for. -/
theorem Spent.define (h : Spent w) :
    (∃ e, (w.1.define w.2 header discovery).1 = .error e) ∧
      Spent (w.1.define w.2 header discovery).2 := by
  have hclosed : ((w.1.planned header discovery).catalogOf .fileHeader).isClosed = true := h.closed
  have hrun : ∃ e s, Session.defineGroup discovery .fileHeader
    (w.1.planned header discovery, w.2) =
      (.error e, s) ∧ Spent s := by
    rw [defineGroup_fileHeader]
    simp only [Catalog.define, hclosed, if_true]
    have hlen : (w.1.planned header discovery).catalogs.length = Group.all.length := h.length
    refine ⟨_, _, rfl, h.phase, ?_, ?_⟩
    · simpa [setCatalog] using hlen
    · exact (congrArg Catalog.isClosed ((catalogOf_setCatalog hlen).trans (if_pos rfl))).trans
        hclosed
  obtain ⟨e, s, hrun, hs⟩ := hrun
  rw [define_of_uninitialized h.phase, all_eq_cons, attemptAll_cons_error hrun]
  exact ⟨⟨e, rfl⟩, hs⟩

/-- A new session is ready after its definition, or spent. -/
theorem define_initial (config : Config) (header : HostHeader) (discovery : List Sample) :
    Ready (defineView config header discovery) (batteryRule (batteryPlaces discovery))
        ((initial config).define .empty header discovery).2 ∨
      Spent ((initial config).define .empty header discovery).2 := by
  rcases hout : ((initial config).define .empty header discovery).1 with e | _
  · right
    have hest : Establishing (defineView config header discovery)
        (batteryRule (batteryPlaces discovery)) Group.all
        ((initial config).planned header discovery, .empty) :=
      establishing_initial config header discovery
    rcases defineGroup_outcome hest Group.nodup_all batteriesKeepTo rfl with
      ⟨w, hrun, hest', hsame, -⟩ | ⟨cause, w, -, -, hbat, -⟩
    · have hclosed := closed_of_defineGroup hest.established.length hrun
      have hw : Spent w :=
        ⟨congrArg Session.phase hsame.session, hest'.established.length, hclosed⟩
      have htail : Spent (attemptAll (Session.defineGroup discovery) Group.all.tail w).2 :=
        hw.defineAll fileHeader_notMem_tail
      have hrest : attemptAll (Session.defineGroup discovery) Group.all
          ((initial config).planned header discovery, .empty) =
            attemptAll (Session.defineGroup discovery) Group.all.tail w := attemptAll_cons_ok hrun
      rw [define_eq, hrest] at hout ⊢
      rcases hend : attemptAll (Session.defineGroup discovery) Group.all.tail w with
        ⟨_ | _, s, store⟩
      · rw [hend] at htail
        exact htail
      · simp [hend] at hout
    · cases hbat
  · exact Or.inl ((define_iff config header discovery).2.2 hout)

/-- What a reachable session is: new, or spent, or ready after a definition. -/
inductive Condition (config : Config) (w : Session × Store) : Prop
  | new (eq : w = (initial config, .empty))
  | spent (h : Spent w)
  | ready (header : HostHeader) (discovery : List Sample)
    (h : Ready (defineView config header discovery) (batteryRule (batteryPlaces discovery)) w)

theorem exportRecord_of_uninitialized (h : w.1.phase = .uninitialized) (sample : Sample) :
    w.1.exportRecord w.2 sample = (.error (.invalidState w.1.phase .exportRecord), w) := by
  have hcheck : w.1.check .exportRecord = .error (.invalidState w.1.phase .exportRecord) :=
    if_neg (by rw [h]; decide)
  rw [exportRecord, hcheck]

theorem define_of_ready {dv : DefineView} {B : Int → String → Prop} (h : Ready dv B w) :
    w.1.define w.2 header discovery = (.error (.invalidState w.1.phase .define), w) := by
  have hno : w.1.phase ∉ Operation.define.allowedIn := by
    have hphase : w.1.phase = .catalogsDefined ∨ w.1.phase = .encoding := by
      simpa [Operation.allowedIn] using h.phase
    rcases hphase with hphase | hphase <;> rw [hphase] <;> decide
  have hcheck : w.1.check .define = .error (.invalidState w.1.phase .define) := if_neg hno
  rw [define, hcheck]

theorem Reachable.condition (h : Reachable config w) : Condition config w := by
  induction h with
  | new hs =>
    rw [new_eq] at hs
    cases hs
    exact .new rfl
  | @define w header discovery _ ih =>
    rcases ih with rfl | hspent | ⟨header', discovery', hready⟩
    · rcases define_initial config header discovery with hready | hspent
      · exact .ready header discovery hready
      · exact .spent hspent
    · exact .spent hspent.define.2
    · rw [define_of_ready hready]
      exact .ready header' discovery' hready
  | @exportRecord w sample _ ih =>
    rcases ih with rfl | hspent | ⟨header, discovery, hready⟩
    · exact .new (by rw [exportRecord_of_uninitialized rfl])
    · rw [exportRecord_of_uninitialized hspent.phase]
      exact .spent hspent
    · exact .ready header discovery (exportRun_ready batteriesCovered [sample] hready).1

end ActivityArchive.Session
