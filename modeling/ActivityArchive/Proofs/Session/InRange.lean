import ActivityArchive.Proofs.Session.Accesses

/-!
Nothing out of range is ever accessed. The catalogs of a session are those of its groups, with a
handle for each metric, and its activities have the room that its phase asks for (`Safe`). Every
action keeps that, whatever its outcome, so that all accesses of all actions are in range and none
ends with a fault (`never_out_of_range`).
-/
namespace ActivityArchive

open Activities Record

namespace Catalog

variable {ds : List Descriptor} {c : Catalog} {w : Catalog × Store} {idx : Nat}

/-- A catalog of a table, with a handle for each of its metrics. -/
structure Whole (ds : List Descriptor) (c : Catalog) : Prop where
  descriptors : c.descriptors = ds
  handles : c.handles.length = ds.length

theorem whole_new (group : String) (ds : List Descriptor) : Whole ds (new group ds) :=
  ⟨rfl, List.length_map _⟩

theorem Whole.inRange (h : Whole ds c) (hidx : idx < ds.length) : (c.access idx).InRange := by
  constructor
  · rw [h.descriptors]
    exact hidx
  · rw [h.handles]
    exact hidx

theorem Whole.close (h : Whole ds c) : Whole ds c.close := ⟨h.descriptors, h.handles⟩

theorem Whole.defineStep (h : Whole ds w.1) (idx : Nat) :
    Whole ds (Catalog.defineStep idx w).2.1 := by
  rcases defineStep_cases idx w with hsame | ⟨d, handle, store, -, -, hset⟩
  · rw [hsame]
    exact h
  · rw [hset]
    exact ⟨h.descriptors, List.length_set.trans h.handles⟩

theorem Whole.define (h : Whole ds c) (store : Store) : Whole ds (c.define store).2.1 := by
  have hall : Whole ds (attemptAll Catalog.defineStep (List.range c.size) (c, store)).2.1 :=
    attemptAll_preserves (P := fun w : Catalog × Store => Whole ds w.1) h
      fun idx _ w hw => hw.defineStep idx
  unfold Catalog.define
  split
  · exact h
  · split
    · rename_i hrun
      rw [hrun] at hall
      exact hall.close
    · exact hall

end Catalog

/-- A definition asks only for metrics that its table has. -/
theorem Definable.lt_of_mem {size idx : Nat} {closed : Bool} {ds : List Definition}
    (h : Definable size closed ds) (hidx : .metric idx ∈ ds) : idx < size := by
  induction ds generalizing closed with
  | nil => cases hidx
  | cons x ds ih =>
    cases x with
    | table =>
      rcases List.mem_cons.mp hidx with heq | hidx
      · cases heq
      · exact ih h.2 hidx
    | metric i =>
      rcases List.mem_cons.mp hidx with heq | hidx
      · cases heq
        exact h.2.1
      · exact ih h.2.2 hidx
    | entry d l num =>
      rcases List.mem_cons.mp hidx with heq | hidx
      · cases heq
      · exact ih h hidx

namespace Bench

open Catalog

variable {ds : List Descriptor} {w : Catalog × Bench}

theorem whole_define (h : Whole ds w.1) (x : Definition) : Whole ds (define x w).2.1 := by
  have honto : ∀ r, (w.2.onCatalog r).2.1 = r.2.1 := by
    rintro ⟨_ | _, c, store⟩ <;> rfl
  cases x with
  | table => exact (honto _).symm ▸ h.define w.2.store
  | metric idx => exact (honto _).symm ▸ Whole.defineStep (w := (w.1, w.2.store)) h idx
  | entry d l num => exact h

theorem inRange_define (h : Whole ds w.1) {x : Definition}
    (hx : ∀ idx, x = .metric idx → idx < ds.length) :
    ∀ a ∈ defineAccesses x w, a.InRange := by
  obtain ⟨c, b⟩ := w
  cases x with
  | table =>
    by_cases hclosed : c.isClosed
    · simp [defineAccesses, hclosed]
    · simp only [defineAccesses, if_neg hclosed]
      refine forall_logAll (P := fun w : Catalog × Store => Whole ds w.1) h fun idx hidx w hw => ?_
      refine ⟨fun a ha => ?_, hw.defineStep idx⟩
      obtain rfl := List.mem_singleton.mp ha
      refine hw.inRange ?_
      rw [← h.descriptors]
      exact List.mem_range.mp hidx
  | metric idx =>
    intro a ha
    obtain rfl := List.mem_singleton.mp ha
    exact h.inRange (hx idx rfl)
  | entry d l num => simp [defineAccesses]

end Bench

namespace Session

variable {s : Session} {w : Session × Store}

/-- A session that has the routes and the catalogs of its groups. -/
structure Tabled (s : Session) : Prop where
  routes : s.routes = ⟨Group.places⟩
  length : s.catalogs.length = Group.all.length
  whole : ∀ g, (s.catalogOf g).Whole g.metrics

theorem Tabled.inRange_catalog (h : Tabled s) (g : Group) : (s.catalogAccess g).InRange := by
  show g.index < s.catalogs.length
  rw [h.length]
  exact Group.index_lt g

theorem Tabled.defineGroup (h : Tabled w.1) (discovery : List Sample) (g : Group) :
    Tabled (defineGroup discovery g w).2.1 := by
  obtain ⟨s, store⟩ := w
  by_cases ht : s.takes g
  · have hwhole : (attemptAll Bench.define (g.spec.define ⟨s.acts, s.config, discovery⟩)
        (s.catalogOf g, ⟨s.registry, store⟩)).2.1.Whole g.metrics :=
      attemptAll_preserves (P := fun w : Catalog × Bench => w.1.Whole g.metrics) (h.whole g)
        fun x _ w hw => Bench.whole_define hw x
    have hset : ∀ c : Catalog, c.Whole g.metrics → Tabled (s.setCatalog g c) := by
      intro c hc
      refine ⟨h.routes, by simpa [setCatalog] using h.length, fun g' => ?_⟩
      rw [catalogOf_setCatalog h.length]
      split
      · rename_i hg
        exact hg ▸ hc
      · exact h.whole g'
    rcases hrun : attemptAll Bench.define (g.spec.define ⟨s.acts, s.config, discovery⟩)
      (s.catalogOf g, ⟨s.registry, store⟩) with ⟨_ | _, c, b⟩ <;> rw [hrun] at hwhole <;>
    · simp only [Session.defineGroup, if_pos ht, hrun]
      exact ⟨(hset c hwhole).routes, (hset c hwhole).length, (hset c hwhole).whole⟩
  · simp only [Session.defineGroup, if_neg ht]
    exact h

theorem Tabled.inRange_defineGroup (h : Tabled w.1) (discovery : List Sample) (g : Group) :
    ∀ x ∈ groupDefineAccesses discovery g w, x.InRange := by
  have hdefinable := (Group.spec_selfContained g).definable ⟨w.1.acts, w.1.config, discovery⟩
  intro x hx
  unfold groupDefineAccesses at hx
  split at hx
  · rcases List.mem_cons.mp hx with rfl | hx
    · exact h.inRange_catalog g
    · refine forall_logAll (P := fun w : Catalog × Bench => w.1.Whole g.metrics)
        (h.whole g) ?_ x hx
      intro d hd w hw
      refine ⟨Bench.inRange_define hw fun idx hidx => ?_, Bench.whole_define hw d⟩
      exact hdefinable.lt_of_mem (hidx ▸ hd)
  · cases hx

theorem Tabled.planned (h : Tabled s) (header : HostHeader) (discovery : List Sample) :
    Tabled (s.planned header discovery) := ⟨h.routes, h.length, h.whole⟩

theorem Tabled.define (h : Tabled s) (store : Store) (header : HostHeader)
    (discovery : List Sample) :
    Tabled (s.define store header discovery).2.1 := by
  have hall : Tabled (attemptAll (Session.defineGroup discovery) Group.all
      (s.planned header discovery, store)).2.1 :=
    attemptAll_preserves (P := fun w : Session × Store => Tabled w.1) (h.planned header discovery)
      fun g _ w hw => hw.defineGroup discovery g
  rcases hc : s.check .define with e | _
  · simp only [Session.define, hc]
    exact h
  · have hphase : s.phase = .uninitialized := by
      simpa [Operation.allowedIn] using phase_of_check hc
    rw [define_of_uninitialized (w := (s, store)) hphase]
    rcases hrun : attemptAll (Session.defineGroup discovery) Group.all
      (s.planned header discovery, store) with ⟨_ | _, t, store'⟩ <;> rw [hrun] at hall
    · exact hall
    · have hcat : ∀ g, { t with catalogs := t.catalogs.map Catalog.close }.catalogOf g =
          (t.catalogOf g).close := catalogOf_close hall.length
      refine ⟨hall.routes, by simpa using hall.length, fun g => ?_⟩
      have hclose := (hall.whole g).close
      rw [← hcat g] at hclose
      exact hclose

/-- A group writes to metrics of its own table, whatever the sample is. -/
theorem Tabled.inRange_exportGroup (h : Tabled w.1) (hacts : w.1.acts.Roomy) (g : Group) :
    ∀ x ∈ groupExportAccesses g w, x.InRange := by
  have hemit : ∀ x ∈ g.emitAccesses (w.1.view g), x.InRange :=
    Group.inRange_emit (hacts.readable _) g
  intro x hx
  simp only [groupExportAccesses, List.mem_cons, List.mem_append, List.mem_map] at hx
  rcases hx with rfl | (⟨idx, hidx, rfl⟩ | hx) | hx
  · exact h.inRange_catalog g
  · exact (h.whole g).inRange (Group.lt_of_consulted hidx)
  · exact hemit x hx
  · refine forall_logAll (P := fun _ => True) trivial (fun e he b _ => ⟨?_, trivial⟩) x hx
    have hindexed := Group.indexed_of_inRange g hemit e he
    cases e with
    | value idx label v =>
      intro a ha
      obtain rfl := List.mem_singleton.mp ha
      exact (h.whole g).inRange hindexed
    | entry d l num => simp [Bench.emitAccesses]
    | fault cause => simp [Bench.emitAccesses]

/-- Readings are taken by the group of their metric, whatever their instances and their values are.
-/
theorem Tabled.inRange_readings (h : Tabled s) (hacts : Alike .curr s.acts s.acts) (id : MetricId)
    (readings : List Reading) : ∀ x ∈ s.readingAccesses id readings, x.InRange := by
  intro x hx
  unfold readingAccesses at hx
  rw [h.routes] at hx
  split at hx
  · rename_i g idx hfind
    obtain ⟨m, hm, -⟩ := Group.metric_of_find? hfind
    obtain ⟨hlt, -⟩ := List.getElem?_eq_some_iff.mp hm
    rcases List.mem_cons.mp hx with rfl | hx
    · exact h.inRange_catalog g
    · obtain ⟨⟨r, n⟩, -, hx⟩ := List.mem_flatMap.mp hx
      rcases List.mem_cons.mp hx with rfl | hx
      · exact (h.whole g).inRange hlt
      · have hbuilt := (Group.spec_keepsAlike g).absorb ⟨g.metrics, s.registry, .curr⟩ idx
          (readings.take n) _ _ hacts
        exact Group.inRange_touched hbuilt.readable g idx r x hx
  · cases hx

theorem Tabled.inRange_end (h : Tabled s) (hacts : Alike .curr s.acts s.acts) :
    ∀ x ∈ s.endAccesses, x.InRange := by
  intro x hx
  rcases List.mem_append.mp hx with hx | hx
  · refine forall_logFold (P := fun acts => Alike .curr acts acts) hacts ?_ x hx
    intro g _ acts hacts
    refine ⟨fun x hx => ?_, (Group.spec_keepsAlike g).finish .curr acts acts hacts⟩
    rcases List.mem_cons.mp hx with rfl | hx
    · exact h.inRange_catalog g
    · exact Group.inRange_finish hacts.readable g x hx
  · exact (alike_finish hacts).readable.inRange_unload x hx

/-- What activities have room for in a phase. Before anything is exported or imported, the slot
where records are built is empty; while records are built, only that slot counts. -/
def Room (acts : Activities) : Phase → Prop
  | .uninitialized | .catalogsDefined => acts.Roomy ∧ Alike .curr .empty acts
  | .encoding => acts.Roomy
  | .decoding => Alike .curr acts acts
  | .closed => True

structure Safe (s : Session) : Prop extends Tabled s where
  room : Room s.acts s.phase

theorem safe_initial (config : Config) : Safe (initial config) where
  routes := rfl
  length := List.length_map _
  whole g := by
    rw [catalogOf_initial]
    exact Catalog.whole_new _ _
  room := ⟨roomy_empty, alike_empty .curr⟩

theorem roomy_planned (h : s.acts.Roomy) (header : HostHeader) (discovery : List Sample) :
    (s.planned header discovery).acts.Roomy where
  single k := by
    rw [single_planned]
    exact h.single k
  multi k := by
    have hk := h.multi k
    rw [multi_planned]
    cases k <;> exact hk
  irq := by
    rw [irq_planned]
    exact h.irq

theorem Safe.define (h : Safe s) (store : Store) (header : HostHeader) (discovery : List Sample) :
    Safe (s.define store header discovery).2.1 := by
  refine ⟨h.toTabled.define store header discovery, ?_⟩
  rcases define_cases s store header discovery with hsame | ⟨hphase, hlater, -, hacts⟩
  · rw [hsame]
    exact h.room
  · have hroom := h.room
    rw [hphase] at hroom
    rw [hacts]
    rcases hlater with hlater | hlater <;> rw [hlater] <;>
    exact ⟨roomy_planned hroom.1 header discovery, alike_planned hroom.2 header discovery⟩

/-- Samples are exported from activities that have room. -/
theorem Safe.roomy (h : Safe s) (hc : s.check .exportRecord = .ok ()) : s.acts.Roomy := by
  have hroom := h.room
  have hphase : s.phase = .catalogsDefined ∨ s.phase = .encoding := by
    simpa [Operation.allowedIn] using phase_of_check hc
  rcases hphase with hphase | hphase <;> rw [hphase] at hroom
  · exact hroom.1
  · exact hroom

/-- A session on the way of exporting what was loaded. -/
structure Loaded (s : Session) : Prop extends Tabled s where
  phase : s.phase = .encoding
  roomy : s.acts.Roomy

theorem Loaded.safe (h : Loaded s) : Safe s := by
  refine ⟨h.toTabled, ?_⟩
  rw [h.phase]
  exact h.roomy

theorem Safe.loaded (h : Safe s) (hc : s.check .exportRecord = .ok ()) (sample : Sample) :
    Loaded (s.loaded sample) :=
  ⟨⟨h.routes, h.length, h.whole⟩, rfl, (h.roomy hc).load s.slot sample⟩

theorem Loaded.exportGroup (h : Loaded w.1) (g : Group) : Loaded (exportGroup g w).2.1 := by
  have hemit : (g.spec.emit (w.1.view g)).1.Roomy := Group.roomy_emit h.roomy g
  exact ⟨⟨h.routes, h.length, h.whole⟩, h.phase, hemit⟩

theorem Safe.exportRecord (h : Safe s) (store : Store) (sample : Sample) :
    Safe (s.exportRecord store sample).2.1 := by
  rcases hc : s.check .exportRecord with e | _
  · simp only [Session.exportRecord, hc]
    exact h
  · have hall : Loaded (attemptAll Session.exportGroup s.defined (s.loaded sample, store)).2.1 :=
      attemptAll_preserves (P := fun w : Session × Store => Loaded w.1) (h.loaded hc sample)
        fun g _ w hw => hw.exportGroup g
    rw [exportRecord_eq hc]
    rcases hrun : attemptAll Session.exportGroup s.defined (s.loaded sample, store)
      with ⟨_ | _, t, store'⟩ <;> rw [hrun] at hall
    · exact hall.safe
    · dsimp only
      have hsafe := hall.safe
      split
      · exact ⟨⟨hsafe.routes, hsafe.length, hsafe.whole⟩, hsafe.room⟩
      · exact hsafe

theorem Safe.attachReader (h : Safe s) (instances : Registry) :
    Safe (s.attachReader instances).2 := by
  rcases hc : s.check .attachReader with e | _
  · simp only [Session.attachReader, hc]
    exact h
  · have hphase : s.phase = .uninitialized ∨ s.phase = .catalogsDefined := by
      simpa [Operation.allowedIn] using phase_of_check hc
    have hempty : Alike .curr .empty s.acts := by
      have hroom := h.room
      rcases hphase with hphase | hphase <;> rw [hphase] at hroom <;> exact hroom.2
    simp only [Session.attachReader, hc]
    exact ⟨⟨h.routes, h.length, h.whole⟩, hempty.symm.trans hempty⟩

theorem decoding_of_check {op : Operation} (hop : op.allowedIn = [.decoding])
    (hc : s.check op = .ok ()) : s.phase = .decoding := by
  have hphase := phase_of_check hc
  rw [hop] at hphase
  exact List.mem_singleton.mp hphase

/-- While records are imported, the slot where they are built can be read. -/
theorem Safe.building (h : Safe s) (hphase : s.phase = .decoding) : Alike .curr s.acts s.acts := by
  have hroom := h.room
  rw [hphase] at hroom
  exact hroom

theorem Safe.absorb (h : Safe s) (hphase : s.phase = .decoding) (id : MetricId)
    (readings : List Reading) : Safe (s.absorb id readings) := by
  have habsorb : s.absorb id readings =
      { s with acts := take s.registry s.acts ⟨id, readings⟩ } :=
    absorb_eq h.routes ⟨id, readings⟩
  rw [habsorb]
  refine ⟨⟨h.routes, h.length, h.whole⟩, ?_⟩
  show Room _ s.phase
  rw [hphase]
  exact alike_takeAll (h.building hphase) s.registry [⟨id, readings⟩]

theorem Safe.importValueSet (h : Safe s) (set : ValueSet) : Safe (s.importValueSet set).2 := by
  rcases hc : s.check .importValueSet with e | _ <;> simp only [Session.importValueSet, hc]
  · exact h
  · exact h.absorb (decoding_of_check rfl hc) set.id set.readings

theorem Safe.importValue (h : Safe s) (id : MetricId) (reading : Reading) :
    Safe (s.importValue id reading).2 := by
  rcases hc : s.check .importValue with e | _ <;> simp only [Session.importValue, hc]
  · exact h
  · exact h.absorb (decoding_of_check rfl hc) id [reading]

theorem Safe.endRecord (h : Safe s) (timestamp : Int) : Safe (s.endRecord timestamp).2 := by
  rcases hc : s.check .endRecord with e | _
  · simp only [Session.endRecord, hc]
    exact h
  · have hphase : s.phase = .decoding := decoding_of_check rfl hc
    have halike := h.building hphase
    have hnamed : s.acts.irq.Named := (halike .interrupts).showing.named
    have hended : (finish s.acts).irq.Named := (alike_finish halike .interrupts).showing.named
    obtain ⟨x, hx⟩ := endRecord_ok hphase hnamed timestamp
    have hclear : Alike .curr .empty ((finish s.acts).clear .curr) := alike_clear hended .curr
    rw [hx]
    refine ⟨⟨h.routes, h.length, h.whole⟩, ?_⟩
    show Room _ s.phase
    rw [hphase]
    exact hclear.symm.trans hclear

theorem Safe.importSets (h : Safe s) (sets : List ValueSet) :
    Safe (attemptAll (fun set s => s.importValueSet set) sets s).2 :=
  attemptAll_preserves h fun set _ _ hs => hs.importValueSet set

theorem Safe.perform (h : Safe s) (a : Action) : Safe (s.perform a).2 := by
  cases a with
  | define store header discovery => exact h.define store header discovery
  | exportRecord store sample => exact h.exportRecord store sample
  | attachReader instances => exact h.attachReader instances
  | importValueSet set => exact h.importValueSet set
  | importValue id reading => exact h.importValue id reading
  | endRecord timestamp => exact h.endRecord timestamp
  | importRecord record =>
    have hsets := h.importSets record.sets
    show Safe (s.importRecord record).2
    unfold importRecord
    split <;> rename_i hrun <;> rw [hrun] at hsets
    · exact hsets.endRecord record.timestamp
    · exact hsets
  | close =>
    rcases hc : s.check .close with e | _ <;> simp only [Session.perform, Session.close, hc]
    · exact h
    · exact ⟨⟨h.routes, h.length, h.whole⟩, trivial⟩

theorem forall_accessesIn {op : Operation} {accesses : List Access}
    (h : s.check op = .ok () → ∀ x ∈ accesses, x.InRange) :
    ∀ x ∈ s.accessesIn op accesses, x.InRange := by
  unfold accessesIn
  split
  · rename_i hc
    exact h hc
  · simp

theorem Safe.inRange_readings (h : Safe s) {op : Operation} (hop : op.allowedIn = [.decoding])
    (id : MetricId) (readings : List Reading) :
    ∀ x ∈ s.accessesIn op (s.readingAccesses id readings), x.InRange := by
  refine forall_accessesIn fun hc => ?_
  exact h.toTabled.inRange_readings (h.building (decoding_of_check hop hc)) id readings

theorem Safe.inRange_endRecord (h : Safe s) :
    ∀ x ∈ s.accessesIn .endRecord s.endAccesses, x.InRange := by
  refine forall_accessesIn fun hc => ?_
  exact h.toTabled.inRange_end (h.building (decoding_of_check rfl hc))

theorem Safe.inRange (h : Safe s) (a : Action) : ∀ x ∈ s.accesses a, x.InRange := by
  cases a with
  | define store header discovery =>
    refine forall_accessesIn fun _ => ?_
    exact forall_logAll (P := fun w : Session × Store => Tabled w.1)
      (h.toTabled.planned header discovery)
      fun g _ w hw => ⟨hw.inRange_defineGroup discovery g, hw.defineGroup discovery g⟩
  | exportRecord store sample =>
    refine forall_accessesIn fun hc x hx => ?_
    rcases List.mem_append.mp hx with hx | hx
    · exact Activities.inRange_load (h.roomy hc).irq s.slot sample x hx
    · refine forall_logAll (P := fun w : Session × Store => Loaded w.1)
        (h.loaded hc sample) ?_ x hx
      exact fun g _ w hw => ⟨hw.toTabled.inRange_exportGroup hw.roomy g, hw.exportGroup g⟩
  | attachReader instances => simp [accesses]
  | importValueSet set => exact h.inRange_readings rfl set.id set.readings
  | importValue id reading => exact h.inRange_readings rfl id [reading]
  | importRecord record =>
    intro x hx
    rcases List.mem_append.mp hx with hx | hx
    · refine forall_logAll (P := Safe) h (fun set _ s hs => ?_) x hx
      exact ⟨hs.inRange_readings rfl set.id set.readings, hs.importValueSet set⟩
    · exact (h.importSets record.sets).inRange_endRecord x hx
  | endRecord timestamp => exact h.inRange_endRecord
  | close => simp [accesses]

/-- The session after some actions, whatever their outcomes. -/
def performAll (s : Session) (actions : List Action) : Session :=
  actions.foldl (fun s a => (s.perform a).2) s

theorem Safe.performAll (h : Safe s) (actions : List Action) : Safe (s.performAll actions) := by
  induction actions generalizing s with
  | nil => exact h
  | cons a actions ih => exact ih (h.perform a)

/-- A new session may be called for anything, in any order and with any arguments: no access that is
made for the next action is out of range, and the action does not end with a fault. -/
theorem never_out_of_range (config : Config) (actions : List Action) (next : Action) :
    ∃ s, Session.new config = .ok s ∧
      (∀ x ∈ (s.performAll actions).accesses next, x.InRange) ∧
      ∀ cause, ((s.performAll actions).perform next).1 ≠ .error (.fault cause) := by
  have hsafe : Safe ((initial config).performAll actions) :=
    (safe_initial config).performAll actions
  have haccesses := hsafe.inRange next
  exact ⟨initial config, new_eq config, haccesses, fun _ => perform_of_inRange next haccesses⟩

end Session

end ActivityArchive
