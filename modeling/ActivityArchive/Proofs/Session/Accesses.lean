import ActivityArchive.Proofs.Group.Accesses
import ActivityArchive.Proofs.Session.Forgetting
import ActivityArchive.Proofs.Session.Retrying

/-!
What a session accesses, action by action, in the states that it goes through. An action may be
refused, but it never ends with a fault as long as everything that it accesses is in range
(`Session.perform_of_inRange`).
-/
namespace ActivityArchive

open Record

namespace Catalog

/-- The descriptor and the handle of a metric. -/
def access (c : Catalog) (idx : Nat) : Access := .metric idx c.descriptors.length c.handles.length

theorem resolve_of_inRange {c : Catalog} {idx : Nat} (h : (c.access idx).InRange) :
    ∃ d, c.resolve idx = .ok d := by
  have hlt : idx < c.descriptors.length := h.1
  exact ⟨c.descriptors[idx], by rw [resolve, List.getElem?_eq_getElem hlt]⟩

end Catalog

namespace Activities

/-- A sample that is copied into a slot, kind by kind. -/
def loadAccesses (a : Activities) (s : Slot) (sample : Sample) : List Access :=
  Single.all.map (fun k => (a.single k).loadAccess s (sample.singles k)) ++
    Multi.all.map (fun k => (a.multi k).loadAccess s (sample.multi k)) ++
    a.irq.loadAccesses s sample.irq

/-- A sample that is read from a slot. -/
def unloadAccesses (a : Activities) (s : Slot) : List Access :=
  Single.all.map (fun k => (a.single k).readAccess s) ++
    Multi.all.map (fun k => (a.multi k).readAccess s) ++ a.irq.unloadAccesses s

variable {a : Activities} {s : Slot}

theorem inRange_load (h : a.irq.grid.Sized) (s : Slot) (sample : Sample) :
    ∀ x ∈ a.loadAccesses s sample, x.InRange := by
  intro x hx
  simp only [loadAccesses, List.mem_append, List.mem_map] at hx
  rcases hx with (⟨k, -, rfl⟩ | ⟨k, -, rfl⟩) | hx
  · exact Activity.inRange_load _ s _
  · exact Activity.inRange_load _ s _
  · exact Interrupts.inRange_load h s sample.irq x hx

theorem Readable.inRange_unload (h : a.Readable s) : ∀ x ∈ a.unloadAccesses s, x.InRange := by
  intro x hx
  simp only [unloadAccesses, List.mem_append, List.mem_map] at hx
  rcases hx with (⟨k, -, rfl⟩ | ⟨k, -, rfl⟩) | hx
  · exact h.single k
  · exact h.multi k
  · exact Interrupts.inRange_unload h.irq s x hx

/-- A slot whose interrupts are in range is unloaded. -/
theorem unload_of_inRange (h : ∀ x ∈ a.unloadAccesses s, x.InRange) (timestamp : Int) :
    ∃ sample, a.unload s timestamp = .ok sample := by
  obtain ⟨t, ht⟩ := Interrupts.unload_of_inRange (s := s) fun x hx =>
    h x (List.mem_append_right _ hx)
  rw [unload, ht]
  exact ⟨_, rfl⟩

end Activities

namespace SessionError

variable {e : SessionError}

/-- What a step of an operation is refused for: neither a fault nor the phase of the session. -/
def IsRefusal : SessionError → Prop
  | .invalidState .. | .fault _ => False
  | _ => True

theorem IsRefusal.ne_fault (h : e.IsRefusal) {cause : Fault} : e ≠ .fault cause := by
  rintro rfl
  exact h

theorem IsRefusal.ne_invalidState (h : e.IsRefusal) {p : Phase} {op : Operation} :
    e ≠ .invalidState p op := by
  rintro rfl
  exact h

end SessionError

namespace Bench

/-- The metrics that a step of a definition registers: all of them, up to the first that is refused,
or one. A catalog that is closed is not looked at. -/
def defineAccesses : Definition → Catalog × Bench → List Access
  | .table, (c, b) =>
    if c.isClosed then []
    else logAll Catalog.defineStep (fun idx w => [w.1.access idx]) (List.range c.size) (c, b.store)
  | .metric idx, (c, _) => [c.access idx]
  | .entry .., _ => []

/-- The metric under whose handle a value is put. -/
def emitAccesses (c : Catalog) : Emission → Bench → List Access
  | .value idx _ _, _ => [c.access idx]
  | _, _ => []

variable {b : Bench} {cause : Fault} {e : SessionError}

theorem register_error {group : String} {d : DomainId} {label : String} {number : Option Int}
    (h : (b.register group d label number).1 = .error e) : e.IsRefusal := by
  unfold register at h
  dsimp only at h
  split at h
  · cases h
  · split at h
    · cases h
      trivial
    · cases h
    · split at h <;> cases h
      trivial

/-- A value that is put is refused, or its metric is not there. -/
theorem put_error {c : Catalog} {idx : Nat} {label : Option String} {v : Value}
    (h : (b.put c idx label v).1 = .error e) :
    e.IsRefusal ∨ ∃ cause, e = .fault (.metric cause) ∧ c.resolve idx = .error cause := by
  unfold put at h
  split at h
  · rename_i cause hresolve
    cases h
    exact Or.inr ⟨cause, rfl, hresolve⟩
  · split at h
    · cases h
      exact Or.inl trivial
    · split at h <;> cases h
      exact Or.inl trivial

theorem emit_error {c : Catalog} {x : Emission} (h : (emit c x b).1 = .error e) :
    e.IsRefusal ∨ ∃ cause, e = .fault cause := by
  cases x with
  | entry d label number => exact Or.inl (register_error h)
  | value idx label v =>
    rcases put_error h with hrefusal | ⟨cause, he, -⟩
    · exact Or.inl hrefusal
    · exact Or.inr ⟨_, he⟩
  | fault cause =>
    cases h
    exact Or.inr ⟨_, rfl⟩

/-- What is emitted is no fault, as long as its index is in range. -/
theorem emit_ne_fault {c : Catalog} {x : Emission} {size : Nat} (hx : x.Indexed size)
    (h : ∀ a ∈ emitAccesses c x b, a.InRange) : (emit c x b).1 ≠ .error (.fault cause) := by
  intro herror
  cases x with
  | entry d label number => exact (register_error herror).ne_fault rfl
  | value idx label v =>
    obtain ⟨d, hd⟩ := Catalog.resolve_of_inRange (h _ (List.mem_singleton.mpr rfl))
    rcases put_error herror with hrefusal | ⟨_, -, hresolve⟩
    · exact hrefusal.ne_fault rfl
    · rw [hd] at hresolve
      cases hresolve
  | fault _ => exact hx.elim

/-- A definition may be refused, but is never a fault. -/
theorem define_error {x : Definition} {w : Catalog × Bench} (h : (define x w).1 = .error e) :
    e.IsRefusal := by
  have honto : ∀ r, (w.2.onCatalog r).1 = .error e → e.IsRefusal := by
    rintro ⟨_ | _, c, store⟩ hr <;> cases hr
    trivial
  cases x with
  | table => exact honto _ h
  | metric idx => exact honto _ h
  | entry d label number => exact register_error h

end Bench

namespace Session

inductive Action where
  | define (store : Store) (header : HostHeader) (discovery : List Sample)
  | exportRecord (store : Store) (sample : Sample)
  | attachReader (instances : Registry)
  | importValueSet (set : ValueSet)
  | importValue (id : MetricId) (reading : Reading)
  | importRecord (record : FetchedRecord)
  | endRecord (timestamp : Int)
  | close

/-- The outcome of an action, and the session after it whatever the outcome. -/
def perform (s : Session) : Action → Attempt SessionError Session
  | .define store header discovery =>
    ((s.define store header discovery).1, (s.define store header discovery).2.1)
  | .exportRecord store sample =>
    ((s.exportRecord store sample).1, (s.exportRecord store sample).2.1)
  | .attachReader instances => s.attachReader instances
  | .importValueSet set => s.importValueSet set
  | .importValue id reading => s.importValue id reading
  | .importRecord record =>
    ((s.importRecord record).1.map fun _ => (), (s.importRecord record).2)
  | .endRecord timestamp => ((s.endRecord timestamp).1.map fun _ => (), (s.endRecord timestamp).2)
  | .close => s.close

def catalogAccess (s : Session) (g : Group) : Access := .catalog g.index s.catalogs.length

/-- What the definition of a group accesses, where it is taken. -/
def groupDefineAccesses (discovery : List Sample) (g : Group) (w : Session × Store) :
    List Access :=
  if w.1.takes g then
    w.1.catalogAccess g :: logAll Bench.define Bench.defineAccesses
      (g.spec.define ⟨w.1.acts, w.1.config, discovery⟩)
        (w.1.catalogOf g, ⟨w.1.registry, w.2⟩)
  else []

/-- What a group accesses when a sample is exported: the metrics that it asks for, the records it
emits, and the metrics of the values. -/
def groupExportAccesses (g : Group) (w : Session × Store) : List Access :=
  w.1.catalogAccess g ::
    (g.consulted.map (w.1.catalogOf g).access ++ g.emitAccesses (w.1.view g) ++
      logAll (Bench.emit (w.1.catalogOf g)) (Bench.emitAccesses (w.1.catalogOf g)) (w.1.emissions g)
        ⟨w.1.registry, w.2⟩)

/-- What readings of a metric access, each in the record that the readings before it have built. -/
def readingAccesses (s : Session) (id : MetricId) (readings : List Reading) : List Access :=
  match s.routes.find? id with
  | some (g, idx) =>
    let view : ImportView := ⟨g.metrics, s.registry, .curr⟩
    s.catalogAccess g :: readings.zipIdx.flatMap fun (r, n) =>
      (s.catalogOf g).access idx ::
        g.touched view idx r (g.spec.absorb view idx (readings.take n) s.acts)
  | none => []

/-- What the end of a record accesses: every group ends its part, and the slot is read. -/
def endAccesses (s : Session) : List Access :=
  logFold (fun acts g => g.spec.finish .curr acts)
      (fun acts g => s.catalogAccess g :: g.finishAccesses .curr acts) Group.all s.acts ++
    (finish s.acts).unloadAccesses .curr

/-- What is accessed where an operation is allowed. -/
def accessesIn (s : Session) (op : Operation) (accesses : List Access) : List Access :=
  match s.check op with
  | .ok _ => accesses
  | .error _ => []

/-- Everything that an action accesses. -/
def accesses (s : Session) : Action → List Access
  | .define store header discovery =>
    s.accessesIn .define (logAll (defineGroup discovery) (groupDefineAccesses discovery) Group.all
      (s.planned header discovery, store))
  | .exportRecord store sample =>
    s.accessesIn .exportRecord (s.acts.loadAccesses s.slot sample ++
      logAll exportGroup groupExportAccesses s.defined (s.loaded sample, store))
  | .attachReader _ | .close => []
  | .importValueSet set => s.accessesIn .importValueSet (s.readingAccesses set.id set.readings)
  | .importValue id reading => s.accessesIn .importValue (s.readingAccesses id [reading])
  | .importRecord record =>
    let built := (attemptAll (fun set s => s.importValueSet set) record.sets s).2
    logAll (fun set s => s.importValueSet set)
        (fun set s => s.accessesIn .importValueSet (s.readingAccesses set.id set.readings))
        record.sets s ++
      built.accessesIn .endRecord built.endAccesses
  | .endRecord _ => s.accessesIn .endRecord s.endAccesses

variable {s : Session} {w : Session × Store} {cause : Fault}

theorem defineGroup_error {discovery : List Sample} {g : Group} {e : SessionError}
    (h : (defineGroup discovery g w).1 = .error e) : e.IsRefusal := by
  obtain ⟨s, store⟩ := w
  by_cases ht : s.takes g
  · rcases hrun : attemptAll Bench.define (g.spec.define ⟨s.acts, s.config, discovery⟩)
      (s.catalogOf g, ⟨s.registry, store⟩) with ⟨_ | _, c, b⟩ <;>
      simp only [defineGroup, if_pos ht, hrun] at h <;> cases h
    obtain ⟨x, -, v, hx⟩ := exists_of_attemptAll_error (congrArg Prod.fst hrun)
    exact Bench.define_error hx
  · simp only [defineGroup, if_neg ht] at h
    cases h

theorem exportGroup_ne_fault {g : Group} (h : ∀ x ∈ groupExportAccesses g w, x.InRange) :
    (exportGroup g w).1 ≠ .error (.fault cause) := by
  have hemit : ∀ e ∈ w.1.emissions g, e.Indexed g.metrics.length := by
    refine Group.indexed_of_inRange g fun x hx => h x ?_
    exact List.mem_cons_of_mem _ (List.mem_append_left _ (List.mem_append_right _ hx))
  have hput := fun x hx => h x (List.mem_cons_of_mem _ (List.mem_append_right _ hx))
  rw [exportGroup_eq]
  exact attemptAll_outcome (O := fun o => o ≠ .error (.fault cause)) hput (by simp)
    fun e he b hb => Bench.emit_ne_fault (hemit e he) hb

theorem check_error {op : Operation} {e : SessionError} (h : s.check op = .error e) :
    e = .invalidState s.phase op := by
  unfold check at h
  split at h
  · cases h
  · cases h
    rfl

theorem accessesIn_of_check {op : Operation} (h : s.check op = .ok ()) (accesses : List Access) :
    s.accessesIn op accesses = accesses := by
  rw [accessesIn, h]

/-- A definition is not allowed, or a step of it is refused. -/
theorem define_error {store : Store} {header : HostHeader} {discovery : List Sample}
    {e : SessionError}
    (h : (s.define store header discovery).1 = .error e) :
    s.check .define = .error e ∨ e.IsRefusal := by
  rcases hc : s.check .define with e' | _
  · rw [define, hc] at h
    exact Or.inl h
  · have hphase : s.phase = .uninitialized := by
      simpa [Operation.allowedIn] using phase_of_check hc
    rw [define_of_uninitialized (w := (s, store)) hphase] at h
    rcases hrun : attemptAll (defineGroup discovery) Group.all (s.planned header discovery, store)
      with ⟨_ | _, t, store'⟩ <;> rw [hrun] at h <;> cases h
    obtain ⟨g, -, w, hg⟩ := exists_of_attemptAll_error (congrArg Prod.fst hrun)
    exact Or.inr (defineGroup_error hg)

theorem define_ne_fault (s : Session) (store : Store) (header : HostHeader)
    (discovery : List Sample) :
    (s.define store header discovery).1 ≠ .error (.fault cause) := by
  intro h
  rcases define_error h with hc | hrefusal
  · cases check_error hc
  · exact hrefusal.ne_fault rfl

theorem exportRecord_ne_fault {store : Store} {sample : Sample}
    (h : ∀ x ∈ s.accesses (.exportRecord store sample), x.InRange) :
    (s.exportRecord store sample).1 ≠ .error (.fault cause) := by
  rcases hc : s.check .exportRecord with e | _
  · obtain rfl := check_error hc
    simp [exportRecord, hc]
  · rw [accesses, accessesIn_of_check hc] at h
    have hgroups : (attemptAll exportGroup s.defined (s.loaded sample, store)).1 ≠
        .error (.fault cause) :=
      attemptAll_outcome (O := fun o => o ≠ .error (.fault cause))
        (fun x hx => h x (List.mem_append_right _ hx)) (by simp) fun _ _ _ hw =>
          exportGroup_ne_fault hw
    rw [exportRecord_eq hc]
    rcases hrun : attemptAll exportGroup s.defined (s.loaded sample, store)
      with ⟨_ | _, t, store'⟩ <;>
      rw [hrun] at hgroups
    · exact hgroups
    · dsimp only
      split <;> simp

theorem importValueSet_ne_fault (s : Session) (set : ValueSet) :
    (s.importValueSet set).1 ≠ .error (.fault cause) := by
  rcases hc : s.check .importValueSet with e | _
  · obtain rfl := check_error hc
    simp [importValueSet, hc]
  · simp [importValueSet, hc]

theorem endRecord_ne_fault (h : ∀ x ∈ s.accessesIn .endRecord s.endAccesses, x.InRange)
    (timestamp : Int) : (s.endRecord timestamp).1 ≠ .error (.fault cause) := by
  rcases hc : s.check .endRecord with e | _
  · obtain rfl := check_error hc
    simp [endRecord, hc]
  · rw [accessesIn_of_check hc] at h
    obtain ⟨sample, hsample⟩ := Activities.unload_of_inRange
      (fun x hx => h x (List.mem_append_right _ hx)) timestamp
    simp [endRecord, hc, hsample]

theorem importRecord_ne_fault {record : FetchedRecord}
    (h : ∀ x ∈ s.accesses (.importRecord record), x.InRange) :
    (s.importRecord record).1 ≠ .error (.fault cause) := by
  have hsets : (attemptAll (fun set s => s.importValueSet set) record.sets s).1 ≠
      .error (.fault cause) :=
    attemptAll_outcome (O := fun o => o ≠ .error (.fault cause))
      (fun x hx => h x (List.mem_append_left _ hx)) (by simp) fun set _ s _ =>
        importValueSet_ne_fault s set
  have hend := fun x hx => h x (List.mem_append_right _ hx)
  rcases hrun : attemptAll (fun set s => s.importValueSet set) record.sets s with ⟨e | _, t⟩ <;>
    rw [hrun] at hsets hend
  · simp only [importRecord, hrun]
    simpa using hsets
  · simp only [importRecord, hrun]
    exact endRecord_ne_fault hend _

/-- An action that accesses nothing out of range does not end with a fault. -/
theorem perform_of_inRange (a : Action) (h : ∀ x ∈ s.accesses a, x.InRange) :
    (s.perform a).1 ≠ .error (.fault cause) := by
  have hmap : ∀ o : Except SessionError Sample, o ≠ .error (.fault cause) →
      (o.map fun _ => ()) ≠ .error (.fault cause) := by
    rintro (e | x) ho
    · simpa [Except.map] using ho
    · simp [Except.map]
  cases a with
  | define store header discovery => exact define_ne_fault s store header discovery
  | exportRecord store sample => exact exportRecord_ne_fault h
  | attachReader instances =>
    rcases hc : s.check .attachReader with e | _
    · obtain rfl := check_error hc
      simp [perform, attachReader, hc]
    · simp [perform, attachReader, hc]
  | importValueSet set => exact importValueSet_ne_fault s set
  | importValue id reading =>
    rcases hc : s.check .importValue with e | _
    · obtain rfl := check_error hc
      simp [perform, importValue, hc]
    · simp [perform, importValue, hc]
  | importRecord record => exact hmap _ (importRecord_ne_fault h)
  | endRecord timestamp => exact hmap _ (endRecord_ne_fault h timestamp)
  | close =>
    rcases hc : s.check .close with e | _
    · obtain rfl := check_error hc
      simp [perform, close, hc]
    · simp [perform, close, hc]

end Session

end ActivityArchive
