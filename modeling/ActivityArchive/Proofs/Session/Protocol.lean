import ActivityArchive.Proofs.Session.InRange
import Mathlib.Logic.Relation

/-!
The phases of a session. An operation is rejected where its phase does not allow it and nowhere
else, whatever its arguments are, and then nothing is changed (`rejected_iff`, `perform_of_notMem`).
No step inside of an operation ends as if the operation was rejected, so a failure after the check
of the phase is told apart from a rejection. Phases change along the arrows of `Arrow` only; what
holds in all phases that can be reached from one on is what the session can no longer do.
-/
namespace ActivityArchive

open Record

/-- The arrows between the phases, each with the operation that takes it. -/
inductive Arrow : Phase → Operation → Phase → Prop
  | define : Arrow .uninitialized .define .catalogsDefined
  | firstExport : Arrow .catalogsDefined .exportRecord .encoding
  | nextExport : Arrow .encoding .exportRecord .encoding
  | attach : Arrow .uninitialized .attachReader .decoding
  | attachDefined : Arrow .catalogsDefined .attachReader .decoding
  | close {p : Phase} (hp : p ≠ .closed) : Arrow p .close .closed

namespace Arrow

variable {p q : Phase} {op : Operation}

/-- An operation takes an arrow only where it is allowed. -/
theorem allowed (h : Arrow p op q) : p ∈ op.allowedIn := by
  cases h with
  | close hp => cases p <;> first | decide | exact absurd rfl hp
  | _ => decide

theorem of_encoding (h : Arrow .encoding op q) : q = .encoding ∨ q = .closed := by
  cases h with
  | nextExport => exact Or.inl rfl
  | close => exact Or.inr rfl

theorem of_decoding (h : Arrow .decoding op q) : q = .closed := by
  cases h with
  | close => rfl

theorem not_of_closed : ¬ Arrow .closed op q := by
  intro h
  cases h with
  | close hp => exact hp rfl

end Arrow

namespace Session

variable {s : Session} {a : Action} {p : Phase} {op : Operation}

theorem exportGroup_ne_rejected (g : Group) (w : Session × Store) :
    (exportGroup g w).1 ≠ .error (.invalidState p op) := by
  rw [exportGroup_eq]
  intro herror
  obtain ⟨x, -, b, hx⟩ := exists_of_attemptAll_error herror
  rcases Bench.emit_error hx with hrefusal | ⟨cause, hfault⟩
  · exact hrefusal.ne_invalidState rfl
  · cases hfault

theorem check_of_mem (h : s.phase ∈ op.allowedIn) : s.check op = .ok () := if_pos h

theorem check_of_notMem (h : s.phase ∉ op.allowedIn) :
    s.check op = .error (.invalidState s.phase op) :=
  if_neg h

theorem define_ne_rejected (h : s.phase ∈ Operation.define.allowedIn) (store : Store)
    (header : HostHeader) (discovery : List Sample) :
    (s.define store header discovery).1 ≠ .error (.invalidState p op) := by
  intro herror
  rcases define_error herror with hc | hrefusal
  · rw [check_of_mem h] at hc
    cases hc
  · exact hrefusal.ne_invalidState rfl

theorem exportRecord_ne_rejected (h : s.phase ∈ Operation.exportRecord.allowedIn) (store : Store)
    (sample : Sample) : (s.exportRecord store sample).1 ≠ .error (.invalidState p op) := by
  rw [exportRecord_eq (check_of_mem h)]
  rcases hrun : attemptAll exportGroup s.defined (s.loaded sample, store)
    with ⟨e | _, t, store'⟩
  · intro he
    cases he
    obtain ⟨g, -, w, hg⟩ := exists_of_attemptAll_error (congrArg Prod.fst hrun)
    exact exportGroup_ne_rejected g w hg
  · dsimp only
    split <;> simp

theorem absorb_phase (s : Session) (id : MetricId) (readings : List Reading) :
    (s.absorb id readings).phase = s.phase := by
  unfold absorb
  split <;> rfl

theorem importSets_ok (h : s.phase = .decoding) (sets : List ValueSet) :
    (attemptAll (fun set s => s.importValueSet set) sets s).1 = .ok () ∧
      (attemptAll (fun set s => s.importValueSet set) sets s).2.phase = .decoding := by
  refine attemptAll_ok (P := fun s : Session => s.phase = .decoding) h fun set _ s hs => ?_
  have hcheck : s.check .importValueSet = .ok () := check_of_mem (by rw [hs]; decide)
  rw [importValueSet, hcheck]
  exact ⟨rfl, (absorb_phase s _ _).trans hs⟩

theorem endRecord_ne_rejected (h : s.phase = .decoding) (timestamp : Int) :
    (s.endRecord timestamp).1 ≠ .error (.invalidState p op) := by
  have hcheck : s.check .endRecord = .ok () := check_of_mem (by rw [h]; decide)
  rw [endRecord, hcheck]
  dsimp only
  split <;> simp

/-- The operation that an action stands for: a record is imported by the operations that it is made
of, the first of which is checked first. -/
def Action.operation : Action → Operation
  | .define .. => .define
  | .exportRecord .. => .exportRecord
  | .attachReader _ => .attachReader
  | .importValueSet _ => .importValueSet
  | .importValue .. => .importValue
  | .importRecord ⟨_, []⟩ => .endRecord
  | .importRecord ⟨_, _ :: _⟩ => .importValueSet
  | .endRecord _ => .endRecord
  | .close => .close

/-- The store that an action is called with. -/
def Action.store? : Action → Option Store
  | .define store _ _ => some store
  | .exportRecord store _ => some store
  | _ => none

/-- The store that an action leaves behind, whether it succeeds or not. -/
def storeAfter? (s : Session) : Action → Option Store
  | .define store header discovery => some (s.define store header discovery).2.2
  | .exportRecord store sample => some (s.exportRecord store sample).2.2
  | _ => none

/-- The action was not allowed in the phase of the session. -/
def Rejected (s : Session) (a : Action) : Prop :=
  ∃ p op, (s.perform a).1 = .error (.invalidState p op)

/-- An operation that is not allowed says so and leaves everything as it is. -/
theorem perform_of_notMem (h : s.phase ∉ a.operation.allowedIn) :
    (s.perform a).1 = .error (.invalidState s.phase a.operation) ∧ (s.perform a).2 = s ∧
      s.storeAfter? a = a.store? := by
  cases a with
  | define store header discovery =>
    have hcheck : s.check .define = _ := check_of_notMem h
    have hsame : s.define store header discovery =
        (.error (.invalidState s.phase .define), s, store) := by rw [define, hcheck]
    rw [perform, storeAfter?, hsame]
    exact ⟨rfl, rfl, rfl⟩
  | exportRecord store sample =>
    have hcheck : s.check .exportRecord = _ := check_of_notMem h
    have hsame : s.exportRecord store sample =
        (.error (.invalidState s.phase .exportRecord), s, store) := by rw [exportRecord, hcheck]
    rw [perform, storeAfter?, hsame]
    exact ⟨rfl, rfl, rfl⟩
  | attachReader instances =>
    have hcheck : s.check .attachReader = _ := check_of_notMem h
    rw [perform, attachReader, hcheck]
    exact ⟨rfl, rfl, rfl⟩
  | importValueSet set =>
    have hcheck : s.check .importValueSet = _ := check_of_notMem h
    rw [perform, importValueSet, hcheck]
    exact ⟨rfl, rfl, rfl⟩
  | importValue id reading =>
    have hcheck : s.check .importValue = _ := check_of_notMem h
    rw [perform, importValue, hcheck]
    exact ⟨rfl, rfl, rfl⟩
  | importRecord record =>
    obtain ⟨timestamp, _ | ⟨set, sets⟩⟩ := record
    · have hcheck : s.check .endRecord = _ := check_of_notMem h
      have hsame : s.importRecord ⟨timestamp, []⟩ =
          (.error (.invalidState s.phase .endRecord), s) := by
        rw [importRecord]
        show s.endRecord timestamp = _
        rw [endRecord, hcheck]
      rw [perform, hsame]
      exact ⟨rfl, rfl, rfl⟩
    · have hcheck : s.check .importValueSet = _ := check_of_notMem h
      have hfirst : s.importValueSet set = (.error (.invalidState s.phase .importValueSet), s) := by
        rw [importValueSet, hcheck]
      have hsame : s.importRecord ⟨timestamp, set :: sets⟩ =
          (.error (.invalidState s.phase .importValueSet), s) := by
        rw [importRecord, attemptAll_cons_error hfirst]
      rw [perform, hsame]
      exact ⟨rfl, rfl, rfl⟩
  | endRecord timestamp =>
    have hcheck : s.check .endRecord = _ := check_of_notMem h
    rw [perform, endRecord, hcheck]
    exact ⟨rfl, rfl, rfl⟩
  | close =>
    have hcheck : s.check .close = _ := check_of_notMem h
    rw [perform, close, hcheck]
    exact ⟨rfl, rfl, rfl⟩

theorem phase_of_importRecord {record : FetchedRecord}
    (h : s.phase ∈ (Action.importRecord record).operation.allowedIn) : s.phase = .decoding := by
  obtain ⟨timestamp, _ | ⟨set, sets⟩⟩ := record <;> exact List.mem_singleton.mp h

theorem importRecord_ne_rejected (h : s.phase = .decoding) (record : FetchedRecord) :
    (s.importRecord record).1 ≠ .error (.invalidState p op) := by
  obtain ⟨hok, hphase⟩ := importSets_ok h record.sets
  rcases hrun : attemptAll (fun set s => s.importValueSet set) record.sets s with ⟨_ | _, t⟩ <;>
    rw [hrun] at hok hphase
  · cases hok
  · rw [importRecord, hrun]
    exact endRecord_ne_rejected hphase _

/-- An operation that is allowed may fail, but is not rejected. -/
theorem perform_of_mem (h : s.phase ∈ a.operation.allowedIn) :
    (s.perform a).1 ≠ .error (.invalidState p op) := by
  have hmap : ∀ o : Except SessionError Sample, o ≠ .error (.invalidState p op) →
      (o.map fun _ => ()) ≠ .error (.invalidState p op) := by
    rintro (e | x) ho
    · simpa [Except.map] using ho
    · simp [Except.map]
  cases a with
  | define store header discovery => exact define_ne_rejected h store header discovery
  | exportRecord store sample => exact exportRecord_ne_rejected h store sample
  | attachReader instances =>
    have hcheck : s.check .attachReader = _ := check_of_mem h
    rw [perform, attachReader, hcheck]
    simp
  | importValueSet set =>
    have hcheck : s.check .importValueSet = _ := check_of_mem h
    rw [perform, importValueSet, hcheck]
    simp
  | importValue id reading =>
    have hcheck : s.check .importValue = _ := check_of_mem h
    rw [perform, importValue, hcheck]
    simp
  | importRecord record => exact hmap _ (importRecord_ne_rejected (phase_of_importRecord h) record)
  | endRecord timestamp => exact hmap _ (endRecord_ne_rejected (List.mem_singleton.mp h) timestamp)
  | close =>
    have hcheck : s.check .close = _ := check_of_mem h
    rw [perform, close, hcheck]
    simp

theorem rejected_iff (s : Session) (a : Action) :
    Rejected s a ↔ s.phase ∉ a.operation.allowedIn :=
  ⟨fun ⟨_, _, hrejected⟩ hmem => perform_of_mem hmem hrejected,
    fun h => ⟨_, _, (perform_of_notMem h).1⟩⟩

theorem endRecord_phase (s : Session) (timestamp : Int) :
    (s.endRecord timestamp).2.phase = s.phase := by
  unfold endRecord
  split
  · rfl
  · dsimp only
    split <;> rfl

theorem importRecord_phase (h : s.phase = .decoding) (record : FetchedRecord) :
    (s.importRecord record).2.phase = s.phase := by
  obtain ⟨-, hphase⟩ := importSets_ok h record.sets
  unfold importRecord
  split <;> rename_i hrun <;> rw [hrun] at hphase
  · rw [endRecord_phase, h]
    exact hphase
  · rw [h]
    exact hphase

/-- One action keeps the phase or takes an arrow, whether it succeeds or not. -/
theorem phase_perform (s : Session) (a : Action) :
    (s.perform a).2.phase = s.phase ∨ Arrow s.phase a.operation (s.perform a).2.phase := by
  by_cases hmem : s.phase ∈ a.operation.allowedIn
  · cases a with
    | define store header discovery =>
      have hphase : s.phase = .uninitialized := List.mem_singleton.mp hmem
      show (s.define store header discovery).2.1.phase = s.phase ∨
        Arrow s.phase .define (s.define store header discovery).2.1.phase
      rcases define_cases s store header discovery with hsame | ⟨-, hstay | hmove, -⟩
      · exact Or.inl (congrArg phase hsame)
      · exact Or.inl (hstay.trans hphase.symm)
      · rw [hmove, hphase]
        exact Or.inr .define
    | exportRecord store sample =>
      show (s.exportRecord store sample).2.1.phase = s.phase ∨
        Arrow s.phase .exportRecord (s.exportRecord store sample).2.1.phase
      have hphase : s.phase = .catalogsDefined ∨ s.phase = .encoding := by
        simpa [Action.operation, Operation.allowedIn] using hmem
      rcases exportRecord_cases s store sample with hsame | ⟨hmove, -⟩
      · exact Or.inl (congrArg phase hsame)
      · rw [hmove]
        rcases hphase with hphase | hphase <;> rw [hphase]
        · exact Or.inr .firstExport
        · exact Or.inr .nextExport
    | attachReader instances =>
      have hphase : s.phase = .uninitialized ∨ s.phase = .catalogsDefined := by
        simpa [Action.operation, Operation.allowedIn] using hmem
      have hcheck : s.check .attachReader = _ := check_of_mem hmem
      rw [perform, attachReader, hcheck]
      rcases hphase with hphase | hphase <;> rw [hphase]
      · exact Or.inr .attach
      · exact Or.inr .attachDefined
    | importValueSet set =>
      have hcheck : s.check .importValueSet = _ := check_of_mem hmem
      rw [perform, importValueSet, hcheck]
      exact Or.inl (absorb_phase s _ _)
    | importValue id reading =>
      have hcheck : s.check .importValue = _ := check_of_mem hmem
      rw [perform, importValue, hcheck]
      exact Or.inl (absorb_phase s _ _)
    | importRecord record => exact Or.inl (importRecord_phase (phase_of_importRecord hmem) record)
    | endRecord timestamp => exact Or.inl (endRecord_phase s timestamp)
    | close =>
      have hcheck : s.check .close = _ := check_of_mem hmem
      rw [perform, close, hcheck]
      refine Or.inr (.close fun hclosed => ?_)
      rw [hclosed] at hmem
      exact absurd hmem (by decide : Phase.closed ∉ Operation.close.allowedIn)
  · exact Or.inl (congrArg phase (perform_of_notMem hmem).2.1)

/-- Phases that no arrow leads out of are not left by any actions. -/
theorem performAll_within {P : Phase → Prop} (hP : ∀ p op q, P p → Arrow p op q → P q)
    (h : P s.phase) (actions : List Action) : P (s.performAll actions).phase := by
  induction actions generalizing s with
  | nil => exact h
  | cons a actions ih =>
    refine ih ?_
    rcases phase_perform s a with hsame | harrow
    · exact hsame ▸ h
    · exact hP _ _ _ h harrow

theorem performAll_of_encoding (h : s.phase = .encoding) (later : List Action) :
    (s.performAll later).phase = .encoding ∨ (s.performAll later).phase = .closed := by
  refine performAll_within (P := fun p => p = .encoding ∨ p = .closed) ?_ (Or.inl h) later
  rintro p op q (rfl | rfl) harrow
  · exact harrow.of_encoding
  · exact absurd harrow Arrow.not_of_closed

theorem performAll_of_decoding (h : s.phase = .decoding) (later : List Action) :
    (s.performAll later).phase = .decoding ∨ (s.performAll later).phase = .closed := by
  refine performAll_within (P := fun p => p = .decoding ∨ p = .closed) ?_ (Or.inl h) later
  rintro p op q (rfl | rfl) harrow
  · exact Or.inr harrow.of_decoding
  · exact absurd harrow Arrow.not_of_closed

theorem performAll_of_closed (h : s.phase = .closed) (later : List Action) :
    (s.performAll later).phase = .closed := by
  refine performAll_within (P := fun p => p = .closed) ?_ h later
  rintro p op q rfl harrow
  exact absurd harrow Arrow.not_of_closed

/-- What a session in any phase does now and can no longer do later. -/
structure Orderly (s : Session) : Prop where
  follows : ∀ a, (s.perform a).2.phase = s.phase ∨
    Arrow s.phase a.operation (s.perform a).2.phase
  /-- The operations of the arrows do not succeed without taking one. -/
  moves : ∀ a, a.operation ∈ [.define, .exportRecord, .attachReader, .close] →
    (s.perform a).1 = .ok () → Arrow s.phase a.operation (s.perform a).2.phase
  rejected_iff : ∀ a, Rejected s a ↔ s.phase ∉ a.operation.allowedIn
  answers : ∀ a, Rejected s a → (s.perform a).1 = .error (.invalidState s.phase a.operation)
  unchanged : ∀ a, Rejected s a → (s.perform a).2 = s ∧ s.storeAfter? a = a.store?
  /-- An export that passed its check is followed by no import, whether it succeeded or not. -/
  encodes : ∀ store sample, s.check .exportRecord = .ok () → ∀ later a,
    a.operation ∈ [.attachReader, .importValueSet, .importValue, .endRecord] →
      Rejected ((s.perform (.exportRecord store sample)).2.performAll later) a
  decodes : ∀ instances, (s.perform (.attachReader instances)).1 = .ok () → ∀ later a,
    a.operation ∈ [.define, .exportRecord] →
      Rejected ((s.perform (.attachReader instances)).2.performAll later) a
  closes : ∀ later a, Rejected ((s.perform .close).2.performAll later) a

theorem phase_define {store : Store} {header : HostHeader} {discovery : List Sample}
    (h : (s.define store header discovery).1 = .ok ()) :
    (s.define store header discovery).2.1.phase = .catalogsDefined := by
  rcases hcheck : s.check .define with e | _
  · rw [define, hcheck] at h
    cases h
  · have hphase : s.phase = .uninitialized := List.mem_singleton.mp (phase_of_check hcheck)
    rw [define_of_uninitialized (w := (s, store)) hphase] at h ⊢
    rcases hrun : attemptAll (defineGroup discovery) Group.all (s.planned header discovery, store)
      with ⟨_ | _, t, store'⟩
    · rw [hrun] at h
      cases h
    · rfl

theorem phase_exportRecord (h : s.check .exportRecord = .ok ()) (store : Store) (sample : Sample) :
    (s.perform (.exportRecord store sample)).2.phase = .encoding := by
  show (s.exportRecord store sample).2.1.phase = .encoding
  have hgroups : (attemptAll exportGroup s.defined (s.loaded sample, store)).2.1.phase =
      .encoding :=
    attemptAll_preserves (P := fun w : Session × Store => w.1.phase = .encoding) rfl
      fun _ _ _ hw => hw
  rw [exportRecord_eq h]
  rcases hrun : attemptAll exportGroup s.defined (s.loaded sample, store)
    with ⟨_ | _, t, store'⟩ <;>
    rw [hrun] at hgroups
  · exact hgroups
  · dsimp only
    split <;> exact hgroups

theorem phase_attachReader {instances : Registry}
    (h : (s.perform (.attachReader instances)).1 = .ok ()) :
    (s.perform (.attachReader instances)).2.phase = .decoding := by
  rw [perform, attachReader] at h ⊢
  split at h
  · rfl
  · cases h

theorem phase_close (s : Session) : (s.perform .close).2.phase = .closed := by
  rw [perform, close]
  by_cases hclosed : s.phase = .closed
  · rw [check_of_notMem (by rw [hclosed]; decide)]
    exact hclosed
  · rw [check_of_mem (Arrow.close hclosed).allowed]

/-- A success is an arrow: no phase that allows one of these operations is the phase it ends in, but
for an export after an export. -/
theorem arrow_of_ok (ha : a.operation ∈ [.define, .exportRecord, .attachReader, .close])
    (hok : (s.perform a).1 = .ok ()) : Arrow s.phase a.operation (s.perform a).2.phase := by
  have hmem : s.phase ∈ a.operation.allowedIn := by
    by_contra h
    rw [(perform_of_notMem h).1] at hok
    cases hok
  rcases phase_perform s a with hstay | harrow
  · cases a with
    | define store header discovery =>
      have hphase : s.phase = .uninitialized := List.mem_singleton.mp hmem
      have hmove : (s.perform (.define store header discovery)).2.phase = .catalogsDefined :=
        phase_define hok
      rw [hmove, hphase] at hstay
      cases hstay
    | exportRecord store sample =>
      rw [phase_exportRecord (check_of_mem hmem)] at hstay ⊢
      exact hstay ▸ .nextExport
    | attachReader instances =>
      rw [phase_attachReader hok] at hstay
      rw [← hstay] at hmem
      exact absurd hmem (by decide : Phase.decoding ∉ Operation.attachReader.allowedIn)
    | close =>
      rw [phase_close] at hstay
      rw [← hstay] at hmem
      exact absurd hmem (by decide : Phase.closed ∉ Operation.close.allowedIn)
    | importRecord record =>
      obtain ⟨timestamp, _ | ⟨set, sets⟩⟩ := record <;> simp [Action.operation] at ha
    | _ => simp [Action.operation] at ha
  · exact harrow

theorem orderly (s : Session) : Orderly s where
  follows := phase_perform s
  moves a ha hok := arrow_of_ok ha hok
  rejected_iff := rejected_iff s
  answers a h := (perform_of_notMem ((rejected_iff s a).mp h)).1
  unchanged a h := (perform_of_notMem ((rejected_iff s a).mp h)).2
  encodes store sample hcheck later a ha := by
    rw [rejected_iff]
    simp only [List.mem_cons, List.not_mem_nil, or_false] at ha
    rcases performAll_of_encoding (phase_exportRecord hcheck store sample) later with hphase
      | hphase <;>
      rcases ha with ha | ha | ha | ha <;> rw [ha, hphase] <;> decide
  decodes instances hok later a ha := by
    rw [rejected_iff]
    simp only [List.mem_cons, List.not_mem_nil, or_false] at ha
    rcases performAll_of_decoding (phase_attachReader hok) later with hphase | hphase <;>
      rcases ha with ha | ha <;> rw [ha, hphase] <;> decide
  closes later a := by
    rw [rejected_iff, performAll_of_closed (phase_close s) later]
    cases a.operation <;> decide

/-- However a new session is called, its phase has come along the arrows, and its calls are orderly.
-/
theorem protocol_followed (config : Config) (actions : List Action) :
    ∃ s, Session.new config = .ok s ∧
      Relation.ReflTransGen (fun p q => ∃ op, Arrow p op q) .uninitialized
        (s.performAll actions).phase ∧
      Orderly (s.performAll actions) := by
  refine ⟨initial config, new_eq config, ?_, orderly _⟩
  exact performAll_within (fun p op q hp harrow => hp.tail ⟨op, harrow⟩) .refl actions

end Session

end ActivityArchive
