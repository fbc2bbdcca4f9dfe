import ActivityArchive.Proofs.Group.Alike
import ActivityArchive.Proofs.Session.Importing
import ActivityArchive.Proofs.Session.Reachability

/-!
Imports do not remember. Whatever a session went through before, once no record is being built it
looks like a session that never imported anything, so that two sessions with the same instances make
the same sample of a record (`imports_forget`).
-/
namespace ActivityArchive.Session

open Activities Record

/-- Sessions after any calls, and whether a record is being built: whether readings were taken since
the last record was ended. A call that is refused changes nothing. -/
inductive Past : Session → Bool → Prop
  | new {config : Config} {s : Session} : Session.new config = .ok s → Past s false
  | define {s : Session} {building : Bool} (store : Store) (header : HostHeader)
    (discovery : List Sample) :
    Past s building → Past (s.define store header discovery).2.1 building
  | exportRecord {s : Session} {building : Bool} (store : Store) (sample : Sample) :
    Past s building → Past (s.exportRecord store sample).2.1 building
  | attachReader {s : Session} {building : Bool} (instances : Registry) :
    Past s building → Past (s.attachReader instances).2 building
  | importValueSet {s s' : Session} {building : Bool} (set : ValueSet) :
    Past s building → s.importValueSet set = (.ok (), s') → Past s' true
  | importValue {s s' : Session} {building : Bool} (id : MetricId) (reading : Reading) :
    Past s building → s.importValue id reading = (.ok (), s') → Past s' true
  | endRecord {s : Session} {building : Bool} (timestamp : Int) :
    Past s building → Past (s.endRecord timestamp).2 false
  | close {s : Session} {building : Bool} : Past s building → Past s.close.2 building

/-- A session that can still import looks empty where records are built, unless one is being built.
-/
structure Swept (s : Session) (building : Bool) : Prop where
  routes : s.routes = ⟨Group.places⟩
  early : s.phase = .uninitialized ∨ s.phase = .catalogsDefined →
    building = false ∧ Alike .curr .empty s.acts
  decoding : s.phase = .decoding →
    s.acts.irq.Showing .curr ∧ (building = false → Alike .curr .empty s.acts)

variable {s s' : Session} {building : Bool}

/-- A definition plans, and selects CPUs, but it leaves every slot as it is. -/
theorem alike_planned (h : Alike .curr .empty s.acts) (header : HostHeader)
    (discovery : List Sample) : Alike .curr .empty (s.planned header discovery).acts := by
  have hscan : Alike .curr .empty (discovery.foldl Activities.scan { s.acts with header }) := by
    have hstart : Alike .curr .empty { s.acts with header } := by
      intro t
      cases t with
      | header => trivial
      | single k => exact h (.single k)
      | multi k => exact h (.multi k)
      | interrupts => exact h .interrupts
    generalize ({ s.acts with header } : Activities) = a at hstart
    induction discovery generalizing a with
    | nil => exact hstart
    | cons x discovery ih => exact ih _ (alike_scan hstart x)
  intro t
  cases t with
  | header => trivial
  | single k => exact hscan (.single k)
  | multi k =>
    have hk := hscan (.multi k)
    cases k <;> exact ⟨hk.observed, hk.recordAt, hk.room, hk.room'⟩
  | interrupts =>
    have hirq : Interrupts.Alike .curr _ _ := hscan .interrupts
    exact ⟨hirq.showing, ⟨⟨hirq.showing'.named.nodup, hirq.showing'.named.sized,
      hirq.showing'.named.columns⟩, hirq.showing'.blank⟩, hirq.rows, hirq.countAt⟩

theorem define_cases (s : Session) (store : Store) (header : HostHeader) (discovery : List Sample) :
    (s.define store header discovery).2.1 = s ∨
      s.phase = .uninitialized ∧
      ((s.define store header discovery).2.1.phase = .uninitialized ∨
        (s.define store header discovery).2.1.phase = .catalogsDefined) ∧
      (s.define store header discovery).2.1.routes = s.routes ∧
      (s.define store header discovery).2.1.acts = (s.planned header discovery).acts := by
  by_cases hphase : s.phase = .uninitialized
  · obtain ⟨hsame, hroutes, hacts⟩ :=
      defineAll_keeps discovery Group.all (s.planned header discovery, store)
    refine Or.inr ⟨hphase, ?_⟩
    rw [define_of_uninitialized (w := (s, store)) hphase]
    rcases hrun : attemptAll (defineGroup discovery) Group.all (s.planned header discovery, store)
      with ⟨_ | _, t, store'⟩ <;> rw [hrun] at hsame hroutes hacts
    · exact ⟨Or.inl (hsame.trans hphase), hroutes, hacts⟩
    · exact ⟨Or.inr rfl, hroutes, hacts⟩
  · refine Or.inl ?_
    have hcheck : s.check .define = .error (.invalidState s.phase .define) :=
      if_neg (by simpa [Operation.allowedIn] using hphase)
    rw [define, hcheck]

theorem exportRecord_cases (s : Session) (store : Store) (sample : Sample) :
    (s.exportRecord store sample).2.1 = s ∨
      (s.exportRecord store sample).2.1.phase = .encoding ∧
      (s.exportRecord store sample).2.1.routes = s.routes := by
  rcases hcheck : s.check .exportRecord with e | _
  · refine Or.inl ?_
    rw [exportRecord, hcheck]
  · let P : Session × Store → Prop := fun w => w.1.phase = .encoding ∧ w.1.routes = s.routes
    have hgroups : P (attemptAll exportGroup s.defined (s.loaded sample, store)).2 :=
      attemptAll_preserves (P := P) ⟨rfl, rfl⟩ fun g _ w hw => hw
    refine Or.inr ?_
    rw [exportRecord_eq hcheck]
    rcases hrun : attemptAll exportGroup s.defined (s.loaded sample, store)
      with ⟨_ | _, t, store'⟩ <;>
      rw [hrun] at hgroups
    · exact hgroups
    · dsimp only
      cases store'.write sample.timestamp <;> exact hgroups

theorem Swept.define (h : Swept s building) (store : Store) (header : HostHeader)
    (discovery : List Sample) : Swept (s.define store header discovery).2.1 building := by
  rcases define_cases s store header discovery with hsame | ⟨hphase, hlater, hroutes, hacts⟩
  · rw [hsame]
    exact h
  · obtain ⟨hidle, halike⟩ := h.early (Or.inl hphase)
    refine ⟨hroutes.trans h.routes, fun _ => ⟨hidle, ?_⟩, fun hdecoding => ?_⟩
    · rw [hacts]
      exact alike_planned halike header discovery
    · rcases hlater with hlater | hlater <;> rw [hlater] at hdecoding <;> cases hdecoding

theorem Swept.exportRecord (h : Swept s building) (store : Store) (sample : Sample) :
    Swept (s.exportRecord store sample).2.1 building := by
  rcases exportRecord_cases s store sample with hsame | ⟨hphase, hroutes⟩
  · rw [hsame]
    exact h
  · refine ⟨hroutes.trans h.routes, fun hearly => ?_, fun hdecoding => ?_⟩
    · rcases hearly with hearly | hearly <;> rw [hphase] at hearly <;> cases hearly
    · rw [hphase] at hdecoding
      cases hdecoding

theorem Swept.attachReader (h : Swept s building) (instances : Registry) :
    Swept (s.attachReader instances).2 building := by
  by_cases hearly : s.phase = .uninitialized ∨ s.phase = .catalogsDefined
  · have hcheck : s.check .attachReader = .ok () :=
      if_pos (by simpa [Operation.allowedIn] using hearly)
    obtain ⟨-, halike⟩ := h.early hearly
    rw [Session.attachReader, hcheck]
    exact ⟨h.routes, fun hno => by simp at hno,
      fun _ => ⟨(halike .interrupts).showing', fun _ => halike⟩⟩
  · have hcheck : s.check .attachReader = .error (.invalidState s.phase .attachReader) :=
      if_neg (by simpa [Operation.allowedIn] using hearly)
    rw [Session.attachReader, hcheck]
    exact h

/-- Readings are taken only while records are imported. -/
theorem Swept.absorb (h : Swept s building) (hphase : s.phase = .decoding) (set : ValueSet) :
    Swept (s.absorb set.id set.readings) true := by
  rw [absorb_eq h.routes]
  refine ⟨h.routes, fun hearly => ?_,
    fun _ => ⟨showing_take set (h.decoding hphase).1, by simp⟩⟩
  have hearly : s.phase = .uninitialized ∨ s.phase = .catalogsDefined := hearly
  rw [hphase] at hearly
  simp at hearly

/-- The end of a record never fails while records are imported. -/
theorem endRecord_ok (hphase : s.phase = .decoding) (h : s.acts.irq.Named) (timestamp : Int) :
    ∃ x, s.endRecord timestamp = (.ok x, { s with
      acts := (finish s.acts).clear .curr, records := s.records + 1 }) := by
  have hirq : (finish s.acts).irq = s.acts.irq := part_finish (finish_interrupts .curr)
  obtain ⟨t, ht⟩ := Interrupts.unload_ok h.sized .curr
  have hunload : ∃ x, (finish s.acts).unload .curr timestamp = .ok x := by
    rw [unload, hirq, ht]
    exact ⟨_, rfl⟩
  obtain ⟨x, hx⟩ := hunload
  have hcheck : s.check .endRecord = .ok () := if_pos (by rw [hphase]; decide)
  refine ⟨x, ?_⟩
  rw [endRecord, hcheck]
  simp only [hx]

theorem Swept.endRecord (h : Swept s building) (timestamp : Int) :
    Swept (s.endRecord timestamp).2 false := by
  by_cases hphase : s.phase = .decoding
  · have hnamed := (h.decoding hphase).1.named
    obtain ⟨x, hx⟩ := endRecord_ok hphase hnamed timestamp
    rw [hx]
    have hirq : (finish s.acts).irq = s.acts.irq := part_finish (finish_interrupts .curr)
    have hclear : Alike .curr .empty ((finish s.acts).clear .curr) :=
      alike_clear (hirq ▸ hnamed) .curr
    refine ⟨h.routes, fun hearly => ?_,
      fun _ => ⟨(hclear .interrupts).showing', fun _ => hclear⟩⟩
    have hearly : s.phase = .uninitialized ∨ s.phase = .catalogsDefined := hearly
    rw [hphase] at hearly
    simp at hearly
  · have hcheck : s.check .endRecord = .error (.invalidState s.phase .endRecord) :=
      if_neg (by simpa [Operation.allowedIn] using hphase)
    rw [Session.endRecord, hcheck]
    exact ⟨h.routes, fun hearly => ⟨rfl, (h.early hearly).2⟩, fun hd => absurd hd hphase⟩

theorem Swept.close (h : Swept s building) : Swept s.close.2 building := by
  rw [Session.close]
  rcases s.check .close with e | _
  · exact h
  · exact ⟨h.routes, by simp, by simp⟩

theorem phase_of_check {op : Operation} (h : s.check op = .ok ()) : s.phase ∈ op.allowedIn := by
  unfold check at h
  split at h
  · assumption
  · cases h

theorem Past.swept (h : Past s building) : Swept s building := by
  induction h with
  | new hnew =>
    rw [new_eq] at hnew
    cases hnew
    exact ⟨rfl, fun _ => ⟨rfl, alike_empty .curr⟩, fun hd => by cases hd⟩
  | define store header discovery _ ih => exact ih.define store header discovery
  | exportRecord store sample _ ih => exact ih.exportRecord store sample
  | attachReader instances _ ih => exact ih.attachReader instances
  | @importValueSet s s' building set _ hrun ih =>
    rcases hcheck : s.check .importValueSet with e | _ <;>
      rw [Session.importValueSet, hcheck] at hrun <;> cases hrun
    exact ih.absorb (by simpa [Operation.allowedIn] using phase_of_check hcheck) set
  | @importValue s s' building id reading _ hrun ih =>
    rcases hcheck : s.check .importValue with e | _ <;> rw [Session.importValue, hcheck] at hrun <;>
      cases hrun
    exact ih.absorb (by simpa [Operation.allowedIn] using phase_of_check hcheck) ⟨id, [reading]⟩
  | endRecord timestamp _ ih => exact ih.endRecord timestamp
  | close _ ih => exact ih.close

/-- A record that is imported as a whole is ended as well. -/
theorem Past.importRecord (h : Past s building) (hphase : s.phase = .decoding) (r : FetchedRecord) :
    Past (s.importRecord r).2 false := by
  have hsets : ∀ sets (s : Session) building, Past s building → s.phase = .decoding →
      ∃ s' building', attemptAll (fun set s => s.importValueSet set) sets s = (.ok (), s') ∧
        Past s' building' := by
    intro sets
    induction sets with
    | nil => exact fun s building hs _ => ⟨s, building, rfl, hs⟩
    | cons set sets ih =>
      intro s building hs hphase
      have hcheck : s.check .importValueSet = .ok () := if_pos (by rw [hphase]; decide)
      have hstep : s.importValueSet set =
          (.ok (), { s with acts := take s.registry s.acts set }) := by
        rw [Session.importValueSet, hcheck, absorb_eq hs.swept.routes]
      obtain ⟨s', building', hrun, hs'⟩ := ih _ true (.importValueSet set hs hstep) hphase
      exact ⟨s', building', (attemptAll_cons_ok hstep).trans hrun, hs'⟩
  obtain ⟨s', building', hrun, hs'⟩ := hsets r.sets s building h hphase
  rw [Session.importRecord, hrun]
  exact .endRecord r.timestamp hs'

/-- What is taken in and ended alike, set by set. -/
theorem alike_takeAll {a b : Activities} (h : Alike .curr a b) (registry : Registry)
    (sets : List ValueSet) : Alike .curr (takeAll registry sets a) (takeAll registry sets b) := by
  refine h.foldl sets fun set a b h => ?_
  unfold take
  split
  · rename_i g idx _
    exact (Group.spec_keepsAlike g).absorb _ idx set.readings a b h
  · exact h

theorem alike_finish {a b : Activities} (h : Alike .curr a b) : Alike .curr (finish a) (finish b) :=
  h.foldl Group.all fun g a b h => (Group.spec_keepsAlike g).finish .curr a b h

theorem Past.importing (h : Past s false) (hphase : s.phase = .decoding) :
    Importing s.registry s := by
  have halike := (h.swept.decoding hphase).2 rfl
  have hirq : Interrupts.Alike .curr Interrupts.empty s.acts.irq := halike .interrupts
  refine ⟨hphase, h.swept.routes, rfl, fun k => ?_, fun k => ?_, hirq.showing'.named,
    fun row name => ?_⟩
  · have hk : Activity.Alike .curr (Activities.empty.single k) (s.acts.single k) :=
      halike (.single k)
    rw [Activities.empty, Groups.single_ofFun] at hk
    exact hk.holds_nil
  · have hk : Activity.Alike .curr (Activities.empty.multi k) (s.acts.multi k) := halike (.multi k)
    rw [Activities.empty, Groups.multi_ofFun] at hk
    exact hk.holds_nil
  · exact (hirq.countAt row name).symm.trans ((Interrupts.blank_empty .curr).counts row name)

/-- Two sessions that import with the same instances make samples of a record that are equal but for
the columns of their interrupts, whatever went before. -/
theorem imports_forget (s s' : Session) (h : Past s false) (h' : Past s' false)
    (hphase : s.phase = .decoding) (hphase' : s'.phase = .decoding)
    (hregistry : s.registry = s'.registry) (r : FetchedRecord) :
    ∃ x y, (s.importRecord r).1 = .ok x ∧ (s'.importRecord r).1 = .ok y ∧
      x.timestamp = y.timestamp ∧ x.toGroups = y.toGroups ∧
      Option.Rel InterruptTable.Agrees x.irq y.irq := by
  have halike : Alike .curr s.acts s'.acts :=
    ((h.swept.decoding hphase).2 rfl).symm.trans ((h'.swept.decoding hphase').2 rfl)
  obtain ⟨x, t, hrun, hx⟩ := importRecord_ok (h.importing hphase) r
  obtain ⟨y, t', hrun', hy⟩ := importRecord_ok (h'.importing hphase') r
  rw [← hregistry] at hy
  have hbuilt := alike_takeAll halike s.registry r.sets
  have hended := alike_finish hbuilt
  refine ⟨x, y, by rw [hrun], by rw [hrun'], hx.timestamp.trans hy.timestamp.symm,
    Groups.ext_kinds (fun k => ?_) (fun k => ?_), ?_⟩
  · have hk : Activity.Alike .curr _ _ := hended (.single k)
    rw [hx.single, hy.single]
    exact congrArg List.head? hk.records
  · have hk : Activity.Alike .curr _ _ := hended (.multi k)
    rw [hx.multi, hy.multi]
    exact hk.records
  · obtain ⟨t, u, ht, hu, hagree⟩ := Interrupts.Alike.unload (hbuilt .interrupts)
    obtain rfl : x.irq = t := Except.ok.inj (hx.irq.symm.trans ht)
    obtain rfl : y.irq = u := Except.ok.inj (hy.irq.symm.trans hu)
    exact hagree

/-- A session that knows one disk and has imported nothing yet. -/
def unread : Session := ((initial {}).attachReader ⟨[(Domain.disk, [(0, "sda")])]⟩).2

/-- A session with the same instances that was defined for a line of interrupts, and imported a
record with a sum of interrupts and the operations of the disk. -/
def wellRead : Session :=
  let seen : Sample := { Sample.blank with irq := some ⟨["sum", "9"], [[1, 1], [1, 1]]⟩ }
  let defined := ((initial {}).define .empty {} [seen]).2.1
  let attached := (defined.attachReader ⟨[(Domain.disk, [(0, "sda")])]⟩).2
  (attached.importRecord
    ⟨5, [⟨.pack 60 0 12, [(none, .u64 3)]⟩, ⟨.pack 60 0 28, [(some 0, .u64 4)]⟩]⟩).2

/-- Neither the lines nor the records that only one of them has seen show in a later sample. -/
theorem unread_wellRead :
    Past unread false ∧ Past wellRead false ∧ unread.acts.irq.lines = [] ∧
      wellRead.acts.irq.lines = ["sum", "9"] ∧ wellRead.acts.disk.buffer.allocated = 1 ∧
      ∀ r, ∃ x y, (unread.importRecord r).1 = .ok x ∧ (wellRead.importRecord r).1 = .ok y ∧
        x.timestamp = y.timestamp ∧ x.toGroups = y.toGroups ∧
        Option.Rel InterruptTable.Agrees x.irq y.irq := by
  have h : Past unread false := .attachReader _ (.new (new_eq {}))
  have h' : Past wellRead false :=
    (Past.attachReader _ (.define .empty {} _ (.new (new_eq {})))).importRecord (by decide) _
  exact ⟨h, h', rfl, by decide, by decide,
    imports_forget unread wellRead h h' rfl (by decide) (by decide)⟩

end ActivityArchive.Session
