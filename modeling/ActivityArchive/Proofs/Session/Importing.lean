import ActivityArchive.Proofs.Activity.Holding
import ActivityArchive.Proofs.Activity.Named
import ActivityArchive.Proofs.Group.Locality
import ActivityArchive.Proofs.Session.Defining
import ActivityArchive.Session.Decoding

/-!
Import of a record. It never fails, and leaves all slots blank for the next one
(`importRecord_ok`). What it builds for a group depends on the sets of that group alone
(`part_taken_filter`).
-/
namespace ActivityArchive

open Activities Record

/-- Nothing is being built. -/
structure Activities.Blank (a : Activities) : Prop where
  single : ∀ k, (a.single k).Holds .curr []
  multi : ∀ k, (a.multi k).Holds .curr []
  irq : a.irq.Blank .curr

theorem Activities.blank_empty : Activities.empty.Blank where
  single k := by
    simp only [empty, Groups.single_ofFun]
    exact Activity.holds_empty .curr
  multi k := by
    simp only [empty, Groups.multi_ofFun]
    exact Activity.holds_empty .curr
  irq := Interrupts.blank_empty .curr

theorem Activities.blank_clear {a : Activities} (h : a.irq.Named) : (a.clear .curr).Blank where
  single k := by
    simp only [clear, Groups.single_ofFun]
    exact Activity.holds_clear _ .curr
  multi k := by
    simp only [clear, Groups.multi_ofFun]
    exact Activity.holds_clear _ .curr
  irq := Interrupts.blank_clear h .curr

namespace Session

/-- What a set of readings does to the records being built. -/
def take (registry : Registry) (acts : Activities) (set : ValueSet) : Activities :=
  match (⟨Group.places⟩ : Routes Group).find? set.id with
  | some (g, idx) => g.spec.absorb ⟨g.metrics, registry, .curr⟩ idx set.readings acts
  | none => acts

def takeAll (registry : Registry) (sets : List ValueSet) (acts : Activities) : Activities :=
  sets.foldl (take registry) acts

variable {registry : Registry} {g : Group} {acts acts' : Activities} {sets : List ValueSet}

/-- Interrupts that can be unloaded stay so. -/
theorem showing_absorb (g : Group) (view : ImportView) (idx : Nat) (readings : List Reading)
    (h : acts.irq.Showing view.slot) :
    (g.spec.absorb view idx readings acts).irq.Showing view.slot := by
  by_cases hg : g = .interrupts
  · subst hg
    show (readings.foldl _ acts).irq.Showing view.slot
    induction readings generalizing acts with
    | nil => exact h
    | cons r readings ih =>
      refine ih ?_
      dsimp only
      split
      · rename_i count cpu name _ _
        exact (h.absorbCell (f := fun _ _ => count) cpu name rfl).1
      · exact h
  · have ht : Part.interrupts ≠ g.part := fun ht => hg (Group.part_injective ht.symm)
    have hpart : (g.spec.absorb view idx readings acts).irq = acts.irq :=
      ((Group.spec_local g).absorb view idx readings).part_ne ht acts
    rw [hpart]
    exact h

theorem showing_take (set : ValueSet) (h : acts.irq.Showing .curr) :
    (take registry acts set).irq.Showing .curr := by
  unfold take
  split
  · exact showing_absorb _ _ _ _ h
  · exact h

theorem showing_takeAll (h : acts.irq.Showing .curr) :
    (takeAll registry sets acts).irq.Showing .curr := by
  induction sets generalizing acts with
  | nil => exact h
  | cons set sets ih => exact ih (showing_take set h)

theorem finish_interrupts (s : Slot) : Group.interrupts.spec.finish s = id := rfl

theorem finish_foldl_part {gs : List Group} (h : g ∉ gs) (acts : Activities) :
    (gs.foldl (fun acts g => g.spec.finish .curr acts) acts).part g.part = acts.part g.part := by
  induction gs generalizing acts with
  | nil => rfl
  | cons g' gs ih =>
    have hne : g.part ≠ g'.part := fun hp => h (Group.part_injective hp ▸ List.mem_cons_self)
    rw [List.foldl_cons, ih fun hg => h (List.mem_cons_of_mem g' hg)]
    exact ((Group.spec_local g').finish .curr).part_ne hne acts

/-- At the end of a record each group does something to its own part only. -/
theorem finish_part (g : Group) (acts : Activities) :
    (finish acts).part g.part = (g.spec.finish .curr acts).part g.part := by
  obtain ⟨before, after, hall⟩ := List.append_of_mem (Group.mem_all g)
  have hnd := Group.nodup_all
  rw [hall] at hnd
  obtain ⟨hfresh, -⟩ := List.nodup_cons.mp (List.nodup_middle.mp hnd)
  rw [List.mem_append, not_or] at hfresh
  rw [finish, hall, List.foldl_append, List.foldl_cons, finish_foldl_part hfresh.2]
  exact ((Group.spec_local g).finish .curr).part_congr (finish_foldl_part hfresh.1 acts)

/-- A group that does nothing at the end keeps what was taken. -/
theorem part_finish (h : g.spec.finish .curr = id) :
    (finish acts).part g.part = acts.part g.part := by
  rw [finish_part, h]
  rfl

/-- Whether a metric belongs to a group, at an index that counts. -/
def reads (g : Group) (counts : Nat → Bool) (id : MetricId) : Bool :=
  match (⟨Group.places⟩ : Routes Group).find? id with
  | some (g', idx) => g' = g && counts idx
  | none => false

theorem reads_metric {idx : Nat} {m : Descriptor} (h : g.metrics[idx]? = some m)
    (g' : Group) (counts : Nat → Bool) :
    reads g' counts m.id = (decide (g = g') && counts idx) := by
  rw [reads, Group.find?_metric h]

theorem take_part_congr (set : ValueSet) (h : acts.part g.part = acts'.part g.part) :
    (take registry acts set).part g.part = (take registry acts' set).part g.part := by
  unfold take
  cases (⟨Group.places⟩ : Routes Group).find? set.id with
  | none => exact h
  | some place =>
    obtain ⟨g', idx⟩ := place
    by_cases hg : g' = g
    · subst hg
      exact ((Group.spec_local g').absorb _ idx set.readings).part_congr h
    · have hne : g.part ≠ g'.part := fun hp => hg (Group.part_injective hp).symm
      have htouch := (Group.spec_local g').absorb ⟨g'.metrics, registry, .curr⟩ idx set.readings
      exact (htouch.part_ne hne acts).trans (h.trans (htouch.part_ne hne acts').symm)

theorem take_part_of_not_reads {counts : Nat → Bool} {set : ValueSet}
    (hskip : ∀ view idx readings, counts idx = false →
      g.spec.absorb view idx readings acts = acts)
    (h : reads g counts set.id = false) :
    (take registry acts set).part g.part = acts.part g.part := by
  unfold take
  unfold reads at h
  cases hfind : (⟨Group.places⟩ : Routes Group).find? set.id with
  | none => rfl
  | some place =>
    obtain ⟨g', idx⟩ := place
    rw [hfind] at h
    by_cases hg : g' = g
    · subst hg
      exact congrArg (·.part g'.part) (hskip _ _ _ (by simpa using h))
    · have hne : g.part ≠ g'.part := fun hp => hg (Group.part_injective hp).symm
      exact ((Group.spec_local g').absorb _ idx set.readings).part_ne hne acts

theorem takeAll_part_congr (h : acts.part g.part = acts'.part g.part) :
    (takeAll registry sets acts).part g.part = (takeAll registry sets acts').part g.part := by
  induction sets generalizing acts acts' with
  | nil => exact h
  | cons set sets ih => exact ih (take_part_congr set h)

/-- What is built for a group comes from the sets of its metrics. -/
theorem part_takeAll_filter {counts : Nat → Bool}
    (hskip : ∀ view idx readings acts, counts idx = false →
      g.spec.absorb view idx readings acts = acts) :
    (takeAll registry sets acts).part g.part =
      (takeAll registry (sets.filter (reads g counts ·.id)) acts).part g.part := by
  have key : ∀ acts acts' : Activities, acts.part g.part = acts'.part g.part →
      (takeAll registry sets acts).part g.part =
        (takeAll registry (sets.filter (reads g counts ·.id)) acts').part g.part := by
    induction sets with
    | nil => intro acts acts' h; exact h
    | cons set sets ih =>
      intro acts acts' h
      by_cases hr : reads g counts set.id = true
      · rw [List.filter_cons_of_pos (by exact hr)]
        exact ih _ _ (take_part_congr set h)
      · rw [List.filter_cons_of_neg (by exact hr)]
        have hset : (take registry acts set).part g.part = acts.part g.part :=
          take_part_of_not_reads (fun view idx readings => hskip view idx readings acts)
            (Bool.not_eq_true _ ▸ hr)
        exact ih _ _ (hset.trans h)
  exact key acts acts rfl

/-- A session that imports. -/
structure Importing (registry : Registry) (s : Session) : Prop where
  phase : s.phase = .decoding
  routes : s.routes = ⟨Group.places⟩
  registry : s.registry = registry
  blank : s.acts.Blank

theorem absorb_eq {s : Session} (h : s.routes = ⟨Group.places⟩) (set : ValueSet) :
    s.absorb set.id set.readings = { s with acts := take s.registry s.acts set } := by
  have hfind : s.routes.find? set.id = (⟨Group.places⟩ : Routes Group).find? set.id := by rw [h]
  rw [absorb, hfind, take]
  cases (⟨Group.places⟩ : Routes Group).find? set.id <;> rfl

theorem importSets_eq {s : Session} (hphase : s.phase = .decoding)
    (hroutes : s.routes = ⟨Group.places⟩) (sets : List ValueSet) :
    attemptAll (fun set s => s.importValueSet set) sets s =
      (.ok (), { s with acts := takeAll s.registry sets s.acts }) := by
  induction sets generalizing s with
  | nil => rfl
  | cons set sets ih =>
    have hcheck : s.check .importValueSet = .ok () := if_pos (by rw [hphase]; decide)
    have hstep : s.importValueSet set =
        (.ok (), { s with acts := take s.registry s.acts set }) := by
      rw [importValueSet, hcheck, absorb_eq hroutes]
    rw [attemptAll_cons_ok hstep]
    exact ih (s := { s with acts := take s.registry s.acts set }) hphase hroutes

/-- A record imported: the sample shows what its sets built. -/
structure Imported (registry : Registry) (s : Session) (r : FetchedRecord) (x : Sample)
    (s' : Session) : Prop where
  timestamp : x.timestamp = r.timestamp
  single : ∀ k, x.single k =
    (((finish (takeAll registry r.sets s.acts)).single k).records .curr).head?
  multi : ∀ k, x.multi k = ((finish (takeAll registry r.sets s.acts)).multi k).records .curr
  irq : (takeAll registry r.sets s.acts).irq.unload .curr = .ok x.irq
  header : s'.acts.header = (finish (takeAll registry r.sets s.acts)).header
  importing : Importing registry s'

theorem importRecord_ok {s : Session} (h : Importing registry s) (r : FetchedRecord) :
    ∃ x s', s.importRecord r = (.ok x, s') ∧ Imported registry s r x s' := by
  have hirq : (finish (takeAll registry r.sets s.acts)).irq =
    (takeAll registry r.sets s.acts).irq := part_finish (finish_interrupts .curr)
  have hnamed : (takeAll registry r.sets s.acts).irq.Named :=
    (showing_takeAll h.blank.irq.showing).named
  obtain ⟨t, ht⟩ := Interrupts.unload_ok hnamed.sized .curr
  have hunload : ∃ x, (finish (takeAll registry r.sets s.acts)).unload .curr r.timestamp =
    .ok x ∧
      x.timestamp = r.timestamp ∧ x.irq = t ∧
      (∀ k, x.single k =
        (((finish (takeAll registry r.sets s.acts)).single k).records .curr).head?) ∧
      ∀ k, x.multi k = ((finish (takeAll registry r.sets s.acts)).multi k).records .curr := by
    rw [unload, hirq, ht]
    exact ⟨_, rfl, rfl, rfl, fun k => by simp, fun k => by simp⟩
  obtain ⟨x, hx, htime, rfl, hsingle, hmulti⟩ := hunload
  have hcheck : ({ s with acts := takeAll registry r.sets s.acts } : Session).check .endRecord =
    .ok () := if_pos (by rw [h.phase]; decide)
  refine ⟨x, { s with
    acts := (finish (takeAll registry r.sets s.acts)).clear .curr, records := s.records + 1 }, ?_,
    htime, hsingle, hmulti, ht, rfl,
    ⟨h.phase, h.routes, h.registry, blank_clear (hirq.symm ▸ hnamed)⟩⟩
  have hrecord : s.importRecord r =
      ({ s with acts := takeAll registry r.sets s.acts } : Session).endRecord r.timestamp := by
    rw [importRecord, importSets_eq h.phase h.routes, ← h.registry]
  rw [hrecord, endRecord, hcheck]
  simp only [hx]

/-- The host after a record, given the one before it. -/
def headerAfter (registry : Registry) (h : HostHeader) (r : FetchedRecord) : HostHeader :=
  (takeAll registry r.sets { Activities.empty with header := h }).header

theorem Imported.header_eq {s s' : Session} {r : FetchedRecord} {x : Sample}
    (h : Imported registry s r x s') : s'.acts.header = headerAfter registry s.acts.header r := by
  have hfinish : (finish (takeAll registry r.sets s.acts)).header =
      (takeAll registry r.sets s.acts).header := part_finish (g := .fileHeader) rfl
  have hcongr : (takeAll registry r.sets s.acts).header = headerAfter registry s.acts.header r :=
    takeAll_part_congr (g := .fileHeader) rfl
  rw [h.header, hfinish, hcongr]

/-- Import never fails. Every record becomes a sample, each built in a blank slot. -/
theorem importAll_ok {s : Session} (h : Importing registry s) (rs : List FetchedRecord) :
    ∃ xs s', s.importAll rs = (.ok xs, s') ∧ Importing registry s' ∧
      s'.acts.header = rs.foldl (headerAfter registry) s.acts.header ∧
      List.Forall₂ (fun r x => ∃ s s', Importing registry s ∧ Imported registry s r x s') rs
        xs := by
  induction rs generalizing s with
  | nil => exact ⟨[], s, rfl, h, rfl, .nil⟩
  | cons r rs ih =>
    obtain ⟨x, s₁, hrun, himp⟩ := importRecord_ok h r
    obtain ⟨xs, s', hrest, hlast, hheader, hxs⟩ := ih himp.importing
    refine ⟨x :: xs, s', ?_, hlast, ?_, .cons ⟨s, s₁, h, himp⟩ hxs⟩
    · simp only [importAll, hrun, hrest]
    · rw [hheader, himp.header_eq, List.foldl_cons]

end Session

end ActivityArchive
