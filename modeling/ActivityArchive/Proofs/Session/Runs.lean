import ActivityArchive.Archive
import ActivityArchive.Proofs.Session.Exporting

/-!
Runs of exports that end well, on whatever stores. Definition plans for the samples seen before it
and takes the groups that are present; an export leaves in the part of every group what the group
makes of the sample as it was loaded.
-/
namespace ActivityArchive

open Record

/-- The largest number of records of a kind in a sample. -/
def longest (k : Multi) (samples : List Sample) : Nat :=
  samples.foldl (fun n x => max n (x.multi k).length) 0

/-- The largest number of interrupt rows in a sample. -/
def Archive.interruptRows (samples : List Sample) : Nat :=
  samples.foldl (fun n x => max n (x.irq.elim 0 (·.counts.length))) 0

namespace Activities

theorem scan_interrupts (a : Activities) (samples : List Sample) :
    (samples.foldl scan a).irq.count =
      samples.foldl (fun n x => max n (x.irq.elim 0 (·.counts.length))) a.irq.count := by
  induction samples generalizing a with
  | nil => rfl
  | cons x samples ih =>
    have hscan : (a.scan x).irq.count = max a.irq.count (x.irq.elim 0 (·.counts.length)) := by
      cases hx : x.irq with
      | none => simp [scan, hx]
      | some t =>
        simp only [scan, hx, Interrupts.count, (Interrupts.later_addLines _ t.lines).planned]
        rfl
    rw [List.foldl_cons, List.foldl_cons, ih, hscan]

theorem scan_multi (a : Activities) (samples : List Sample) (k : Multi) :
    ((samples.foldl scan a).multi k).buffer = (a.multi k).buffer ∧
      ((samples.foldl scan a).multi k).count =
        samples.foldl (fun n x => max n (x.multi k).length) (a.multi k).count := by
  induction samples generalizing a with
  | nil => exact ⟨rfl, rfl⟩
  | cons x samples ih =>
    have hscan : (a.scan x).multi k = (a.multi k).plan (x.multi k).length := by simp [scan]
    obtain ⟨hbuffer, hcount⟩ := ih (a.scan x)
    rw [List.foldl_cons, List.foldl_cons, hbuffer, hcount, hscan]
    exact ⟨rfl, rfl⟩

end Activities

namespace Session

variable {config : Config} {header : HostHeader} {discovery : List Sample} {s s' : Session}
  {store store' : Store} {gs : List Group} {w w' : Session × Store} {x : Sample}

/-- The sessions that a run of successful exports ends with. -/
inductive Exported (config : Config) (header : HostHeader) (discovery : List Sample) :
    List Sample → Session → Prop
  | define {s s' : Session} {store store' : Store} :
    Session.new config = .ok s → s.define store header discovery = (.ok (), s', store') →
      Exported config header discovery [] s'
  | exportRecord {samples : List Sample} {s s' : Session} {store store' : Store} (x : Sample) :
    Exported config header discovery samples s →
      s.exportRecord store x = (.ok (), s', store') →
      Exported config header discovery (samples ++ [x]) s'

theorem multi_defineView (config : Config) (header : HostHeader) (discovery : List Sample)
    (k : Multi) : ((defineView config header discovery).acts.multi k).buffer = .empty ∧
      ((defineView config header discovery).acts.multi k).count = longest k discovery := by
  have hscan := Activities.scan_multi { Activities.empty with header } discovery k
  have hempty : ({ Activities.empty with header }.multi k) = (.empty : Activity k.Rec) :=
    Groups.multi_ofFun _ _ k
  rw [hempty] at hscan
  cases k <;> exact hscan

theorem interrupts_defineView (config : Config) (header : HostHeader) (discovery : List Sample) :
    (defineView config header discovery).acts.irq.count = Archive.interruptRows discovery :=
  Activities.scan_interrupts { Activities.empty with header } discovery

/-- What definition leaves as it was, whatever the store. -/
theorem defineGroup_ok {g : Group} (h : defineGroup discovery g w = (.ok (), w')) :
    w'.1 = { w.1 with
        catalogs := w'.1.catalogs
        defined := w.1.defined ++ if w.1.takes g then [g] else []
        registry := w'.1.registry } := by
  obtain ⟨s, store⟩ := w
  by_cases ht : s.takes g
  · rcases hrun : attemptAll Bench.define (g.spec.define ⟨s.acts, s.config, discovery⟩)
      (s.catalogOf g, ⟨s.registry, store⟩) with ⟨_ | _, c, b⟩ <;>
      simp only [defineGroup, if_pos ht, hrun] at h <;> cases h
    simp [setCatalog, ht]
  · simp only [defineGroup, if_neg ht] at h
    cases h
    simp [ht]

theorem defineAll_ok (h : attemptAll (defineGroup discovery) gs w = (.ok (), w')) :
    w'.1 = { w.1 with
        catalogs := w'.1.catalogs
        defined := w.1.defined ++ gs.filter w.1.takes
        registry := w'.1.registry } := by
  induction gs generalizing w with
  | nil =>
    cases h
    simp
  | cons g gs ih =>
    rcases hg : defineGroup discovery g w with ⟨_ | _, w₁⟩
    · rw [attemptAll_cons_error hg] at h
      cases h
    · rw [attemptAll_cons_ok hg] at h
      have hfirst := defineGroup_ok hg
      have htakes : w₁.1.takes = w.1.takes := by
        funext g'
        rw [hfirst]
        rfl
      rw [ih h, htakes, hfirst]
      by_cases ht : w.1.takes g <;> simp [ht]

/-- A new session as its definition leaves it. -/
theorem define_ok (hnew : Session.new config = .ok s)
    (h : s.define store header discovery = (.ok (), s', store')) :
    s'.config = config ∧ s'.slot = .curr ∧
    s'.acts = (defineView config header discovery).acts ∧
      s'.defined = Group.all.filter (taken (defineView config header discovery)) ∧
      s'.records = 0 := by
  rw [new_eq] at hnew
  cases hnew
  rw [define_eq] at h
  rcases hall : attemptAll (defineGroup discovery) Group.all
    ((initial config).planned header discovery, store) with ⟨_ | _, w⟩ <;>
      rw [hall] at h <;> cases h
  have hw := defineAll_ok hall
  refine ⟨?_, ?_, ?_, ?_, ?_⟩
  · exact congrArg Session.config hw
  · exact congrArg Session.slot hw
  · exact congrArg Session.acts hw
  · exact congrArg Session.defined hw
  · exact congrArg Session.records hw

/-- What some groups that are exported one after the other leave of the activities. -/
structure Passed (gs : List Group) (w w' : Session × Store) : Prop where
  session : w'.1 = { w.1 with acts := w'.1.acts, registry := w'.1.registry }
  part : ∀ g ∈ gs, w'.1.acts.part g.part = (g.spec.emit (w.1.view g)).1.part g.part
  rest : ∀ t, (∀ g ∈ gs, t ≠ g.part) → w'.1.acts.part t = w.1.acts.part t

theorem Passed.cons {g : Group} (hg : g ∉ gs) {b : Bench}
    (h : Passed gs ({ w.1 with acts := (g.spec.emit (w.1.view g)).1, registry := b.registry },
      b.store) w') : Passed (g :: gs) w w' := by
  have hne : ∀ g' ∈ gs, g'.part ≠ g.part := fun g' hg' hp =>
    hg (Group.part_injective hp ▸ hg')
  refine ⟨?_, ?_, ?_⟩
  · rw [h.session]
  · intro g' hg'
    rcases List.mem_cons.mp hg' with rfl | hg'
    · exact h.rest g'.part fun g₁ hg₁ hp => hne g₁ hg₁ hp.symm
    · have hsame := (Group.spec_local g).emit_part_ne (w.1.view g) g'.part (hne g' hg')
      exact (h.part g' hg').trans ((Group.spec_local g').emit_congr (w.1.view g') _ hsame).2
  · intro t ht
    rw [h.rest t fun g' hg' => ht g' (List.mem_cons_of_mem g hg')]
    exact (Group.spec_local g).emit_part_ne _ t (ht g List.mem_cons_self)

theorem passed_of_exportAll (hnd : gs.Nodup) (h : attemptAll exportGroup gs w = (.ok (), w')) :
    Passed gs w w' := by
  induction gs generalizing w with
  | nil =>
    cases h
    exact ⟨rfl, by simp, fun _ _ => rfl⟩
  | cons g gs ih =>
    obtain ⟨hg, hnd⟩ := List.nodup_cons.mp hnd
    rcases hfirst : exportGroup g w with ⟨_ | _, w₁⟩
    · rw [attemptAll_cons_error hfirst] at h
      cases h
    · rw [attemptAll_cons_ok hfirst] at h
      have hrest := ih hnd h
      rw [exportGroup_eq, Prod.mk.injEq] at hfirst
      exact .cons hg (hfirst.2 ▸ hrest)

/-- What an export that ends well leaves, whatever the store. -/
structure Took (s : Session) (x : Sample) (s' : Session) : Prop where
  session : s'.config = s.config ∧ s'.defined = s.defined ∧ s'.slot = s.slot.other
  part : ∀ g ∈ s.defined,
    s'.acts.part g.part = (g.spec.emit ((s.loaded x).view g)).1.part g.part
  rest : ∀ t, (∀ g ∈ s.defined, t ≠ g.part) → s'.acts.part t = (s.loaded x).acts.part t

/-- An export that ends well took every group, and went on to the other slot. -/
theorem exportRecord_ok (h : s.exportRecord store x = (.ok (), s', store')) :
    ∃ w, attemptAll exportGroup s.defined (s.loaded x, store) = (.ok (), w) ∧
      s' = { w.1 with slot := w.1.slot.other, records := w.1.records + 1 } := by
  rcases hcheck : s.check .exportRecord with e | _
  · rw [exportRecord, hcheck] at h
    cases h
  · rw [exportRecord_eq hcheck] at h
    rcases hall : attemptAll exportGroup s.defined (s.loaded x, store) with ⟨_ | _, w⟩ <;>
      rw [hall] at h
    · cases h
    · dsimp only at h
      split at h <;> cases h
      exact ⟨w, rfl, rfl⟩

theorem took_of_exportRecord (hnd : s.defined.Nodup)
    (h : s.exportRecord store x = (.ok (), s', store')) : Took s x s' := by
  obtain ⟨w, hall, rfl⟩ := exportRecord_ok h
  have hpass := passed_of_exportAll hnd hall
  have hsession : w.1 = { s.loaded x with acts := w.1.acts, registry := w.1.registry } :=
    hpass.session
  refine ⟨⟨?_, ?_, ?_⟩, hpass.part, hpass.rest⟩ <;> dsimp only <;> rw [hsession] <;> rfl

theorem Exported.defined {samples : List Sample} (h : Exported config header discovery samples s) :
    s.config = config ∧
      s.defined = Group.all.filter (taken (defineView config header discovery)) := by
  induction h with
  | define hnew hdef => exact ⟨(define_ok hnew hdef).1, (define_ok hnew hdef).2.2.2.1⟩
  | exportRecord x _ hexp ih =>
    have hnd := ih.2 ▸ Group.nodup_all.filter _
    have htook := took_of_exportRecord hnd hexp
    exact ⟨htook.session.1.trans ih.1, htook.session.2.1.trans ih.2⟩

theorem Exported.nodup {samples : List Sample} (h : Exported config header discovery samples s) :
    s.defined.Nodup := by
  rw [h.defined.2]
  exact Group.nodup_all.filter _

theorem Exported.records {samples : List Sample} (h : Exported config header discovery samples s) :
    s.records = samples.length := by
  induction h with
  | define hnew hdef => exact (define_ok hnew hdef).2.2.2.2
  | @exportRecord samples s s' _ _ x hprev hexp ih =>
    obtain ⟨w, hall, rfl⟩ := exportRecord_ok hexp
    have hsame := congrArg Session.records (passed_of_exportAll hprev.nodup hall).session
    have hcount : w.1.records = s.records := hsame
    simp [hcount, ih]

theorem exported_append {samples : List Sample}
    (h : Exported config header discovery (samples ++ [x]) s) :
    ∃ s₀ store store', Exported config header discovery samples s₀ ∧
      s₀.exportRecord store x = (.ok (), s, store') := by
  generalize hxs : samples ++ [x] = xs at h
  cases h with
  | define => simp at hxs
  | exportRecord x' hrun hexp =>
    obtain ⟨rfl, hx⟩ := List.append_inj' hxs rfl
    obtain rfl : x = x' := by simpa using hx
    exact ⟨_, _, _, hrun, hexp⟩

theorem Exported.exportAll {samples xs : List Sample}
    (h : Exported config header discovery samples w.1)
    (hrun : Archive.exportAll xs w = (.ok (), w')) :
    Exported config header discovery (samples ++ xs) w'.1 := by
  induction xs generalizing samples w with
  | nil =>
    cases hrun
    simpa using h
  | cons x xs ih =>
    rcases hfirst : w.1.exportRecord w.2 x with ⟨_ | _, w₁⟩
    · have hfail : Archive.exportAll (x :: xs) w = (.error _, w₁) := attemptAll_cons_error hfirst
      rw [hfail] at hrun
      cases hrun
    · have hrest : Archive.exportAll (x :: xs) w = Archive.exportAll xs w₁ :=
        attemptAll_cons_ok hfirst
      have hnext := ih (h.exportRecord x hfirst) (hrest.symm.trans hrun)
      rwa [List.append_assoc] at hnext

end Session

end ActivityArchive
