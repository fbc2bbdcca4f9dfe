import ActivityArchive.Proofs.Group.Locality
import ActivityArchive.Proofs.Session.Defining

/-!
Export of a sample by a session that is ready. The groups write what they emit from the sample as it
was loaded, one behind the other, and each ends well; only a battery may be refused, and then what
stood before it stays queued (`exportRecord_outcome`).
-/
namespace ActivityArchive.Session

open Numbering

/-- What a group sees of a session when a sample is exported. -/
def view (s : Session) (g : Group) : ExportView :=
  ⟨s.acts, s.config, s.slot, s.records = 0, fun idx => ((s.catalogOf g).handle? idx).isSome⟩

def emissions (s : Session) (g : Group) : List Emission := (g.spec.emit (s.view g)).2

/-- What a group queues for a record. -/
def values (s : Session) (g : Group) : List StoredValue :=
  (s.emissions g).filterMap (Emission.stored? g.metrics)

/-- The session that has a sample in its slot. -/
def loaded (s : Session) (sample : Sample) : Session :=
  { s with phase := .encoding, acts := s.acts.load s.slot sample }

/-- An export, by the outcome of the groups of the session. -/
theorem exportRecord_eq {s : Session} (h : s.check .exportRecord = .ok ()) (store : Store)
    (sample : Sample) :
    s.exportRecord store sample =
      match attemptAll exportGroup s.defined (s.loaded sample, store) with
      | (.ok _, s, store) =>
        match store.write sample.timestamp with
        | .ok store => (.ok (), { s with slot := s.slot.other, records := s.records + 1 }, store)
        | .error cause => (.error (.store "session" cause), s, store)
      | failed => failed := by
  rw [exportRecord, h]
  rfl

/-- Every position of a battery that is planned for was registered. -/
def BatteriesCovered (dv : DefineView) : Prop :=
  ∀ i < (dv.acts.multi .bat).count, ∃ l,
    .entry Domain.battery l (some (i : Int)) ∈ Group.batteries.spec.define dv

/-- A session on the way of exporting what was loaded: some groups are still to come. -/
structure Exporting (dv : DefineView) (B : Int → String → Prop) (s₀ : Session)
    (todo : List Group) (w : Session × Store) : Prop where
  ready : Ready dv B w
  session : w.1 = { s₀ with acts := w.1.acts, registry := w.1.registry }
  parts : ∀ g ∈ todo, w.1.acts.part g.part = s₀.acts.part g.part

/-- Instances registered and values queued. -/
structure Wrote (qs : List Request) (vs : List StoredValue) (w w' : Session × Store) : Prop where
  registered : Registry.Registered qs w.1.registry w'.1.registry
  metrics : w'.2.metrics = w.2.metrics
  records : w'.2.records = w.2.records
  pending : w'.2.pending = w.2.pending ++ vs

variable {dv : DefineView} {B : Int → String → Prop} {s₀ : Session} {todo : List Group}
  {w w' w'' : Session × Store} {g : Group}

theorem Wrote.nil (w : Session × Store) : Wrote [] [] w w := ⟨.nil _, rfl, rfl, by simp⟩

theorem Wrote.append {qs qs' : List Request} {vs vs' : List StoredValue} (h : Wrote qs vs w w')
    (h' : Wrote qs' vs' w' w'') : Wrote (qs ++ qs') (vs ++ vs') w w'' where
  registered := h.registered.append h'.registered
  metrics := h'.metrics.trans h.metrics
  records := h'.records.trans h.records
  pending := by rw [h'.pending, h.pending, List.append_assoc]

/-- A group emits what it would have emitted first. -/
theorem Exporting.emissions_eq (h : Exporting dv B s₀ todo w) (hg : g ∈ todo) :
    w.1.emissions g = s₀.emissions g := by
  have hview : w.1.view g = { s₀.view g with acts := w.1.acts } := by
    rw [h.session]
    rfl
  rw [emissions, hview]
  exact ((Group.spec_local g).emit_congr (s₀.view g) w.1.acts (h.parts g hg)).1

theorem mem_emissions_batteries {s : Session} {d : DomainId} {l : String} {num : Option Int}
    (he : .entry d l num ∈ s.emissions .batteries) :
    d = Domain.battery ∧ ∃ (i : Nat) (b : Record.Battery), num = some (i : Int) ∧
      i < s.acts.bat.count ∧ (s.acts.bat.records s.slot)[i]? = some b ∧
      l = "BAT" ++ Text.decimal b.batId.toNat := by
  obtain ⟨es, hes, he⟩ := List.mem_flatten.mp he
  obtain ⟨i, hi, rfl⟩ := List.mem_mapIdx.mp hes
  rw [List.length_take] at hi
  rcases List.mem_cons.mp he with he | he
  · cases he
    refine ⟨rfl, i, _, rfl, ?_, ?_, rfl⟩
    · exact Nat.lt_of_lt_of_le hi (Nat.min_le_left _ _)
    · rw [List.getElem_take]
      exact List.getElem?_eq_getElem _
  · simp [GroupSpec.ofInstance, List.mem_mapIdx] at he

/-- A group asks for an instance that is admitted, or for a number that is taken already. -/
theorem Exporting.admits (h : Exporting dv B s₀ todo w) (hcov : BatteriesCovered dv)
    (hg : g ∈ w.1.defined) {d : DomainId} {l : String} {num : Option Int}
    (he : .entry d l num ∈ w.1.emissions g) :
    (withBatteries B).Admits d l num ∨ ∃ n k, num = some n ∧
    (n, k) ∈ w.1.registry.entries d := by
  by_cases hbat : g = .batteries
  · subst hbat
    obtain ⟨rfl, i, b, rfl, hi, -, -⟩ := mem_emissions_batteries he
    have hcount : w.1.acts.bat.count = (dv.acts.multi .bat).count := h.ready.later.count .bat
    obtain ⟨k, hk⟩ := hcov i (hcount ▸ hi)
    obtain ⟨n, hn, hnum⟩ := h.ready.established.registered _ hg _ _ _ hk
    obtain rfl : (i : Int) = n := by simpa using hnum
    exact Or.inr ⟨i, k, rfl, hn⟩
  · exact Or.inl ((Group.spec_keepsTo B hbat).emit _ h.ready.sized d l num he).1

theorem Exporting.bench (h : Exporting dv B s₀ (g :: todo) w) (hcov : BatteriesCovered dv)
    (hnd : (g :: todo).Nodup) (hg : g ∈ w.1.defined) {es : List Emission} {b : Bench}
    (hes : ∀ e ∈ es, e ∈ w.1.emissions g)
    (hem : Bench.Emitted (w.1.catalogOf g) es ⟨w.1.registry, w.2⟩ b) :
    Exporting dv B s₀ todo ({ w.1 with
      acts := (g.spec.emit (w.1.view g)).1, registry := b.registry }, b.store) ∧
      Wrote (es.filterMap Emission.request?) (es.filterMap (Emission.stored? g.metrics)) w
        ({ w.1 with acts := (g.spec.emit (w.1.view g)).1, registry := b.registry }, b.store) := by
  have hlater := (Group.spec_selfContained g).later (w.1.view g) h.ready.sized
  have hest := h.ready.established
  refine ⟨⟨⟨⟨hem.sound, hest.config, hest.length, hest.descriptors, fun g' => ?_,
    ?_, hest.handles,
    fun g' hg' d l num he => ?_⟩, h.ready.nodup, h.ready.phase, h.ready.later.trans hlater,
    hlater.irq.sized h.ready.sized, ?_⟩, ?_, fun g' hg' => ?_⟩, hem.registry, hem.metrics,
    hem.records, ?_⟩
  · exact hem.metrics ▸ hest.truthful g'
  · exact hem.metrics ▸ hest.metrics
  · obtain ⟨n, hn, hnum⟩ := hest.registered g' hg' d l num he
    exact ⟨n, hem.registry.kept d _ hn, hnum⟩
  · refine hem.registry.conforms _ h.ready.conforms fun d l num hq => ?_
    exact h.admits hcov hg (hes _ (Emission.mem_requests.mp hq))
  · rw [h.session]
  · have hne : g' ≠ g := fun hgg => (List.nodup_cons.mp hnd).1 (hgg ▸ hg')
    have hpart : g'.part ≠ g.part := fun hp => hne (Group.part_injective hp)
    exact ((Group.spec_local g).emit_part_ne _ _ hpart).trans
      (h.parts g' (List.mem_cons_of_mem g hg'))
  · rw [← hest.descriptors g]
    exact hem.pending

theorem Exporting.outcome (h : Exporting dv B s₀ todo w) (hg : g ∈ w.1.defined) :
    Bench.Outcome (w.1.catalogOf g) (w.1.emissions g) ⟨w.1.registry, w.2⟩
      (attemptAll (Bench.emit (w.1.catalogOf g)) (w.1.emissions g) ⟨w.1.registry, w.2⟩) := by
  have hest := h.ready.established
  have hsup := (Group.spec_selfContained g).supported dv (w.1.view g)
    (hest.handles g hg) h.ready.later h.ready.sized
  rw [show g.spec.metrics = (w.1.catalogOf g).descriptors from (hest.descriptors g).symm] at hsup
  refine Bench.emitAll_supported hest.sound (hest.truthful g) (fun _ hd => hd)
    (fun d l hk => ?_) hsup
  obtain ⟨num, he⟩ := hk
  obtain ⟨n, hn, _⟩ := hest.registered g hg d l num he
  exact ⟨n, hn⟩

theorem exportGroup_eq (g : Group) (w : Session × Store) :
    exportGroup g w =
      ((attemptAll (Bench.emit (w.1.catalogOf g)) (w.1.emissions g) ⟨w.1.registry, w.2⟩).1,
        { w.1 with
          acts := (g.spec.emit (w.1.view g)).1
          registry := (attemptAll (Bench.emit (w.1.catalogOf g)) (w.1.emissions g)
            ⟨w.1.registry, w.2⟩).2.registry },
        (attemptAll (Bench.emit (w.1.catalogOf g)) (w.1.emissions g)
          ⟨w.1.registry, w.2⟩).2.store) := rfl

/-- How the export of some groups stops: at a battery whose number is taken. -/
structure Stopped (dv : DefineView) (B : Int → String → Prop) (s₀ : Session)
    (before : List Group) (done rest : List Emission) (cause : RegistryError) (l : String) (n : Int)
    (w w' : Session × Store) : Prop where
  domain : cause.domain = Domain.battery
  emissions : s₀.emissions .batteries = done ++ .entry Domain.battery l (some n) :: rest
  unfit : ¬ w'.1.registry.Fits Domain.battery n l
  ready : Ready dv B w'
  session : w'.1 = { s₀ with acts := w'.1.acts, registry := w'.1.registry }
  wrote : Wrote (before.flatMap (fun g => (s₀.emissions g).filterMap Emission.request?) ++
      done.filterMap Emission.request?)
    (before.flatMap s₀.values ++ done.filterMap (Emission.stored? Group.batteries.metrics)) w w'

theorem exportGroup_outcome (h : Exporting dv B s₀ (g :: todo) w) (hcov : BatteriesCovered dv)
    (hnd : (g :: todo).Nodup) (hg : g ∈ w.1.defined) :
    (∃ w', exportGroup g w = (.ok (), w') ∧ Exporting dv B s₀ todo w' ∧
        Wrote ((s₀.emissions g).filterMap Emission.request?) (s₀.values g) w w') ∨
      ∃ done rest cause l n w', exportGroup g w = (.error (.registry cause), w') ∧
        g = .batteries ∧ Stopped dv B s₀ [] done rest cause l n w w' := by
  have hsame := h.emissions_eq List.mem_cons_self
  rw [exportGroup_eq]
  rcases h.outcome hg with ⟨hok, hem⟩ | ⟨done, rest, cause, l, n, hes, herr, hem, hf⟩
  · obtain ⟨hexp, hwrote⟩ := h.bench hcov hnd hg (fun _ he => he) hem
    refine Or.inl ⟨_, by rw [hok], hexp, ?_⟩
    rw [values, ← hsame]
    exact hwrote
  · obtain ⟨hexp, hwrote⟩ := h.bench hcov hnd hg
      (fun e he => hes ▸ List.mem_append_left _ he) hem
    have hmem : .entry cause.domain l (some n) ∈ w.1.emissions g := hes ▸ by simp
    have hbat : g = .batteries := by
      by_cases hbat : g = .batteries
      · exact hbat
      · have hacc := (Group.spec_keepsTo B hbat).emit _ h.ready.sized _ _ _ hmem
        exact absurd (hexp.ready.conforms.fits hacc.1 (hacc.2 rfl)) hf
    subst hbat
    have hd := (mem_emissions_batteries hmem).1
    rw [hd] at hes hf
    exact Or.inr ⟨done, rest, cause, l, n, _, by rw [herr], rfl, hd, hsame ▸ hes,
      hf, hexp.ready, hexp.session, hwrote⟩

theorem exportAll_outcome (h : Exporting dv B s₀ todo w) (hcov : BatteriesCovered dv)
    (hnd : todo.Nodup) (hdef : ∀ g ∈ todo, g ∈ s₀.defined) :
    (∃ w', attemptAll exportGroup todo w = (.ok (), w') ∧ Exporting dv B s₀ [] w' ∧
        Wrote (todo.flatMap fun g => (s₀.emissions g).filterMap Emission.request?)
          (todo.flatMap s₀.values) w w') ∨
      ∃ before after done rest cause l n w',
        attemptAll exportGroup todo w = (.error (.registry cause), w') ∧
        todo = before ++ .batteries :: after ∧
        Stopped dv B s₀ before done rest cause l n w w' := by
  induction todo generalizing w with
  | nil => exact Or.inl ⟨w, rfl, h, .nil w⟩
  | cons g todo ih =>
    have hg : g ∈ w.1.defined := by
      rw [h.session]
      exact hdef g List.mem_cons_self
    rcases exportGroup_outcome h hcov hnd hg with
      ⟨w₁, hrun, hexp, hwrote⟩ | ⟨done, rest, cause, l, n, w', hrun, rfl, hstop⟩
    · rw [attemptAll_cons_ok hrun]
      rcases ih hexp (List.nodup_cons.mp hnd).2 fun g' hg' =>
        hdef g' (List.mem_cons_of_mem g hg') with
        ⟨w', hrest, hexp', hwrote'⟩ |
        ⟨before, after, done, rest, cause, l, n, w', hrest, htodo, hstop⟩
      · exact Or.inl ⟨w', hrest, hexp', hwrote.append hwrote'⟩
      · refine Or.inr ⟨g :: before, after, done, rest, cause, l, n, w',
          hrest, by rw [htodo]; rfl, ?_⟩
        have hwrote' := hwrote.append hstop.wrote
        simp only [← List.append_assoc] at hwrote'
        exact { hstop with wrote := hwrote' }
    · rw [attemptAll_cons_error hrun]
      exact Or.inr ⟨[], todo, done, rest, cause, l, n, w', rfl, rfl, hstop⟩

end ActivityArchive.Session
