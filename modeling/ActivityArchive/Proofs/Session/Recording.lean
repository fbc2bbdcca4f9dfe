import ActivityArchive.Proofs.Session.Exporting

/-!
Export of a record. A session that is ready stays ready whatever the outcome; where the export ends
well the record holds what was still queued and then what the groups emit, and where it does not the
values before the refused battery stay queued.
-/
namespace ActivityArchive.Session

open Numbering

variable {dv : DefineView} {B : Int → String → Prop} {s : Session} {store : Store}
  {w w' : Session × Store}

/-- What the groups of a session ask for when a sample is exported. -/
def requests (s : Session) (gs : List Group) : List Request :=
  gs.flatMap fun g => (s.emissions g).filterMap Emission.request?

/-- A record written. -/
structure Recorded (s : Session) (store : Store) (sample : Sample) (w' : Session × Store) :
    Prop where
  session : w'.1 = { s.loaded sample with
    acts := w'.1.acts, registry := w'.1.registry, slot := s.slot.other, records := s.records + 1 }
  registered : Registry.Registered ((s.loaded sample).requests s.defined) s.registry w'.1.registry
  metrics : w'.2.metrics = store.metrics
  records : w'.2.records = store.records ++
    [⟨sample.timestamp, store.pending ++ s.defined.flatMap (s.loaded sample).values⟩]
  pending : w'.2.pending = []

theorem Recorded.defined {sample : Sample} (h : Recorded s store sample w') :
    w'.1.defined = s.defined := by
  rw [h.session]
  rfl

theorem Stopped.defined {s₀ : Session} {before : List Group} {done rest : List Emission}
    {cause : RegistryError} {l : String} {n : Int}
    (h : Stopped dv B s₀ before done rest cause l n w w') : w'.1.defined = s₀.defined := by
  rw [h.session]

theorem ready_loaded (h : Ready dv B (s, store)) (sample : Sample) :
    Ready dv B (s.loaded sample, store) := by
  have hload := Activities.later_load s.acts s.slot sample
  have hest := h.established
  refine ⟨⟨hest.sound, hest.config, hest.length, hest.descriptors, hest.truthful, hest.metrics,
    hest.handles, hest.registered⟩, h.nodup, ?_, h.later.trans hload, hload.irq.sized h.sized,
    h.conforms⟩
  exact List.mem_cons_of_mem _ List.mem_cons_self

/-- Writing a record takes nothing from a session. -/
theorem Ready.write (h : Ready dv B w) (records : List StoredRecord) (slot : Slot) (count : Nat) :
    Ready dv B ({ w.1 with slot, records := count }, { w.2 with records, pending := [] }) := by
  have hest := h.established
  exact ⟨⟨⟨hest.sound.wellFormed, hest.sound.inStep, hest.sound.unsealed⟩,
    hest.config, hest.length,
    hest.descriptors, hest.truthful, hest.metrics, hest.handles, hest.registered⟩,
    h.nodup, h.phase, h.later, h.sized, h.conforms⟩

theorem exportRecord_outcome (h : Ready dv B (s, store)) (hcov : BatteriesCovered dv)
    (sample : Sample) :
    (∃ w', s.exportRecord store sample = (.ok (), w') ∧ Ready dv B w' ∧
        Recorded s store sample w') ∨
      ∃ before after done rest cause l n w',
        s.exportRecord store sample = (.error (.registry cause), w') ∧
        s.defined = before ++ .batteries :: after ∧
        Stopped dv B (s.loaded sample) before done rest cause l n (s, store) w' := by
  have hexp : Exporting dv B (s.loaded sample) s.defined (s.loaded sample, store) :=
    ⟨ready_loaded h sample, rfl, fun _ _ => rfl⟩
  rw [exportRecord_eq (if_pos h.phase)]
  rcases exportAll_outcome hexp hcov h.nodup (fun _ hg => hg) with
    ⟨⟨s', store'⟩, hrun, hexp', hwrote⟩ |
      ⟨before, after, done, rest, cause, l, n, w', hrun, hdef, hstop⟩
  · have hopen : store'.isSealed = false := hexp'.ready.established.sound.unsealed
    have hwrite : store'.write sample.timestamp = .ok { store' with
        records := store'.records ++ [⟨sample.timestamp, store'.pending⟩], pending := [] } := by
      simp [Store.write, hopen]
    have hsession := hexp'.session
    rw [hrun]
    simp only [hwrite]
    refine Or.inl ⟨_, rfl, hexp'.ready.write _ _ _,
      ⟨?_, hwrote.registered, hwrote.metrics, ?_, rfl⟩⟩
    · have hs : s' = { s.loaded sample with acts := s'.acts, registry := s'.registry } :=
        hexp'.session
      exact congrArg
        (fun x : Session => { x with slot := x.slot.other, records := x.records + 1 }) hs
    · show store'.records ++ [⟨sample.timestamp, store'.pending⟩] = _
      rw [hwrote.records, hwrote.pending]
  · rw [hrun]
    exact Or.inr ⟨before, after, done, rest, cause, l, n, w', rfl, hdef, { hstop with
      wrote := ⟨hstop.wrote.registered, hstop.wrote.metrics, hstop.wrote.records,
        hstop.wrote.pending⟩ }⟩

end ActivityArchive.Session
