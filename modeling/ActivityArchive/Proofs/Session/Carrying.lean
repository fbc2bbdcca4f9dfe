import ActivityArchive.Archive
import ActivityArchive.Proofs.Session.Batteries
import ActivityArchive.Proofs.Session.Transcript
import Mathlib.Data.List.Forall2

/-!
The records that an export leaves. The store that comes out in the end carries what every sample
emitted, since metrics and instances stay where they are, so that each of its records is a
transcript of its sample (`exportAll_written_at`).
-/
namespace ActivityArchive.Session

open Numbering Record

variable {dv : DefineView} {B : Int → String → Prop} {s : Session}
  {store st : Store} {x : Sample}
  {w w' w'' : Session × Store} {g : Group}

/-- The metrics and the instances of a session are found in a store. -/
structure Keeps (B : Int → String → Prop) (w : Session × Store) (st : Store) : Prop where
  wellFormed : st.instances.WellFormed
  conforms : st.instances.Conforms (Numbering.withBatteries B)
  metrics : st.metrics = w.2.metrics
  entries : ∀ d, ∀ e ∈ w.1.registry.entries d, e ∈ st.instances.entries d

theorem Recorded.keeps (h : Recorded s store x w') (hk : Keeps B w' st) : Keeps B (s, store) st :=
  ⟨hk.wellFormed, hk.conforms, hk.metrics.trans h.metrics,
    fun d e he => hk.entries d e (h.registered.kept d e he)⟩

theorem Ready.keeps (h : Ready dv B w) : Keeps B w w.2 := by
  have hsound := h.established.sound
  have hinst : w.2.instances = w.1.registry := hsound.inStep
  refine ⟨hinst ▸ hsound.wellFormed, hinst ▸ h.conforms, rfl, fun d e he => ?_⟩
  rw [hinst]
  exact he

theorem Ready.keeps_close (h : Ready dv B w) : Keeps B w w.2.close :=
  ⟨h.keeps.wellFormed, h.keeps.conforms, h.keeps.metrics, h.keeps.entries⟩

theorem metric?_of_mem {m : Descriptor} (hall : ∀ m ∈ st.metrics, m ∈ Group.metricsOfAll)
    (hm : m ∈ st.metrics) : st.metric? m.id = some m := by
  obtain ⟨m', hm'⟩ : ∃ m', st.metric? m.id = some m' := by
    rw [← Option.isSome_iff_exists, Store.metric?, List.find?_isSome]
    exact ⟨m, hm, by simp⟩
  have hid : m'.id = m.id := by simpa using List.find?_some hm'
  have hmem := hall m' (List.mem_of_find?_eq_some hm')
  rw [hm', Group.identified_metricsOfAll m' hmem m (hall m hm) hid]

/-- The store carries what a sample emitted when its record was written. -/
theorem Recorded.carries (h : Ready dv B (s, store)) (hrec : Recorded s store x w')
    (hk : Keeps B w' st) (hg : g ∈ s.defined) : st.Carries g ((s.loaded x).emissions g) := by
  have hready := ready_loaded h x
  have hest := hready.established
  have hsup := (Group.spec_selfContained g).supported dv ((s.loaded x).view g) (hest.handles g hg)
    hready.later hready.sized
  have hmetrics : st.metrics = store.metrics := hk.metrics.trans hrec.metrics
  have hall : ∀ m ∈ st.metrics, m ∈ Group.metricsOfAll := hmetrics ▸ hest.metrics
  have hnumbered : ∀ d l num, .entry d l num ∈ (s.loaded x).emissions g →
      ∃ n, (n, l) ∈ st.instances.entries d ∧ (num = none ∨ num = some n) := by
    intro d l num hentry
    have hreq : (d, l, num) ∈ (s.loaded x).requests s.defined :=
      List.mem_flatMap.mpr ⟨g, hg, Emission.mem_requests.mpr hentry⟩
    obtain ⟨n, hn, hnum⟩ := hrec.registered.registered d l num hreq
    exact ⟨n, hk.entries d _ hn, hnum⟩
  refine ⟨hk.wellFormed, fun idx label v he => ?_, hnumbered, fun e he => ?_⟩
  · obtain ⟨hdef, m, hm, hl⟩ := hsup.value he
    refine ⟨m, hm, metric?_of_mem hall ?_, fun d hd => ?_⟩
    · obtain ⟨n, hn⟩ := Option.isSome_iff_exists.mp hdef
      obtain ⟨m', hm', hs⟩ := (hest.truthful g).lookup idx n hn
      rw [hest.descriptors] at hm'
      obtain rfl : m = m' := Option.some.inj (hm.symm.trans hm')
      rw [hmetrics]
      exact List.mem_of_getElem? hs
    · obtain ⟨l, hlab, ⟨num, hknown⟩ | ⟨num, hentry⟩⟩ := hl d hd
      · obtain ⟨n, hn, -⟩ := h.established.registered g hg d l num hknown
        exact ⟨l, n, hlab, hk.entries d _ (hrec.registered.kept d _ hn)⟩
      · obtain ⟨n, hn, -⟩ := hnumbered d l num hentry
        exact ⟨l, n, hlab, hn⟩
  · have hrule : Numbering.withBatteries B Domain.nfsRequest = listed Domain.nfsRequests :=
      ofRules_eq (map_rules B ▸ nodup_ruled) (by simp [rules])
    have he' := hk.conforms Domain.nfsRequest e he
    rw [hrule] at he'
    exact he'

/-- A record that a sample left in a store, written by a session as it was then. -/
structure Written (dv : DefineView) (st : Store) (s : Session) (x : Sample) (r : StoredRecord) :
    Prop where
  config : s.config = dv.config
  later : dv.acts.Later s.acts
  header : s.acts.header = dv.acts.header
  defined : s.defined = Group.all.filter (taken dv)
  handles : ∀ g ∈ s.defined, ∀ idx, ((s.catalogOf g).handle? idx).isSome ↔
    idx ∈ g.spec.asked dv
  timestamp : r.timestamp = x.timestamp
  transcript : Transcript st s.defined (s.loaded x).emissions r

/-- A session that has only written records since it was defined, with nothing left in the queue. -/
structure Recording (dv : DefineView) (B : Int → String → Prop) (w : Session × Store) :
    Prop where
  ready : Ready dv B w
  header : w.1.acts.header = dv.acts.header
  defined : w.1.defined = Group.all.filter (taken dv)
  pending : w.2.pending = []

theorem Recording.written (h : Recording dv B (s, store)) (hrec : Recorded s store x w')
    (hk : Keeps B w' st) :
    Written dv st s x ⟨x.timestamp, store.pending ++ s.defined.flatMap
      (s.loaded x).values⟩ := by
  have hpending : store.pending = [] := h.pending
  refine ⟨h.ready.established.config, h.ready.later, h.header, h.defined,
    h.ready.established.handles, rfl, h.ready.nodup, ?_, fun g hg => ?_⟩
  · rw [hpending]
    rfl
  · exact hrec.carries h.ready hk hg

/-- No group changes the host. -/
theorem header_emit (g : Group) (view : ExportView) :
    (g.spec.emit view).1.header = view.acts.header := by
  by_cases hg : g = .fileHeader
  · subst hg
    rfl
  · have hne : Part.header ≠ g.part := fun hp => hg (Group.part_injective (hp.symm.trans rfl))
    exact (Group.spec_local g).emit_part_ne view .header hne

theorem header_exportRecord (s : Session) (store : Store) (x : Sample) :
    (s.exportRecord store x).2.1.acts.header = s.acts.header := by
  have hgroups : ∀ w : Session × Store,
      (attemptAll exportGroup s.defined w).2.1.acts.header = w.1.acts.header := by
    intro w
    let P : Session × Store → Prop := fun w' => w'.1.acts.header = w.1.acts.header
    refine attemptAll_preserves (P := P) rfl ?_
    intro g _ w' hw'
    exact (header_emit g (w'.1.view g)).trans hw'
  rw [exportRecord]
  split
  · rfl
  · have hrun := hgroups (s.loaded x, store)
    dsimp only
    split
    · rename_i s' store' hs
      have hs : attemptAll exportGroup s.defined (s.loaded x, store) = (.ok (), s', store') := hs
      rw [hs] at hrun
      split <;> exact hrun
    · exact hrun

theorem Recording.next (h : Recording dv B w) (hready : Ready dv B w')
    (hrun : w.1.exportRecord w.2 x = (.ok (), w')) (hrec : Recorded w.1 w.2 x w') :
    Recording dv B w' := by
  refine ⟨hready, ?_, hrec.defined.trans h.defined, hrec.pending⟩
  have hheader := header_exportRecord w.1 w.2 x
  rw [hrun] at hheader
  exact hheader.trans h.header

/-- A new session that was defined onto an empty store. -/
theorem recording_define {config : Config} {header : HostHeader} {discovery : List Sample}
    (h : (initial config).define .empty header discovery = (.ok (), w)) :
    Recording (defineView config header discovery) (batteryRule (batteryPlaces discovery)) w ∧
      Unused (defineView config header discovery) w := by
  have hkeep : BatteriesKeepTo (batteryRule (batteryPlaces discovery))
    (defineView config header discovery) := batteriesKeepTo
  rcases define_outcome hkeep with
    ⟨w', hdefine, hready, hunused, hdefined⟩ | ⟨⟨cause, w', hdefine, -⟩, -⟩
  · obtain rfl : w = w' := congrArg Prod.snd (h.symm.trans hdefine)
    exact ⟨⟨hready, congrArg Activities.header hunused.acts, hdefined, hunused.pending⟩,
      hunused⟩
  · rw [hdefine] at h
    cases h

/-- Samples whose batteries are known are exported one after the other. -/
theorem exportAll_ok {config : Config} {header : HostHeader} {discovery xs : List Sample}
    (h : Ready (defineView config header discovery) (batteryRule (batteryPlaces discovery)) w)
    (hknown : ∀ x ∈ xs, BatteriesKnown discovery x) :
    (Archive.exportAll xs w).1 = .ok () ∧
      Ready (defineView config header discovery) (batteryRule (batteryPlaces discovery))
        (Archive.exportAll xs w).2 := by
  refine attemptAll_ok h ?_
  rintro x hx ⟨s, store⟩ hw
  have hstep := (exportRecord_iff hw x).1.mpr (Or.inr (hknown x hx))
  refine ⟨hstep, ?_⟩
  rcases exportRecord_outcome hw batteriesCovered x with
    ⟨w', hrun, hready', -⟩ | ⟨before, after, done, rest, cause, l, n, w', hrun, -⟩
  · show Ready _ _ (s.exportRecord store x).2
    rw [hrun]
    exact hready'
  · rw [hrun] at hstep
    cases hstep

/-- What an export leaves: for each sample a record, behind the records that were there. Each was
written by the session that the samples before it left. -/
theorem exportAll_written_at (hcov : BatteriesCovered dv) {xs : List Sample}
    (h : Recording dv B w) (hrun : Archive.exportAll xs w = (.ok (), w')) :
    Recording dv B w' ∧ (∀ st, Keeps B w' st → Keeps B w st) ∧
      ∃ rs, w'.2.records = w.2.records ++ rs ∧ rs.length = xs.length ∧
        ∀ st, Keeps B w' st → ∀ k x r, xs[k]? = some x → rs[k]? = some r →
          ∃ v, Archive.exportAll (xs.take k) w = (.ok (), v) ∧ Written dv st v.1 x r := by
  induction xs generalizing w with
  | nil =>
    obtain rfl : w = w' := congrArg Prod.snd hrun
    exact ⟨h, fun _ hk => hk, [], by simp, rfl, fun _ _ _ _ _ hx => by simp at hx⟩
  | cons x xs ih =>
    have hready : Ready dv B (w.1, w.2) := h.ready
    rcases exportRecord_outcome hready hcov x with
      ⟨w₁, hstep, hready, hrec⟩ | ⟨before, after, done, rest, cause, l, n, w₁, hstep, -⟩
    · have hmove : ∀ ys, Archive.exportAll (x :: ys) w = Archive.exportAll ys w₁ :=
        fun ys => attemptAll_cons_ok hstep
      obtain ⟨hlast, hkeeps, rs, hrs, hlen, hwritten⟩ :=
        ih (h.next hready hstep hrec) ((hmove xs).symm.trans hrun)
      refine ⟨hlast, fun st hk => hrec.keeps (hkeeps st hk),
        ⟨x.timestamp, w.2.pending ++ w.1.defined.flatMap (w.1.loaded x).values⟩ :: rs, ?_,
        congrArg Nat.succ hlen, fun st hk k y r hy hr => ?_⟩
      · rw [hrs, hrec.records, List.append_assoc]
        rfl
      · cases k with
        | zero =>
          cases hy
          cases hr
          exact ⟨w, rfl, h.written hrec (hkeeps st hk)⟩
        | succ k =>
          obtain ⟨v, hv, hout⟩ := hwritten st hk k y r hy hr
          exact ⟨v, (hmove _).trans hv, hout⟩
    · have hfail : Archive.exportAll (x :: xs) w = (.error (.registry cause), w₁) :=
        attemptAll_cons_error hstep
      rw [hfail] at hrun
      cases hrun

/-- The records of all samples, and the first of them, which holds the host. -/
theorem exportAll_written (hcov : BatteriesCovered dv) {xs : List Sample} (h : Recording dv B w)
    (hrun : Archive.exportAll xs w = (.ok (), w')) :
    Recording dv B w' ∧ (∀ st, Keeps B w' st → Keeps B w st) ∧
      ∃ rs, w'.2.records = w.2.records ++ rs ∧ ∀ st, Keeps B w' st →
        List.Forall₂ (fun x r => ∃ s, Written dv st s x r) xs rs ∧
        ∀ r ∈ rs.head?, ∃ s x, s.records = w.1.records ∧ Written dv st s x r := by
  obtain ⟨hlast, hkeeps, rs, hrs, hlen, hwritten⟩ := exportAll_written_at hcov h hrun
  refine ⟨hlast, hkeeps, rs, hrs, fun st hk => ⟨?_, fun r hr => ?_⟩⟩
  · refine List.forall₂_iff_get.mpr ⟨hlen.symm, fun k hx hr => ?_⟩
    obtain ⟨v, -, hv⟩ := hwritten st hk k _ _ (List.getElem?_eq_getElem hx)
      (List.getElem?_eq_getElem hr)
    exact ⟨v.1, hv⟩
  · rw [List.head?_eq_getElem?] at hr
    have hpos : 0 < xs.length := hlen ▸ (List.getElem?_eq_some_iff.mp hr).1
    obtain ⟨v, hv, hout⟩ := hwritten st hk 0 _ r (List.getElem?_eq_getElem hpos) hr
    obtain rfl : w = v := congrArg Prod.snd hv
    exact ⟨w.1, _, rfl, hout⟩

end ActivityArchive.Session
