import ActivityArchive.Proofs.Group.HeaderRestoring
import ActivityArchive.Proofs.Session.Carrying

/-!
Archives exported and imported again. Whatever was exported can be imported: there is a sample again
for each sample, built from the record that was written of it, and the host is the one exported
(`import_export`). What a sample has in common with the one it comes from is said elsewhere, group
by group.
-/
namespace ActivityArchive.Archive

open Activities GroupSpec Record Session

variable {a : Archive} {config : Config} {store : Store}

theorem toStore_eq (a : Archive) (config : Config) :
    a.toStore config =
      match (initial config).define .empty a.header a.samples with
      | (.error e, _) => .error e
      | (.ok _, w) =>
        match exportAll a.samples w with
        | (.error e, _) => .error e
        | (.ok _, s, store) =>
          match s.close.1 with
          | .error e => .error e
          | .ok _ => .ok store.close := by
  rw [toStore, new_eq, ok_bind]
  rcases (initial config).define .empty a.header a.samples with ⟨_ | _, s, store⟩
  · simp only [error_bind]
  · rcases hrun : exportAll a.samples (s, store) with ⟨_ | _, s', store'⟩
    · simp only [ok_bind, hrun, error_bind]
    · simp only [ok_bind, hrun]
      rcases s'.close with ⟨_ | _, _⟩ <;> rfl

theorem close_ok {dv : DefineView} {B : Int → String → Prop} {w : Session × Store}
    (h : Ready dv B w) : w.1.close.1 = .ok () := by
  have hphase : w.1.phase = .catalogsDefined ∨ w.1.phase = .encoding := by
    simpa [Operation.allowedIn] using h.phase
  have hcheck : w.1.check .close = .ok () := by
    refine if_pos ?_
    rcases hphase with hp | hp <;> simp [hp, Operation.allowedIn]
  rw [Session.close, hcheck]

/-- An archive can be exported unless batteries that are shown contradict each other. -/
theorem toStore_iff (a : Archive) (config : Config) :
    (∃ store, a.toStore config = .ok store) ↔
      config.enables Group.batteries.name = false ∨ Agree (batteryPlaces a.samples) := by
  obtain ⟨hdefine, -, hready⟩ := define_iff config a.header a.samples
  rw [← hdefine]
  rcases hdef : (initial config).define .empty a.header a.samples with ⟨outcome, w⟩
  rw [hdef] at hdefine hready
  rw [toStore_eq, hdef]
  constructor
  · rintro ⟨store, hstore⟩
    cases outcome with
    | error e => cases hstore
    | ok _ => rfl
  · intro hok
    obtain rfl : outcome = .ok () := hok
    have hknown : ∀ x ∈ a.samples, BatteriesKnown a.samples x := by
      intro x hx i b hb _
      exact mem_batteryPlaces.mpr ⟨x, hx, b, hb, rfl⟩
    obtain ⟨hexport, hlast⟩ := exportAll_ok (hready rfl) hknown
    rcases hall : exportAll a.samples w with ⟨outcome, s, store⟩
    rw [hall] at hexport hlast
    obtain rfl : outcome = .ok () := hexport
    refine ⟨store.close, ?_⟩
    simp only [hall]
    rw [close_ok hlast]

/-- An archive whose batteries agree can be exported. -/
theorem toStore_ok (config : Config) (h : Agree (batteryPlaces a.samples)) :
    ∃ store, a.toStore config = .ok store :=
  (toStore_iff a config).mpr (Or.inr h)

/-- An export that succeeds leaves a record for each sample. -/
theorem toStore_written (h : a.toStore config = .ok store) :
    List.Forall₂ (fun x r => ∃ s, Written (defineView config a.header a.samples) store s x r)
        a.samples store.records ∧
      ∀ r ∈ store.records.head?, ∃ s x, s.records = 0 ∧
        Written (defineView config a.header a.samples) store s x r := by
  rw [toStore_eq] at h
  rcases hdefine : (initial config).define .empty a.header a.samples with ⟨_ | _, w⟩
  · simp [hdefine] at h
  · rw [hdefine] at h
    dsimp only at h
    obtain ⟨hrecording, hunused⟩ := recording_define hdefine
    rcases hexport : exportAll a.samples w with ⟨_ | _, w'⟩
    · simp [hexport] at h
    · rw [hexport] at h
      obtain ⟨hlast, -, rs, hrs, hwritten⟩ :=
        exportAll_written batteriesCovered hrecording hexport
      have hstore : w'.2.close = store := by
        dsimp only at h
        split at h
        · cases h
        · exact Except.ok.inj h
      have hrecords : store.records = rs := by
        rw [← hstore]
        show w'.2.records = rs
        rw [hrs, hunused.records, List.nil_append]
      have hkeeps := hlast.ready.keeps_close
      rw [hstore] at hkeeps
      rw [hrecords, ← hunused.count]
      exact hwritten store hkeeps

/-- Every store can be imported. -/
theorem ofStore_ok (store : Store) :
    ∃ b, ofStore store = .ok b ∧
      b.header = store.fetch.foldl (headerAfter store.instances) default ∧
      List.Forall₂ (fun r x => ∃ s s', Importing store.instances s ∧
        Imported store.instances s r x s') store.fetch b.samples := by
  have hattach : (initial {}).attachReader store.instances =
    (.ok (), { initial {} with registry := store.instances, phase := .decoding }) := rfl
  have himp : Importing store.instances
      { initial {} with registry := store.instances, phase := .decoding } :=
    ⟨rfl, rfl, rfl, Activities.blank_empty⟩
  obtain ⟨xs, s', hrun, hlast, hheader, hxs⟩ := importAll_ok himp store.fetch
  have hclose : s'.close = (.ok (), { s' with phase := .closed }) := by
    have hcheck : s'.check .close = .ok () := if_pos (by rw [hlast.phase]; decide)
    rw [Session.close, hcheck]
  refine ⟨⟨s'.acts.header, xs⟩, ?_, hheader, hxs⟩
  rw [ofStore, new_eq, ok_bind, hattach]
  simp only [ok_bind, hrun, hclose]
  rfl

section Lists

variable {A B C : Type} {R : A → B → Prop} {S : B → C → Prop} {xs : List A} {ys : List B}
  {zs : List C}

theorem forall₂_trans (h : List.Forall₂ R xs ys) (h' : List.Forall₂ S ys zs) :
    List.Forall₂ (fun x z => ∃ y, R x y ∧ S y z) xs zs := by
  induction h generalizing zs with
  | nil =>
    cases h'
    exact .nil
  | cons hxy _ ih =>
    cases h' with
    | cons hyz hrest => exact .cons ⟨_, hxy, hyz⟩ (ih hrest)

theorem exists_of_forall₂ (h : List.Forall₂ R xs ys) {y : B} (hy : y ∈ ys) :
    ∃ x ∈ xs, R x y := by
  induction h with
  | nil => simp at hy
  | cons hxy _ ih =>
    rcases List.mem_cons.mp hy with rfl | hy
    · exact ⟨_, List.mem_cons_self, hxy⟩
    · obtain ⟨x, hx, hR⟩ := ih hy
      exact ⟨x, List.mem_cons_of_mem _ hx, hR⟩

end Lists

/-- The host values that a sample emits: those of the first record. -/
theorem emissions_host (s : Session) (x : Sample) :
    (s.loaded x).emissions .fileHeader =
      if s.records = 0 then singular 0 (hostColumns.map (·.value s.acts.header)) else [] := by
  show (if (decide (s.records = 0)) = true then _ else _) = _
  simp only [decide_eq_true_eq]
  rfl

theorem headerAfter_written {dv : DefineView} {s : Session} {x : Sample} {r : StoredRecord}
    (h : Written dv store s x r) (before : HostHeader) :
    headerAfter store.instances before (store.decode r) =
      if s.records = 0 then dv.acts.header else before := by
  have hback : Group.fileHeader.ReadsBack (fun _ => true) ((s.loaded x).emissions .fileHeader) := by
    rw [emissions_host]
    split
    · exact readsBack_host s.acts.header
    · intro idx label v he
      simp at he
  have hmem : .fileHeader ∈ s.defined := by
    rw [h.defined]
    exact List.mem_filter.mpr ⟨Group.mem_all _, rfl⟩
  have hpart : headerAfter store.instances before (store.decode r) = _ :=
    h.transcript.part_takeAll_decode (g := .fileHeader) hback fun _ _ _ _ => nofun
  rw [hpart, if_pos hmem, emissions_host]
  split
  · rw [← h.header]
    exact header_taken store store.instances s.acts.header _
  · rfl

theorem header_foldl {dv : DefineView} {header : HostHeader} {rs : List StoredRecord}
    (h : ∀ r ∈ rs, ∃ s x, Written dv store s x r) (hdv : dv.acts.header = header) :
    (rs.map store.decode).foldl (headerAfter store.instances) header = header := by
  induction rs with
  | nil => rfl
  | cons r rs ih =>
    obtain ⟨s, x, hr⟩ := h r List.mem_cons_self
    have hstep : headerAfter store.instances header (store.decode r) = header := by
      rw [headerAfter_written hr, hdv, ite_self]
    rw [List.map_cons, List.foldl_cons, hstep]
    exact ih fun r' hr' => h r' (List.mem_cons_of_mem r hr')

/-- A sample that came back: it shows what its record built in a blank slot. -/
structure Returned (dv : DefineView) (store : Store) (s : Session) (x : Sample) (r : StoredRecord)
    (acts : Activities) (y : Sample) : Prop where
  written : Written dv store s x r
  blank : acts.Blank
  timestamp : y.timestamp = x.timestamp
  single : ∀ k, y.single k =
    (((finish (takeAll store.instances (store.decode r).sets acts)).single k).records
      .curr).head?
  multi : ∀ k, y.multi k =
    ((finish (takeAll store.instances (store.decode r).sets acts)).multi k).records .curr

theorem header_defineView (config : Config) (header : HostHeader) (discovery : List Sample) :
    (defineView config header discovery).acts.header = header :=
  Activities.header_scan { Activities.empty with header } discovery

/-- Whatever was exported comes back sample by sample, with the host. -/
theorem import_export (h : a.toStore config = .ok store) :
    ∃ b, ofStore store = .ok b ∧ (a.samples ≠ [] → b.header = a.header) ∧
      List.Forall₂ (fun x y => ∃ s r acts,
        Returned (defineView config a.header a.samples) store s x r acts y) a.samples
      b.samples := by
  obtain ⟨hwritten, hfirst⟩ := toStore_written h
  obtain ⟨b, hb, hheader, hsamples⟩ := ofStore_ok store
  have hdv := header_defineView config a.header a.samples
  refine ⟨b, hb, fun hne => ?_, ?_⟩
  · have hall : ∀ r ∈ store.records, ∃ s x,
        Written (defineView config a.header a.samples) store s x r := by
      intro r hr
      obtain ⟨x, -, s, hs⟩ := exists_of_forall₂ hwritten hr
      exact ⟨s, x, hs⟩
    rw [hheader, Store.fetch]
    cases hrecords : store.records with
    | nil =>
      rw [hrecords] at hwritten
      exact absurd (List.forall₂_nil_right_iff.mp hwritten) hne
    | cons r rs =>
      rw [hrecords] at hfirst hall
      obtain ⟨s, x, hzero, hr⟩ := hfirst r rfl
      have hstep : headerAfter store.instances default (store.decode r) = a.header := by
        rw [headerAfter_written hr, if_pos hzero, hdv]
      rw [List.map_cons, List.foldl_cons, hstep]
      exact header_foldl (fun r' hr' => hall r' (List.mem_cons_of_mem r hr')) hdv
  · rw [Store.fetch, List.forall₂_map_left_iff] at hsamples
    refine (forall₂_trans hwritten hsamples).imp ?_
    rintro x y ⟨r, ⟨s, hs⟩, s₁, s₂, himp, hy⟩
    exact ⟨s, r, s₁.acts, hs, himp.blank, hy.timestamp.trans hs.timestamp,
      hy.single, hy.multi⟩

end ActivityArchive.Archive
