import ActivityArchive.Proofs.Session.Carrying
import ActivityArchive.Proofs.Session.Runs

/-!
Runs that are read back. The store that a run leaves holds a record for each sample, written by the
session that the samples before it led to (`Run.written`), and whoever reads the store takes in
every record, whatever was read before (`Reader.importRecord_ok`).
-/
namespace ActivityArchive.Session

open Record

/-- A session that was defined onto an empty store, and that exported some samples into it one after
the other. -/
def Run (config : Config) (header : HostHeader) (discovery samples : List Sample) (store : Store) :
    Prop :=
  ∃ s w s', Session.new config = .ok s ∧ s.define .empty header discovery = (.ok (), w) ∧
    Archive.exportAll samples w = (.ok (), s', store)

/-- The sessions that read records with some instances. -/
inductive Reader (instances : Registry) : Session → Prop
  | attachReader {config : Config} {s s' : Session} : Session.new config = .ok s →
    s.attachReader instances = (.ok (), s') → Reader instances s'
  | importRecord {s s' : Session} {r : FetchedRecord} {x : Sample} : Reader instances s →
    s.importRecord r = (.ok x, s') → Reader instances s'

variable {config : Config} {header : HostHeader} {discovery samples : List Sample} {store : Store}
  {instances : Registry} {s : Session}

/-- What a run leaves: metrics of the groups, and for every sample a record that was written by the
session which the samples before it led to. -/
theorem Run.recorded (h : Run config header discovery samples store) :
    (∀ m ∈ store.metrics, m ∈ Group.metricsOfAll) ∧
    store.records.length = samples.length ∧
      ∀ (k : Nat) (x : Sample) (r : StoredRecord), samples[k]? = some x →
      store.records[k]? = some r →
        ∃ s, Exported config header discovery (samples.take k) s ∧
          Written (defineView config header discovery) store s x r := by
  obtain ⟨s, w, s', hnew, hdefine, hexport⟩ := h
  have hstart : Exported config header discovery [] w.1 := .define hnew hdefine
  rw [new_eq] at hnew
  cases hnew
  obtain ⟨hrecording, hunused⟩ := recording_define hdefine
  obtain ⟨hlast, -, rs, hrs, hlen, hwritten⟩ :=
    exportAll_written_at batteriesCovered hrecording hexport
  have hrecords : store.records = rs := by
    rw [hunused.records, List.nil_append] at hrs
    exact hrs
  refine ⟨hlast.ready.established.metrics, hrecords ▸ hlen, fun k x r hx hr => ?_⟩
  obtain ⟨v, hv, hout⟩ := hwritten store hlast.ready.keeps k x r hx (hrecords ▸ hr)
  have hexported := hstart.exportAll hv
  rw [List.nil_append] at hexported
  exact ⟨v.1, hexported, hout⟩

theorem Run.written (h : Run config header discovery samples store) :
    store.fetch.length = samples.length ∧
      ∀ (k : Nat) (x : Sample) (r : FetchedRecord), samples[k]? = some x →
      store.fetch[k]? = some r →
        ∃ s record, Exported config header discovery (samples.take k) s ∧
          Written (defineView config header discovery) store s x record ∧
          r = store.decode record := by
  obtain ⟨-, hlen, hwritten⟩ := h.recorded
  refine ⟨(List.length_map _).trans hlen, fun k x r hx hr => ?_⟩
  rw [Store.fetch, List.getElem?_map, Option.map_eq_some_iff] at hr
  obtain ⟨record, hrecord, rfl⟩ := hr
  obtain ⟨s, hexported, hout⟩ := hwritten k x record hx hrecord
  exact ⟨s, record, hexported, hout, rfl⟩

theorem Reader.importing (h : Reader instances s) : Importing instances s := by
  induction h with
  | attachReader hnew hattach =>
    rw [new_eq] at hnew
    cases hnew
    cases hattach
    exact ⟨rfl, rfl, rfl, Activities.blank_empty⟩
  | importRecord _ himport ih =>
    obtain ⟨y, t, hrun, hdone⟩ := importRecord_ok ih _
    rw [himport] at hrun
    cases hrun
    exact hdone.importing

theorem Reader.importRecord_ok (h : Reader instances s) (r : FetchedRecord) :
    ∃ y s', s.importRecord r = (.ok y, s') ∧ Imported instances s r y s' :=
  Session.importRecord_ok h.importing r

/-- Runs whose batteries agree with those seen before definition go through. -/
theorem exists_run (config : Config) (header : HostHeader)
    (hagree : Agree (batteryPlaces discovery))
    (hknown : ∀ x ∈ samples, BatteriesKnown discovery x) :
    ∃ store, Run config header discovery samples store := by
  obtain ⟨hdefine, -, hready⟩ := define_iff config header discovery
  have hok := hdefine.mpr (Or.inr hagree)
  obtain ⟨hexport, -⟩ := exportAll_ok (hready hok) hknown
  exact ⟨_, initial config, _, _, new_eq config, Prod.ext hok rfl, Prod.ext hexport rfl⟩

theorem exists_reader (instances : Registry) : ∃ s, Reader instances s :=
  ⟨_, .attachReader (new_eq {}) rfl⟩

end ActivityArchive.Session
