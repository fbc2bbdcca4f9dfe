import ActivityArchive.Proofs.Store.Calls
import ActivityArchive.Proofs.Store.Grouped
import Mathlib.Data.List.Forall2

/-!
What fetching tells of the calls a store has had. A ledger notes the values as they are put, each
with its metric and the number its instance has at that time, and which of them each record closed.
Every fetched record tells what the ledger holds for it, except the texts that do not read.
-/
namespace ActivityArchive

structure Put where
  metric : Descriptor
  number : Option Int
  text : String

namespace Put

/-- The reading of a value under its metric, where its text reads. -/
def entry? (p : Put) : Option (MetricId × Reading) :=
  (Value.read? p.metric.kind p.text).map fun value => (p.metric.id, p.number, value)

/-- A stored value that stands for one that was put. -/
structure StoredIn (s : Store) (p : Put) (v : StoredValue) : Prop where
  known : p.metric ∈ s.metrics
  metric : v.metric = p.metric.id
  number : s.numberOf p.metric v = some p.number
  text : v.text = p.text

end Put

structure Ledger where
  /-- What was put since the last record. -/
  queued : List Put
  written : List (Int × List Put)

namespace Store

/-- The number of an instance for a metric, none where it takes none or the label has none. -/
def numberAt (s : Store) (m : Descriptor) (label : Option String) : Option Int :=
  m.domain.bind fun d => label.bind (s.instances.number? d)

def putAt (s : Store) (handle : Handle) (label : Option String) (text : String) : Option Put :=
  s.metrics[handle]?.map fun m => ⟨m, s.numberAt m label, text⟩

end Store

namespace Ledger

def empty : Ledger := ⟨[], []⟩

/-- What is noted of a call that a store takes. -/
def noteTaken (l : Ledger) (s : Store) : Store.Call → Ledger
  | .put handle label text => { l with queued := l.queued ++ (s.putAt handle label text).toList }
  | .write timestamp => ⟨[], l.written ++ [(timestamp, l.queued)]⟩
  | _ => l

def note (l : Ledger) (s : Store) (c : Store.Call) : Ledger :=
  match s.attempt c with
  | .ok _ => l.noteTaken s c
  | .error _ => l

/-- The ledger of the calls on a store, in their order. -/
def through (l : Ledger) (s : Store) : List Store.Call → Ledger
  | [] => l
  | c :: cs => (l.note s c).through (s.call c) cs

def of (calls : List Store.Call) : Ledger := empty.through .empty calls

end Ledger

namespace Store

/-- A record holds the values that were put for it. -/
structure Holds (s : Store) (written : Int × List Put) (r : StoredRecord) : Prop where
  timestamp : r.timestamp = written.1
  values : List.Forall₂ (Put.StoredIn s) written.2 r.values

structure Follows (s : Store) (l : Ledger) : Prop where
  sound : s.Sound
  queued : List.Forall₂ (Put.StoredIn s) l.queued s.pending
  written : List.Forall₂ s.Holds l.written s.records

/-- A fetched record tells a record of the ledger. -/
structure Tells (written : Int × List Put) (r : FetchedRecord) : Prop where
  timestamp : r.timestamp = written.1
  sets : Grouped (written.2.filterMap Put.entry?) r.sets

variable {s s' : Store} {l : Ledger} {p : Put} {v : StoredValue} {c : Call}

theorem follows_empty : empty.Follows .empty := ⟨sound_empty, .nil, .nil⟩

theorem storedIn_mono (h : p.StoredIn s v) (hg : Grows s s') : p.StoredIn s' v := by
  refine ⟨hg.metrics h.known, h.metric, ?_, h.text⟩
  have hnumber := h.number
  unfold numberOf at hnumber ⊢
  split
  · rename_i d label hd hl
    simp only [hd, hl, Option.map_eq_some_iff] at hnumber
    obtain ⟨n, hn, he⟩ := hnumber
    rw [hg.number d label n hn, Option.map_some, he]
  · rename_i hno
    split at hnumber
    · rename_i d label hd hl
      exact absurd hl (hno d label hd)
    · exact hnumber

theorem holds_mono {w : Int × List Put} {r : StoredRecord} (h : s.Holds w r) (hg : Grows s s') :
    s'.Holds w r := ⟨h.timestamp, h.values.imp fun _ _ hv => storedIn_mono hv hg⟩

/-- A label that is kept for a metric has a number. -/
theorem numberOf_instanceFor {m : Descriptor} {label kept : Option String} {text : String}
    (h : s.instanceFor m label = .ok kept) :
    s.numberOf m ⟨m.id, kept, text⟩ = some (s.numberAt m label) := by
  unfold instanceFor at h
  split at h
  · rename_i d label hd
    split at h
    · rename_i hsome
      cases h
      obtain ⟨n, hn⟩ := Option.isSome_iff_exists.mp hsome
      simp [numberOf, numberAt, hd, hn]
    · cases h
  · cases h
  · rename_i hd
    cases h
    simp [numberOf, numberAt, hd]

theorem Follows.taken (h : s.Follows l) (hc : s.attempt c = .ok s') :
    s'.Follows (l.noteTaken s c) := by
  obtain ⟨hsound, hgrows⟩ := h.sound.attempt hc
  have hqueued := h.queued.imp fun _ _ hv => storedIn_mono hv hgrows
  have hwritten := h.written.imp fun _ _ hr => holds_mono hr hgrows
  cases c with
  | addMetric d =>
    rcases hadd : s.addMetric d with _ | ⟨handle, s₁⟩ <;>
      rw [attempt, hadd] at hc <;> cases hc
    rcases addMetric_cases hadd with ⟨rfl, -⟩ | ⟨rfl, -⟩ <;>
      exact ⟨hsound, hqueued, hwritten⟩
  | addInstance domain label number =>
    rcases addInstance_cases h.sound.wellFormed hc with rfl | ⟨rfl, -⟩ <;>
      exact ⟨hsound, hqueued, hwritten⟩
  | put handle label text =>
    obtain ⟨m, kept, hm, hkept, rfl⟩ := put_cases hc
    have hput : (Put.mk m (s.numberAt m label) text).StoredIn s ⟨m.id, kept, text⟩ :=
      ⟨List.mem_of_getElem? hm, rfl, numberOf_instanceFor hkept, rfl⟩
    refine ⟨hsound, ?_, hwritten⟩
    rw [Ledger.noteTaken, putAt, hm]
    exact List.rel_append hqueued (.cons (storedIn_mono hput hgrows) .nil)
  | write timestamp =>
    obtain rfl := write_cases hc
    exact ⟨hsound, .nil, List.rel_append hwritten (.cons ⟨rfl, hqueued⟩ .nil)⟩
  | close =>
    cases hc
    exact ⟨hsound, hqueued, hwritten⟩

theorem Follows.call (h : s.Follows l) (c : Call) : (s.call c).Follows (l.note s c) := by
  unfold Store.call Ledger.note
  rcases hc : s.attempt c with e | s'
  · exact h
  · exact h.taken hc

theorem Follows.through (h : s.Follows l) (calls : List Call) :
    (calls.foldl Store.call s).Follows (l.through s calls) := by
  induction calls generalizing s l with
  | nil => exact h
  | cons c cs ih => exact ih (h.call c)

/-- Neither the metric nor the instance of a stored value can be missing: only its text decides. -/
theorem metricReading?_eq (hs : s.Sound) (h : p.StoredIn s v) : s.metricReading? v = p.entry? := by
  have hm : s.metric? v.metric = some p.metric := by
    rw [h.metric]
    exact hs.metric?_of_mem h.known
  unfold metricReading? reading? Put.entry?
  rw [hm, h.text, h.metric]
  show Option.map _ ((Value.read? p.metric.kind p.text).bind fun value =>
    (s.numberOf p.metric v).bind fun number => some (number, value)) = _
  rw [h.number]
  cases Value.read? p.metric.kind p.text <;> rfl

theorem filterMap_metricReading? (hs : s.Sound) {ps : List Put} {vs : List StoredValue}
    (h : List.Forall₂ (Put.StoredIn s) ps vs) :
    vs.filterMap s.metricReading? = ps.filterMap Put.entry? := by
  induction h with
  | nil => rfl
  | cons hv _ ih => rw [List.filterMap_cons, List.filterMap_cons, metricReading?_eq hs hv, ih]

theorem Follows.fetch (h : s.Follows l) : List.Forall₂ Tells l.written s.fetch := by
  refine List.forall₂_map_right_iff.mpr (h.written.imp fun w r hr => ⟨hr.timestamp, ?_⟩)
  rw [sets_decode, filterMap_metricReading? h.sound hr.values]
  exact grouped_gather _

/-- Fetching loses nothing, after any calls. -/
theorem fetch_after (calls : List Call) :
    List.Forall₂ Tells (Ledger.of calls).written (after calls).fetch :=
  (follows_empty.through calls).fetch

end Store

end ActivityArchive
