import ActivityArchive.Instance.Domains
import ActivityArchive.Proofs.Instance.Loading
import ActivityArchive.Proofs.Json.RoundTrip
import ActivityArchive.Proofs.Store.Calls
import ActivityArchive.Store.Dump

/-!
Dumps of stores. A store comes back from its dump without the values that are queued: its instances
are taken in again one by one and none of them is refused, as no call ever lets two of a domain
share a number or a label (`Dumpable`). What is read from it afterwards is what was read from it
before.
-/
namespace ActivityArchive

open Json

theorem MetricId.carries (id : MetricId) : MetricId.codec.Carries 0 id :=
  (Codec.word32_carries id.raw).wrapped rfl (fun _ => rfl) rfl

theorem DomainId.carries (id : DomainId) : DomainId.codec.Carries 0 id :=
  (Codec.word32_carries id.raw).wrapped rfl (fun _ => rfl) rfl

theorem Kind.carries (k : Kind) : Kind.codec.Carries 0 k :=
  Codec.choice_carries (by cases k <;> decide) (by cases k <;> decide)

theorem Semantics.carries (x : Semantics) : Semantics.codec.Carries 0 x :=
  Codec.choice_carries (by cases x <;> decide) (by cases x <;> decide)

theorem MetricUnit.carries (u : MetricUnit) : MetricUnit.codec.Carries 0 u :=
  Codec.choice_carries (by cases u <;> decide) (by cases u <;> decide)

theorem Descriptor.carries_domain (domain : Option DomainId) :
    (Codec.option DomainId.codec).Carries 0 domain := by
  cases domain with
  | none => exact Codec.option_none_carries _
  | some d => exact Codec.option_some_carries d.carries nofun

theorem Descriptor.carries (d : Descriptor) : Descriptor.shape.codec.Carries 1 d :=
  Shape.carries (by decide +kernel)
    (.cons (Member.plain_carries d.id.carries) <|
      .cons (Member.plain_carries (Codec.text_carries d.name)) <|
      .cons (Member.plain_carries d.kind.carries) <|
      .cons (Member.plain_carries d.semantics.carries) <|
      .cons (Member.plain_carries (carries_domain d.domain)) <|
      .cons (Member.plain_carries d.unit.carries) .nil)
    rfl

theorem Instance.carries {i : Instance} (h : Within (UInt32.size / 2) i.number) :
    Instance.shape.codec.Carries 1 i :=
  Shape.carries (by decide +kernel)
    (.cons (Member.plain_carries i.domain.carries) <|
      .cons (Member.plain_carries (Codec.signed_carries h)) <|
      .cons (Member.plain_carries (Codec.text_carries i.label)) .nil)
    rfl

theorem Registry.carries {r : Registry} (h : r.Tidy)
    (hnumbers : ∀ d, ∀ e ∈ r.entries d, Within (UInt32.size / 2) e.1) :
    Registry.codec.Carries 2 r := by
  have hlist : (Codec.list Instance.shape.codec).Carries 2 r.toList :=
    Codec.list_carries fun i hi =>
    Instance.carries (hnumbers i.domain _ ((h.mem_toList i).mp hi))
  refine ⟨?_, hlist.whole⟩
  have hread := hlist.read
  simp only [Registry.codec, hread]
  show (ofList r.toList).toOption = some r
  rw [h.ofList_toList]
  rfl

theorem StoredValue.carries (v : StoredValue) : StoredValue.shape.codec.Carries 1 v := by
  refine Shape.carries (by decide +kernel)
    (.cons (Member.plain_carries v.metric.carries) <|
      .cons (Member.optional_carries fun label _ => ⟨Codec.text_carries label, nofun⟩) <|
      .cons (Member.plain_carries (Codec.text_carries v.text)) .nil) ?_
  obtain ⟨metric, _ | label, text⟩ := v <;> rfl

theorem StoredRecord.carries {r : StoredRecord} (h : Within (UInt64.size / 2) r.timestamp) :
    StoredRecord.shape.codec.Carries 3 r :=
  Shape.carries (by decide +kernel)
    (.cons (Member.plain_carries ((Codec.signed_carries h).mono (Nat.zero_le 2))) <|
      .cons (Member.plain_carries (Codec.list_carries fun v _ => v.carries)) .nil)
    rfl

namespace Store

variable {s s' : Store} {c : Call}

/-- Numbers of instances are kept in 32 bits and timestamps in 64. -/
def Call.Representable : Call → Prop
  | .addInstance _ _ number => Within (UInt32.size / 2) number
  | .write timestamp => Within (UInt64.size / 2) timestamp
  | _ => True

instance : (c : Call) → Decidable c.Representable
  | .addInstance _ _ number => inferInstanceAs (Decidable (Within _ number))
  | .write timestamp => inferInstanceAs (Decidable (Within _ timestamp))
  | .addMetric _ => inferInstanceAs (Decidable True)
  | .put .. => inferInstanceAs (Decidable True)
  | .close => inferInstanceAs (Decidable True)

structure Dumpable (s : Store) : Prop where
  tidy : s.instances.Tidy
  numbers : ∀ d, ∀ e ∈ s.instances.entries d, Within (UInt32.size / 2) e.1
  timestamps : ∀ r ∈ s.records, Within (UInt64.size / 2) r.timestamp

theorem dumpable_empty : empty.Dumpable := ⟨Registry.tidy_empty, nofun, nofun⟩

theorem Dumpable.attempt (h : s.Dumpable) (hc : c.Representable) (hok : s.attempt c = .ok s') :
    s'.Dumpable := by
  cases c with
  | addMetric d =>
    rcases hadd : s.addMetric d with _ | ⟨handle, s₁⟩ <;> rw [Store.attempt, hadd] at hok <;>
      cases hok
    rcases addMetric_cases hadd with ⟨rfl, -⟩ | ⟨rfl, -, -⟩
    · exact h
    · exact ⟨h.tidy, h.numbers, h.timestamps⟩
  | addInstance domain label number =>
    rcases addInstance_cases h.tidy.wellFormed hok with rfl | ⟨rfl, hn, hl⟩
    · exact h
    · refine ⟨h.tidy.insert hn hl, fun d e he => ?_, h.timestamps⟩
      rcases Registry.mem_entries_insert.mp he with he | ⟨-, rfl⟩
      · exact h.numbers d e he
      · exact hc
  | put handle label text =>
    obtain ⟨m, kept, -, -, rfl⟩ := put_cases hok
    exact ⟨h.tidy, h.numbers, h.timestamps⟩
  | write timestamp =>
    rw [write_cases hok]
    refine ⟨h.tidy, h.numbers, fun r hr => ?_⟩
    rcases List.mem_append.mp hr with hr | hr
    · exact h.timestamps r hr
    · rw [List.mem_singleton.mp hr]
      exact hc
  | close =>
    cases hok
    exact ⟨h.tidy, h.numbers, h.timestamps⟩

theorem Dumpable.call (h : s.Dumpable) (hc : c.Representable) : (s.call c).Dumpable := by
  rw [Store.call]
  split
  · rename_i s' hok
    exact h.attempt hc hok
  · exact h

theorem dumpable_after {calls : List Call} (h : ∀ c ∈ calls, c.Representable) :
    (after calls).Dumpable :=
  List.foldlRecOn calls call dumpable_empty fun _ hs c hc => Dumpable.call hs (h c hc)

/-- A store without queued values is carried as a whole. -/
theorem Dumpable.carries (h : s.Dumpable) (hpending : s.pending = []) :
    shape.codec.Carries 5 s := by
  have hrecords : (Codec.list StoredRecord.shape.codec).Carries 4 s.records :=
    Codec.list_carries fun r hr => StoredRecord.carries (h.timestamps r hr)
  refine Shape.carries (by decide +kernel)
    (.cons (Member.plain_carries ((Codec.list_carries fun d _ => d.carries).mono (by decide))) <|
      .cons (Member.plain_carries ((Registry.carries h.tidy h.numbers).mono (by decide))) <|
      .cons (Member.plain_carries hrecords) <|
      .cons (Member.plain_carries ((Codec.bool_carries s.isSealed).mono (by decide))) .nil) ?_
  obtain ⟨metrics, instances, records, pending, isSealed⟩ := s
  cases hpending
  rfl

theorem Dumpable.ofJson?_toJson (h : s.Dumpable) :
    shape.ofJson? (shape.toJson s) = some { s with pending := [] } := by
  have hrest : Dumpable { s with pending := [] } := ⟨h.tidy, h.numbers, h.timestamps⟩
  -- No member of a dump looks at the queued values.
  exact (hrest.carries rfl).read

/-- A store with the same content and the same answers, with nothing queued. -/
structure ReadBack (s s' : Store) : Prop where
  metrics : s'.metrics = s.metrics
  records : s'.records = s.records
  isSealed : s'.isSealed = s.isSealed
  inUse : s'.instances.inUse = s.instances.inUse
  entries : ∀ d, s'.instances.entries d = s.instances.entries d
  label? : ∀ d n, s'.instances.label? d n = s.instances.label? d n
  number? : ∀ d l, s'.instances.number? d l = s.instances.number? d l
  pending : s'.pending = []
  fetch : s'.fetch = s.fetch
  json : shape.toJson s' = shape.toJson s

/-- Whatever was done to a store, its dump reads as the store without the values that were queued,
and the tables that are built of the instances in the dump show them as they were. -/
theorem dump_reads_back (digest : String → UInt64) (calls : List Call)
    (h : ∀ c ∈ calls, c.Representable) :
    ∃ s', shape.ofJson? (shape.toJson (after calls)) = some s' ∧ ReadBack (after calls) s' ∧
      ∃ x, IndexedRegistry.ofList digest (after calls).instances.toList = .ok x ∧
        x.Shows digest s'.instances := by
  have hdumpable := dumpable_after h
  refine ⟨{ after calls with pending := [] }, hdumpable.ofJson?_toJson, ?_, ?_⟩
  · exact ⟨rfl, rfl, rfl, rfl, fun _ => rfl, fun _ _ => rfl, fun _ _ => rfl, rfl, rfl, rfl⟩
  · exact IndexedRegistry.ofList_shows digest hdumpable.tidy

/-- Instances of two domains, not one domain after the other, and a value that is queued when the
store is closed. -/
def queuedCalls : List Call :=
  [ .addMetric ⟨.pack 60 2 0, "kernel.all.load", .float, .instant,
    some Domain.loadAverage, .none⟩,
    .addMetric ⟨.pack 60 2 3, "kernel.all.nprocs", .u32, .instant, none, .none⟩,
    .addInstance Domain.loadAverage "1 minute" 1,
    .addInstance Domain.pressure "10 second" 10,
    .addInstance Domain.loadAverage "5 minute" 5,
    .addInstance Domain.loadAverage "5 minute" 1,
    .put 0 (some "5 minute") "0.05",
    .write 60,
    .put 1 none "7",
    .close ]

/-- Even where all labels have one digest. -/
theorem dump_reads_back_queued :
    (∀ c ∈ queuedCalls, c.Representable) ∧
      ((after queuedCalls).records.length = 1 ∧ (after queuedCalls).pending.length = 1) ∧
      ∃ s', shape.ofJson? (shape.toJson (after queuedCalls)) = some s' ∧
      ReadBack (after queuedCalls) s' ∧
        ∃ x, IndexedRegistry.ofList (fun _ => 0) (after queuedCalls).instances.toList = .ok x ∧
          x.Shows (fun _ => 0) s'.instances :=
  ⟨by decide, by decide +kernel, dump_reads_back (fun _ => 0) queuedCalls (by decide)⟩

end Store

end ActivityArchive
