import ActivityArchive.Archive
import ActivityArchive.Proofs.Record.Fields
import ActivityArchive.Proofs.Steps

/-!
Archives come back from their JSON. A sample is read as changes of a blank one, one for each member
that was written: each takes one kind of records over from the sample that was written and leaves
the others alone (`Copies`), and what was left out is blank there as well. Only what JSON has no
number for is lost, so the sensors must read finite numbers.
-/
namespace ActivityArchive

open Json Record

theorem Record.InterruptTable.carries (t : InterruptTable) :
    InterruptTable.shape.codec.Carries 3 t := by
  have hlines : (Codec.list Codec.text).Carries 1 t.lines :=
    Codec.list_carries fun line _ => Codec.text_carries line
  have hcounts : (Codec.list (Codec.list Codec.word64)).Carries 2 t.counts :=
    Codec.list_carries fun row _ => Codec.list_carries fun n _ => Codec.word64_carries n
  exact Shape.carries (by decide +kernel)
    (.cons (Member.plain_carries (hlines.mono (by decide))) <|
      .cons (Member.plain_carries hcounts) .nil)
    rfl

namespace Sample

variable {s t : Sample}

/-- What the reader makes of the members of a written sample, in their order. -/
def singleChange (s : Sample) (k : Single) (t : Sample) : Sample :=
  (s.single k).elim t fun r => { t with toGroups := t.setSingle k (some r) }

def multiChange (s : Sample) (k : Multi) (t : Sample) : Sample :=
  if (s.multi k).isEmpty then t else { t with toGroups := t.setMulti k (s.multi k) }

def irqChange (s t : Sample) : Sample := s.irq.elim t fun table => { t with irq := some table }

def changes (s : Sample) : List (Sample → Sample) :=
  [fun t => { t with timestamp := s.timestamp }] ++ Single.all.map s.singleChange ++
    Multi.all.map s.multiChange ++ [s.irqChange]

/-- A change that makes nothing different that is as in `s`. -/
structure Copies (s : Sample) (f : Sample → Sample) : Prop where
  timestamp : ∀ t, t.timestamp = s.timestamp → (f t).timestamp = s.timestamp
  single : ∀ k t, t.single k = s.single k → (f t).single k = s.single k
  multi : ∀ k t, t.multi k = s.multi k → (f t).multi k = s.multi k
  irq : ∀ t, t.irq = s.irq → (f t).irq = s.irq

theorem singleChange_single (s : Sample) (k : Single) (t : Sample) (h : (s.single k).isSome) :
    (s.singleChange k t).single k = s.single k := by
  obtain ⟨r, hr⟩ := Option.isSome_iff_exists.mp h
  rw [singleChange, hr]
  exact Groups.single_setSingle _ _ _

theorem multiChange_multi (s : Sample) (k : Multi) (t : Sample) (h : s.multi k ≠ []) :
    (s.multiChange k t).multi k = s.multi k := by
  rw [multiChange, if_neg (by simpa using h)]
  exact Groups.multi_setMulti _ _ _

theorem copies_id (s : Sample) : Copies s id :=
  ⟨fun _ h => h, fun _ _ h => h, fun _ _ h => h, fun _ h => h⟩

theorem copies_singleChange (s : Sample) (k : Single) : Copies s (s.singleChange k) := by
  cases hk : s.single k with
  | none =>
    have hid : s.singleChange k = id := by funext t; rw [singleChange, hk]; rfl
    rw [hid]
    exact s.copies_id
  | some r =>
    have hset : ∀ t, s.singleChange k t = { t with toGroups := t.setSingle k (some r) } := by
      intro t
      rw [singleChange, hk]
      rfl
    refine ⟨fun t h => ?_, fun l t h => ?_, fun l t h => ?_, fun t h => ?_⟩
    · rw [hset]
      exact h
    · by_cases hl : l = k
      · subst hl
        exact s.singleChange_single l t (by rw [hk]; rfl)
      · rw [hset]
        exact (Groups.single_setSingle_ne _ hl _).trans h
    · rw [hset]
      exact (Groups.multi_setSingle _ _ _ _).trans h
    · rw [hset]
      exact h

theorem copies_multiChange (s : Sample) (k : Multi) : Copies s (s.multiChange k) := by
  by_cases hk : s.multi k = []
  · have hid : s.multiChange k = id := by funext t; rw [multiChange, hk]; rfl
    rw [hid]
    exact s.copies_id
  · have hset : ∀ t, s.multiChange k t = { t with toGroups := t.setMulti k (s.multi k) } :=
      fun t =>
      if_neg (by simpa using hk)
    refine ⟨fun t h => ?_, fun l t h => ?_, fun l t h => ?_, fun t h => ?_⟩
    · rw [hset]
      exact h
    · rw [hset]
      exact (Groups.single_setMulti _ _ _ _).trans h
    · by_cases hl : l = k
      · subst hl
        exact s.multiChange_multi l t hk
      · rw [hset]
        exact (Groups.multi_setMulti_ne _ hl _).trans h
    · rw [hset]
      exact h

theorem copies_irqChange (s : Sample) : Copies s s.irqChange := by
  cases hirq : s.irq with
  | none =>
    have hid : s.irqChange = id := by funext t; rw [irqChange, hirq]; rfl
    rw [hid]
    exact s.copies_id
  | some table =>
    have hset : ∀ t, s.irqChange t = { t with irq := some table } := by
      intro t
      rw [irqChange, hirq]
      rfl
    refine ⟨fun t h => ?_, fun l t h => ?_, fun l t h => ?_, fun t _ => ?_⟩ <;> rw [hset]
    · exact h
    · exact h
    · exact h
    · exact hirq.symm

theorem copies_changes (s : Sample) : ∀ f ∈ s.changes, Copies s f := by
  intro f hf
  simp only [changes, List.mem_append, List.mem_map, List.mem_singleton] at hf
  rcases hf with ((rfl | ⟨k, -, rfl⟩) | ⟨k, -, rfl⟩) | rfl
  · exact ⟨fun _ _ => rfl, fun _ _ h => h, fun _ _ h => h, fun _ h => h⟩
  · exact s.copies_singleChange k
  · exact s.copies_multiChange k
  · exact s.copies_irqChange

theorem ext_parts (htime : s.timestamp = t.timestamp) (hs : ∀ k, s.single k = t.single k)
    (hm : ∀ k, s.multi k = t.multi k) (hirq : s.irq = t.irq) : s = t := by
  obtain ⟨groups, timestamp, irq⟩ := s
  obtain ⟨groups', timestamp', irq'⟩ := t
  have hgroups : groups = groups' := Groups.ext_kinds hs hm
  cases hgroups
  cases htime
  cases hirq
  rfl

/-- What no change undoes comes about where the blank sample has it or one of the changes brings it.
-/
theorem foldl_changes_reaches {P : Sample → Prop}
    (hkeep : ∀ f ∈ s.changes, ∀ t, P t → P (f t))
    (h : P blank ∨ ∃ f ∈ s.changes, ∀ t, P (f t)) :
    P (s.changes.foldl (fun t f => f t) blank) := by
  rcases h with hblank | ⟨f, hf, hset⟩
  · exact List.foldlRecOn s.changes _ hblank fun t ht f hf => hkeep f hf t ht
  · exact foldl_reaches hf hset hkeep blank

/-- What the sample has is copied by its own change, and what it has not is blank from the first. -/
theorem foldl_changes (s : Sample) : s.changes.foldl (fun t f => f t) blank = s := by
  have hcopies := s.copies_changes
  refine ext_parts ?_ (fun k => ?_) (fun k => ?_) ?_
  · refine foldl_changes_reaches (fun f hf => (hcopies f hf).timestamp) (Or.inr ?_)
    exact ⟨fun t => { t with timestamp := s.timestamp }, by simp [changes], fun _ => rfl⟩
  · refine foldl_changes_reaches (fun f hf => (hcopies f hf).single k) ?_
    by_cases hk : (s.single k).isSome
    · refine Or.inr ⟨s.singleChange k, ?_, fun t => s.singleChange_single k t hk⟩
      simp only [changes, List.mem_append, List.mem_map]
      exact Or.inl (Or.inl (Or.inr ⟨k, by cases k <;> decide, rfl⟩))
    · rw [Option.not_isSome_iff_eq_none.mp hk]
      exact Or.inl (Groups.single_ofFun _ _ k)
  · refine foldl_changes_reaches (fun f hf => (hcopies f hf).multi k) ?_
    by_cases hk : s.multi k = []
    · rw [hk]
      exact Or.inl (Groups.multi_ofFun _ _ k)
    · refine Or.inr ⟨s.multiChange k, ?_, fun t => s.multiChange_multi k t hk⟩
      simp only [changes, List.mem_append, List.mem_map]
      exact Or.inl (Or.inr ⟨k, by cases k <;> decide, rfl⟩)
  · refine foldl_changes_reaches (fun f hf => (hcopies f hf).irq) ?_
    cases hirq : s.irq with
    | none => exact Or.inl rfl
    | some table =>
      refine Or.inr ⟨s.irqChange, by simp [changes], fun t => ?_⟩
      rw [irqChange, hirq]
      rfl

/-- Sensors that read numbers, at a time of 64 bits. -/
structure Representable (s : Sample) : Prop where
  timestamp : Within (UInt64.size / 2) s.timestamp
  temperatures : ∀ r ∈ s.temp, Record.Finite r
  voltages : ∀ r ∈ s.voltage, Record.Finite r

theorem Representable.finite (h : s.Representable) (k : Multi) :
    ∀ r ∈ s.multi k, Record.Finite r := by
  intro r hr
  by_cases ht : k = .temp
  · subst ht
    exact h.temperatures r hr
  · by_cases hv : k = .voltage
    · subst hv
      exact h.voltages r hr
    · exact Multi.finite ht hv r

theorem carries_singleMember (s : Sample) (k : Single) :
    (singleMember k).Carries 3 s (s.singleChange k) :=
  Member.optional_carries fun r _ =>
    ⟨(Record.carries k.described (k.finite r)).mono (by decide), Shape.write_codec_ne_null _ r⟩

theorem Representable.carries_multiMember (h : s.Representable) (k : Multi) :
    (multiMember k).Carries 3 s (s.multiChange k) :=
  Member.many_carries (Codec.list_carries fun r hr => Record.carries k.described (h.finite k r hr))

theorem Representable.carries (h : s.Representable) : shape.codec.Carries 4 s := by
  have htime : (Member.plain "timestamp" .anywhere .seconds (·.timestamp)
      (fun x s => { s with timestamp := x })).Carries 3 s
        fun t : Sample => { t with timestamp := s.timestamp } :=
    Member.plain_carries ((Codec.signed_carries h.timestamp).mono (Nat.zero_le 3))
  have hirq : (Member.optional "irq" InterruptTable.shape.codec (·.irq)
      (fun x s => { s with irq := x })).Carries 3 s s.irqChange :=
    Member.optional_carries fun table _ => ⟨table.carries, Shape.write_codec_ne_null _ table⟩
  have hsingles := Member.carries_map fun k (_ : k ∈ Single.all) => s.carries_singleMember k
  have hmultis := Member.carries_map fun k (_ : k ∈ Multi.all) => h.carries_multiMember k
  have hmembers : List.Forall₂ (fun m f => m.Carries 3 s f) shape.members s.changes :=
    List.rel_append (List.rel_append (List.rel_append htime.alone hsingles) hmultis) hirq.alone
  exact Shape.carries (by decide +kernel) hmembers s.foldl_changes

end Sample

namespace Archive

variable {a : Archive}

theorem carries (h : ∀ s ∈ a.samples, s.Representable) : shape.codec.Carries 6 a := by
  have hsamples : (Codec.list Sample.shape.codec).Carries 5 a.samples :=
    Codec.list_carries fun s hs => (h s hs).carries
  have hheader : (Record.codec HostHeader).Carries 5 a.header :=
    (Record.carries Record.described_header (Record.finite_header a.header)).mono (by decide)
  exact Shape.carries (by decide +kernel)
    (.cons (Member.plain_carries hheader) <| .cons (Member.plain_carries hsamples) .nil) rfl

/-- An archive of any records is read back from what is written of it, as long as its sensors read
numbers. -/
theorem interchange_reads_back (a : Archive) (h : ∀ s ∈ a.samples, s.Representable) :
    ofJson? (shape.toJson a) = some a := by
  have hwhole : (shape.toJson a).whole depthLimit = true := (carries h).whole 121
  have hread : shape.ofJson? (shape.toJson a) = some a := (carries h).read
  rw [ofJson?, if_pos hwhole, hread]

/-- A sample of a few records, one of them as blank as can be, and a sample of nothing. -/
def sparse : Archive where
  header := { ncpu := 2, sysname := "Linux" }
  samples :=
    [ { Sample.blank with
        timestamp := 1700000000
        record := some {}
        cpu := [{}, { user := 100, idle := 900 }]
        temp := [⟨"coretemp-isa-0000", 45.5, 0, 100⟩]
        voltage := [{ device := "nct6775", voltage := 1.25 }]
        irq := some ⟨["sum", "LOC"], [[7, 7], [7]]⟩ },
      Sample.blank ]

theorem sparse_representable : ∀ s ∈ sparse.samples, s.Representable := by
  intro s hs
  rcases List.mem_pair.mp hs with rfl | rfl <;> exact ⟨by decide, by decide, by decide⟩

theorem interchange_reads_back_sparse :
    (∀ s ∈ sparse.samples, s.Representable) ∧ ofJson? (shape.toJson sparse) = some sparse :=
  ⟨sparse_representable, interchange_reads_back sparse sparse_representable⟩

end Archive

end ActivityArchive
