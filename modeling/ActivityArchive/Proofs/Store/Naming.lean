import ActivityArchive.Proofs.Store.Calls

/-!
What the values of a store name, after any calls: a metric that the store has, and an instance that
it has in the domain of that metric. Only metrics that are added can have values.
-/
namespace ActivityArchive.Store

/-- A value of a known metric, with a known instance where its metric has a domain, else without. -/
def Names (s : Store) (v : StoredValue) : Prop :=
  ∃ m ∈ s.metrics, m.id = v.metric ∧
    match m.domain with
    | some d => ∃ l n, v.label = some l ∧ s.instances.number? d l = some n
    | none => v.label = none

variable {A : Descriptor → Prop} {s s' : Store} {v : StoredValue} {m : Descriptor}
  {label kept : Option String}

theorem Names.grows (h : s.Names v) (hg : Grows s s') : s'.Names v := by
  obtain ⟨m, hm, hid, hlabel⟩ := h
  refine ⟨m, hg.metrics hm, hid, ?_⟩
  split
  · rename_i d hd
    rw [hd] at hlabel
    obtain ⟨l, n, hl, hn⟩ := hlabel
    exact ⟨l, n, hl, hg.number d l n hn⟩
  · rename_i hd
    rw [hd] at hlabel
    exact hlabel

theorem names_of_instanceFor (hm : m ∈ s.metrics) (h : s.instanceFor m label = .ok kept)
    (text : String) : s.Names ⟨m.id, kept, text⟩ := by
  refine ⟨m, hm, rfl, ?_⟩
  unfold instanceFor at h
  split at h
  · rename_i d l hd
    split at h
    · rename_i hsome
      cases h
      obtain ⟨n, hn⟩ := Option.isSome_iff_exists.mp hsome
      rw [hd]
      exact ⟨l, n, rfl, hn⟩
    · cases h
  · cases h
  · rename_i hd
    cases h
    rw [hd]

/-- A store of allowed metrics, whose values name what it has. -/
structure Labelled (A : Descriptor → Prop) (s : Store) : Prop where
  sound : s.Sound
  allowed : ∀ m ∈ s.metrics, A m
  pending : ∀ v ∈ s.pending, s.Names v
  written : ∀ r ∈ s.records, ∀ v ∈ r.values, s.Names v

theorem labelled_empty (A : Descriptor → Prop) : empty.Labelled A :=
  ⟨sound_empty, by simp [empty], by simp [empty], by simp [empty]⟩

/-- A call that adds no metric but allowed ones. -/
def Call.Adds (A : Descriptor → Prop) : Call → Prop
  | .addMetric d => A d
  | _ => True

theorem Labelled.attempt {c : Call} (h : s.Labelled A) (hadds : c.Adds A)
    (hc : s.attempt c = .ok s') : s'.Labelled A := by
  obtain ⟨hsound, hgrows⟩ := h.sound.attempt hc
  have hpending : ∀ v ∈ s.pending, s'.Names v := fun v hv => (h.pending v hv).grows hgrows
  have hwritten : ∀ r ∈ s.records, ∀ v ∈ r.values, s'.Names v :=
    fun r hr v hv => (h.written r hr v hv).grows hgrows
  cases c with
  | addMetric d =>
    rcases hadd : s.addMetric d with _ | ⟨handle, s₁⟩ <;> rw [Store.attempt, hadd] at hc <;>
      cases hc
    rcases addMetric_cases hadd with ⟨rfl, -⟩ | ⟨rfl, -⟩
    · exact h
    · refine ⟨hsound, fun m hm => ?_, hpending, hwritten⟩
      rcases List.mem_append.mp hm with hm | hm
      · exact h.allowed m hm
      · exact List.mem_singleton.mp hm ▸ hadds
  | addInstance d l n =>
    rcases addInstance_cases h.sound.wellFormed hc with rfl | ⟨rfl, -⟩
    · exact h
    · exact ⟨hsound, h.allowed, hpending, hwritten⟩
  | put handle label text =>
    obtain ⟨m, kept, hm, hkept, rfl⟩ := put_cases hc
    refine ⟨hsound, h.allowed, fun v hv => ?_, hwritten⟩
    rcases List.mem_append.mp hv with hv | hv
    · exact hpending v hv
    · obtain rfl := List.mem_singleton.mp hv
      exact (names_of_instanceFor (List.mem_of_getElem? hm) hkept text).grows hgrows
  | write timestamp =>
    obtain rfl := write_cases hc
    refine ⟨hsound, h.allowed, by simp, fun r hr => ?_⟩
    rcases List.mem_append.mp hr with hr | hr
    · exact hwritten r hr
    · obtain rfl := List.mem_singleton.mp hr
      exact hpending
  | close =>
    cases hc
    exact ⟨hsound, h.allowed, hpending, hwritten⟩

/-- A value of a record stands for a metric that is allowed. -/
theorem Labelled.metric_of_written (h : s.Labelled A) {r : StoredRecord} (hr : r ∈ s.records)
    (hv : v ∈ r.values) : ∃ m, A m ∧ m.id = v.metric := by
  obtain ⟨m, hm, hid, -⟩ := h.written r hr v hv
  exact ⟨m, h.allowed m hm, hid⟩

end ActivityArchive.Store
