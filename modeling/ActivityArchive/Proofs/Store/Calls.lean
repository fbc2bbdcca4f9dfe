import ActivityArchive.Proofs.Instance.Bijection
import ActivityArchive.Store.Fetch

/-!
Stores under any calls. A refused call leaves the store as it is. Metrics keep different
identifiers, numbers and labels of instances determine each other, and what a store knows it does
not forget.
-/
namespace ActivityArchive.Store

inductive Call
  | addMetric (d : Descriptor)
  | addInstance (d : DomainId) (label : String) (number : Int)
  | put (handle : Handle) (label : Option String) (text : String)
  | write (timestamp : Int)
  | close

def attempt (s : Store) : Call → Except StoreError Store
  | .addMetric d => (s.addMetric d).map (·.2)
  | .addInstance d label number => s.addInstance d label number
  | .put handle label text => s.put handle label text
  | .write timestamp => s.write timestamp
  | .close => .ok s.close

def call (s : Store) (c : Call) : Store :=
  match s.attempt c with
  | .ok s' => s'
  | .error _ => s

/-- The store after some calls on a new one. -/
def after (calls : List Call) : Store := calls.foldl call empty

variable {s s' s'' : Store} {c : Call}

section Outcomes

variable {d : Descriptor} {domain : DomainId} {label : String} {number timestamp : Int}
  {handle handle' : Handle} {label? : Option String} {text : String}

/-- A metric that was added was known under its handle, or comes last. -/
theorem addMetric_cases (h : s.addMetric d = .ok (handle, s')) :
    (s' = s ∧ s.metrics[handle]? = some d) ∨
      (s' = { s with metrics := s.metrics ++ [d] } ∧ handle = s.metrics.length ∧
        d.id ∉ s.metrics.map (·.id)) := by
  unfold addMetric at h
  split at h
  · cases h
  · split at h
    · split at h
      · rename_i hknown
        cases h
        exact Or.inl ⟨rfl, hknown⟩
      · cases h
    · rename_i hnone
      cases h
      refine Or.inr ⟨rfl, rfl, fun hm => ?_⟩
      obtain ⟨m, hm, hid⟩ := List.mem_map.mp hm
      have hno := List.findIdx?_eq_none_iff.mp hnone m hm
      simp [hid] at hno

theorem addInstance_cases (hw : s.instances.WellFormed)
    (h : s.addInstance domain label number = .ok s') :
    s' = s ∨ (s' = { s with instances := s.instances.insert domain (number, label) } ∧
      (∀ e ∈ s.instances.entries domain, e.1 ≠ number) ∧
        ∀ e ∈ s.instances.entries domain, e.2 ≠ label) := by
  unfold addInstance at h
  split at h
  · cases h
  · rcases Registry.add_cases hw domain label number with ⟨hadd, -⟩ | ⟨hadd, hn, hl⟩ |
      ⟨cause, hadd, -⟩ <;> rw [hadd] at h <;> cases h
    · exact Or.inl rfl
    · exact Or.inr ⟨rfl, hn, hl⟩

/-- A value that was put has the metric of its handle, and the instance that metric asks for. -/
theorem put_cases (h : s.put handle label? text = .ok s') :
    ∃ m kept, s.metrics[handle]? = some m ∧ s.instanceFor m label? = .ok kept ∧
      s' = { s with pending := s.pending ++ [⟨m.id, kept, text⟩] } := by
  unfold put at h
  split at h
  · cases h
  · split at h
    · cases h
    · rename_i m hm
      rcases hkept : s.instanceFor m label? with _ | kept <;> rw [hkept] at h <;> cases h
      exact ⟨m, kept, hm, hkept, rfl⟩

theorem write_cases (h : s.write timestamp = .ok s') :
    s' = { s with records := s.records ++ [⟨timestamp, s.pending⟩], pending := [] } := by
  unfold write at h
  split at h
  · cases h
  · cases h
    rfl

end Outcomes

/-- Numbers of instances and metrics that a store knows are known to every later one. -/
structure Grows (s s' : Store) : Prop where
  metrics : s.metrics ⊆ s'.metrics
  number : ∀ d label n, s.instances.number? d label = some n →
    s'.instances.number? d label = some n

theorem Grows.refl (s : Store) : Grows s s := ⟨List.Subset.refl _, fun _ _ _ h => h⟩

theorem Grows.trans (h : Grows s s') (h' : Grows s' s'') : Grows s s'' :=
  ⟨List.Subset.trans h.metrics h'.metrics, fun d label n hn => h'.number d label n
    (h.number d label n hn)⟩

structure Sound (s : Store) : Prop where
  nodup : (s.metrics.map (·.id)).Nodup
  wellFormed : s.instances.WellFormed

theorem sound_empty : empty.Sound := ⟨List.nodup_nil, Registry.wellFormed_empty⟩

theorem Sound.attempt (h : s.Sound) (hc : s.attempt c = .ok s') : s'.Sound ∧ Grows s s' := by
  cases c with
  | addMetric d =>
    rcases hadd : s.addMetric d with _ | ⟨handle, s₁⟩ <;> rw [Store.attempt, hadd] at hc <;>
      cases hc
    rcases addMetric_cases hadd with ⟨rfl, -⟩ | ⟨rfl, -, hfresh⟩
    · exact ⟨h, .refl s₁⟩
    · refine ⟨⟨?_, h.wellFormed⟩, List.subset_append_left _ _, fun _ _ _ hn => hn⟩
      rw [List.map_append, List.nodup_append]
      refine ⟨h.nodup, by simp, ?_⟩
      intro id hid id' hid' he
      rw [he, List.mem_singleton.mp hid'] at hid
      exact hfresh hid
  | addInstance domain label number =>
    rcases addInstance_cases h.wellFormed hc with rfl | ⟨rfl, hn, hl⟩
    · exact ⟨h, .refl s'⟩
    · have hw := Registry.wellFormed_insert h.wellFormed hn hl
      refine ⟨⟨h.nodup, hw⟩, List.Subset.refl _, fun d label n hn => ?_⟩
      exact (Registry.number?_eq_some_iff hw).mpr
        (Registry.mem_entries_insert_of_mem (Registry.mem_of_number? hn))
  | put handle label text =>
    obtain ⟨m, kept, -, -, rfl⟩ := put_cases hc
    exact ⟨⟨h.nodup, h.wellFormed⟩, List.Subset.refl _, fun _ _ _ hn => hn⟩
  | write timestamp =>
    rw [write_cases hc]
    exact ⟨⟨h.nodup, h.wellFormed⟩, List.Subset.refl _, fun _ _ _ hn => hn⟩
  | close =>
    cases hc
    exact ⟨⟨h.nodup, h.wellFormed⟩, List.Subset.refl _, fun _ _ _ hn => hn⟩

theorem Sound.metric?_of_mem (h : s.Sound) {m : Descriptor} (hm : m ∈ s.metrics) :
    s.metric? m.id = some m := by
  have key : ∀ ms : List Descriptor, (ms.map (·.id)).Nodup → m ∈ ms →
      ms.find? (·.id = m.id) = some m := by
    intro ms hnd hm
    induction ms with
    | nil => cases hm
    | cons d ms ih =>
      rw [List.map_cons, List.nodup_cons] at hnd
      rcases List.mem_cons.mp hm with rfl | hm
      · simp
      · have hne : d.id ≠ m.id := fun he => hnd.1 (he ▸ List.mem_map_of_mem hm)
        rw [List.find?_cons_of_neg (by simpa using hne)]
        exact ih hnd.2 hm
  exact key s.metrics h.nodup hm

end ActivityArchive.Store
