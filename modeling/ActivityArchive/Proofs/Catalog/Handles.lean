import ActivityArchive.Catalog.Basic
import ActivityArchive.Proofs.Steps

/-!
Handles of an open catalog on an open store. Where an identifier names one metric only, every metric
asked for gets a handle, each handle leads to the metric it was given for, and the store gains
metrics behind those it has and changes in nothing else.
-/
namespace ActivityArchive

/-- Every identifier belongs to one metric. -/
def Identified (ms : List Descriptor) : Prop := ∀ m ∈ ms, ∀ m' ∈ ms, m.id = m'.id → m = m'

namespace Store

variable {s s' s'' : Store} {d : Descriptor} {ms : List Descriptor}

/-- More metrics at the end, all of them from a list, and the same values. -/
structure Gains (ms : List Descriptor) (s s' : Store) : Prop where
  metrics : ∃ new, s'.metrics = s.metrics ++ new ∧ ∀ m ∈ new, m ∈ ms
  records : s'.records = s.records
  pending : s'.pending = s.pending
  isSealed : s'.isSealed = s.isSealed

theorem Gains.refl (ms : List Descriptor) (s : Store) : Gains ms s s :=
  ⟨⟨[], by simp, by simp⟩, rfl, rfl, rfl⟩

theorem Gains.trans (h : Gains ms s s') (h' : Gains ms s' s'') : Gains ms s s'' where
  metrics := by
    obtain ⟨new, hs, hnew⟩ := h.metrics
    obtain ⟨new', hs', hnew'⟩ := h'.metrics
    refine ⟨new ++ new', by rw [hs', hs, List.append_assoc], fun m hm => ?_⟩
    rcases List.mem_append.mp hm with hm | hm
    · exact hnew m hm
    · exact hnew' m hm
  records := h'.records.trans h.records
  pending := h'.pending.trans h.pending
  isSealed := h'.isSealed.trans h.isSealed

theorem Gains.getElem? (h : Gains ms s s') {i : Nat} (hd : s.metrics[i]? = some d) :
    s'.metrics[i]? = some d := by
  obtain ⟨new, hs, _⟩ := h.metrics
  obtain ⟨hi, _⟩ := List.getElem?_eq_some_iff.mp hd
  rw [← hd, hs]
  exact List.getElem?_append_left hi

theorem Gains.subset (h : Gains ms s s') {known : List Descriptor}
    (hs : ∀ m ∈ s.metrics, m ∈ known)
    (hms : ∀ m ∈ ms, m ∈ known) : ∀ m ∈ s'.metrics, m ∈ known := by
  obtain ⟨new, hs', hnew⟩ := h.metrics
  intro m hm
  rw [hs'] at hm
  rcases List.mem_append.mp hm with hm | hm
  · exact hs m hm
  · exact hms m (hnew m hm)

theorem addMetric_ok (hopen : s.isSealed = false)
    (hid : ∀ m ∈ s.metrics, m.id = d.id → m = d) :
    ∃ h s', s.addMetric d = .ok (h, s') ∧ Gains [d] s s' ∧ s'.metrics[h]? = some d ∧
      s'.instances = s.instances := by
  unfold addMetric
  rw [if_neg (by simp [hopen])]
  cases hf : s.metrics.findIdx? (·.id = d.id) with
  | some h =>
    obtain ⟨hlt, hh, _⟩ := List.findIdx?_eq_some_iff_getElem.mp hf
    have hm : s.metrics[h] = d := hid _ (List.getElem_mem hlt) (by simpa using hh)
    have hget : s.metrics[h]? = some d := List.getElem?_eq_some_iff.mpr ⟨hlt, hm⟩
    exact ⟨h, s, if_pos hget, .refl _ s, hget, rfl⟩
  | none => exact ⟨_, _, rfl, ⟨⟨[d], rfl, by simp⟩, rfl, rfl, rfl⟩, by simp, rfl⟩

end Store

namespace Catalog

variable {c c' c'' : Catalog} {s s' s'' : Store} {is js : List Nat} {idx : Nat}

/-- A handle held for each index at most, and leading to the metric it was given for. -/
structure Truthful (c : Catalog) (metrics : List Descriptor) : Prop where
  length : c.handles.length = c.descriptors.length
  lookup : ∀ idx h, c.handle? idx = some h →
    ∃ m, c.descriptors[idx]? = some m ∧ metrics[h]? = some m

theorem handle?_new (group : String) (ds : List Descriptor) (idx : Nat) :
    (new group ds).handle? idx = none := by
  show ((ds.map fun _ => (none : Option Handle))[idx]?).join = none
  rw [List.getElem?_map]
  cases ds[idx]? <;> rfl

theorem truthful_new (group : String) (ds metrics : List Descriptor) :
    (new group ds).Truthful metrics where
  length := List.length_map _
  lookup idx h hh := by
    rw [handle?_new] at hh
    cases hh

theorem Truthful.gains {ms : List Descriptor} (hc : c.Truthful s.metrics)
    (h : Store.Gains ms s s') : c.Truthful s'.metrics where
  length := hc.length
  lookup idx i hi := by
    obtain ⟨m, hm, hs⟩ := hc.lookup idx i hi
    exact ⟨m, hm, h.getElem? hs⟩

/-- The indices asked for have handles now. -/
structure Handled (is : List Nat) (c c' : Catalog) (s s' : Store) : Prop where
  group : c'.group = c.group
  descriptors : c'.descriptors = c.descriptors
  truthful : c'.Truthful s'.metrics
  gains : Store.Gains c.descriptors s s'
  handles : ∀ idx, (c'.handle? idx).isSome ↔ (c.handle? idx).isSome ∨ idx ∈ is

theorem Handled.nil (hc : c.Truthful s.metrics) : Handled [] c c s s :=
  ⟨rfl, rfl, hc, .refl _ s, by simp⟩

theorem Handled.append (h : Handled is c c' s s') (h' : Handled js c' c'' s' s'') :
    Handled (is ++ js) c c'' s s'' where
  group := h'.group.trans h.group
  descriptors := h'.descriptors.trans h.descriptors
  truthful := h'.truthful
  gains := h.gains.trans (h.descriptors ▸ h'.gains)
  handles idx := by rw [h'.handles, h.handles, List.mem_append, or_assoc]

theorem Handled.close (h : Handled is c c' s s') : Handled is c c'.close s s' :=
  ⟨h.group, h.descriptors, ⟨h.truthful.length, h.truthful.lookup⟩, h.gains, h.handles⟩

theorem handle?_set {h : Handle} (hlen : idx < c.handles.length) (i : Nat) :
    { c with handles := c.handles.set idx (some h) }.handle? i =
      if idx = i then some h else c.handle? i := by
  simp only [handle?, List.getElem?_set]
  by_cases hi : idx = i
  · simp [hi, hi ▸ hlen]
  · simp [hi]

theorem defineMetric_of_handle {d : Descriptor} {h : Handle} (hd : c.descriptors[idx]? = some d)
    (hh : c.handle? idx = some h) : c.defineMetric idx s = .ok (h, c, s) := by
  have hres : c.resolve idx = .ok d := by rw [resolve, hd]
  simp only [defineMetric, hres, hh, ok_bind, pure, Except.pure]

theorem defineMetric_of_addMetric {d : Descriptor} {h : Handle} (hd : c.descriptors[idx]? = some d)
    (hh : c.handle? idx = none) (hclosed : c.isClosed = false) (hsealed : s.isSealed = false)
    (hadd : s.addMetric d = .ok (h, s')) :
    c.defineMetric idx s = .ok (h, { c with handles := c.handles.set idx (some h) }, s') := by
  have hres : c.resolve idx = .ok d := by rw [resolve, hd]
  simp only [defineMetric, hres, hh, ok_bind, hclosed, hsealed, hadd, pure, Except.pure]
  rfl

/-- All that a success can mean: the handle was held, or the catalog and the store took the metric.
-/
theorem defineMetric_cases {h : Handle} (hdef : c.defineMetric idx s = .ok (h, c', s')) :
    ∃ d, c.descriptors[idx]? = some d ∧ (c.handle? idx = some h ∧ c' = c ∧ s' = s ∨
      c.handle? idx = none ∧ c.isClosed = false ∧ s.isSealed = false ∧
        s.addMetric d = .ok (h, s') ∧ c' = { c with handles := c.handles.set idx (some h) }) := by
  cases hd : c.descriptors[idx]? with
  | none => simp [defineMetric, resolve, hd, error_bind] at hdef
  | some d =>
    refine ⟨d, rfl, ?_⟩
    cases hh : c.handle? idx with
    | some held =>
      rw [defineMetric_of_handle hd hh] at hdef
      cases hdef
      exact Or.inl ⟨rfl, rfl, rfl⟩
    | none =>
      have hres : c.resolve idx = .ok d := by rw [resolve, hd]
      by_cases hclosed : c.isClosed || s.isSealed
      · simp [defineMetric, hres, hh, ok_bind, hclosed] at hdef
      · obtain ⟨hopen, hsealed⟩ : c.isClosed = false ∧ s.isSealed = false := by
          simpa using hclosed
        rcases hadd : s.addMetric d with e | ⟨handle, store⟩
        · cases e <;> simp [defineMetric, hres, hh, ok_bind, hclosed, hadd] at hdef
        · rw [defineMetric_of_addMetric hd hh hopen hsealed hadd] at hdef
          cases hdef
          exact Or.inr ⟨rfl, hopen, hsealed, rfl, rfl⟩

/-- A step registers its metric, or changes nothing. -/
theorem defineStep_cases (idx : Nat) (w : Catalog × Store) :
    (defineStep idx w).2 = w ∨ ∃ d handle store, w.1.descriptors[idx]? = some d ∧
      w.2.addMetric d = .ok (handle, store) ∧
      (defineStep idx w).2 = ({ w.1 with handles := w.1.handles.set idx (some handle) },
        store) := by
  unfold defineStep
  rcases hdef : w.1.defineMetric idx w.2 with e | ⟨h, c', s'⟩
  · exact Or.inl rfl
  · obtain ⟨d, hd, ⟨-, rfl, rfl⟩ | ⟨-, -, -, hadd, rfl⟩⟩ := defineMetric_cases hdef
    · exact Or.inl rfl
    · exact Or.inr ⟨d, h, s', hd, hadd, rfl⟩

theorem defineStep_ok (hc : c.Truthful s.metrics) (hopen : c.isClosed = false)
    (hs : s.isSealed = false)
    (hid : ∀ d ∈ c.descriptors, ∀ m ∈ s.metrics, m.id = d.id → m = d)
    (hidx : idx < c.descriptors.length) :
    ∃ c' s', defineStep idx (c, s) = (.ok (), c', s') ∧ Handled [idx] c c' s s' ∧
      c'.isClosed = false ∧ s'.instances = s.instances := by
  have hget : c.descriptors[idx]? = some c.descriptors[idx] := List.getElem?_eq_getElem hidx
  cases hh : c.handle? idx with
  | some h =>
    refine ⟨c, s, ?_, ⟨rfl, rfl, hc, .refl _ s, fun i => ?_⟩, hopen, rfl⟩
    · rw [defineStep, defineMetric_of_handle hget hh]
    · have hi : i = idx → (c.handle? i).isSome := by
        rintro rfl
        simp [hh]
      simpa using hi
  | none =>
    obtain ⟨h, s', hadd, hgain, hmet, hinst⟩ :=
      Store.addMetric_ok hs (hid _ (List.getElem_mem hidx))
    have hset := handle?_set (h := h) (hc.length ▸ hidx)
    refine ⟨{ c with handles := c.handles.set idx (some h) }, s', ?_, ?_, hopen, hinst⟩
    · rw [defineStep, defineMetric_of_addMetric hget hh hopen hs hadd]
    · refine ⟨rfl, rfl, ⟨by simp [hc.length], fun i j hj => ?_⟩, ?_, fun i => ?_⟩
      · rw [hset] at hj
        by_cases hi : idx = i
        · subst hi
          rw [if_pos rfl] at hj
          exact ⟨_, hget, Option.some.inj hj ▸ hmet⟩
        · rw [if_neg hi] at hj
          obtain ⟨m, hm, hsm⟩ := hc.lookup i j hj
          exact ⟨m, hm, hgain.getElem? hsm⟩
      · obtain ⟨new, hs', hnew⟩ := hgain.metrics
        refine ⟨⟨new, hs', fun m hm => ?_⟩, hgain.records, hgain.pending, hgain.isSealed⟩
        rw [List.mem_singleton.mp (hnew m hm)]
        exact List.getElem_mem hidx
      · rw [hset]
        by_cases hi : idx = i
        · simp [hi]
        · simp [hi, Ne.symm hi]

theorem defineAll_ok (hc : c.Truthful s.metrics) (hopen : c.isClosed = false)
    (hs : s.isSealed = false) {known : List Descriptor} (hknown : Identified known)
    (hsub : ∀ m ∈ s.metrics, m ∈ known) (hcsub : ∀ m ∈ c.descriptors, m ∈ known)
    (his : ∀ idx ∈ is, idx < c.descriptors.length) :
    ∃ c' s', attemptAll defineStep is (c, s) = (.ok (), c', s') ∧ Handled is c c' s s' ∧
      c'.isClosed = false ∧ s'.instances = s.instances := by
  induction is generalizing c s with
  | nil => exact ⟨c, s, rfl, .nil hc, hopen, rfl⟩
  | cons idx is ih =>
    have hid : ∀ d ∈ c.descriptors, ∀ m ∈ s.metrics, m.id = d.id → m = d :=
      fun d hd m hm =>
      hknown m (hsub m hm) d (hcsub d hd)
    obtain ⟨c₁, s₁, hstep, h₁, hopen₁, hinst₁⟩ :=
      defineStep_ok hc hopen hs hid (his idx List.mem_cons_self)
    obtain ⟨c', s', hrun, h', hopen', hinst'⟩ :=
      ih h₁.truthful hopen₁ (h₁.gains.isSealed.trans hs)
      (h₁.gains.subset hsub hcsub) (by rwa [h₁.descriptors])
      (by
        rw [h₁.descriptors]
        exact fun i hi => his i (List.mem_cons_of_mem idx hi))
    exact ⟨c', s', by rw [attemptAll_cons_ok hstep, hrun], h₁.append h', hopen',
      hinst'.trans hinst₁⟩

theorem define_ok (hc : c.Truthful s.metrics) (hopen : c.isClosed = false)
    (hs : s.isSealed = false) {known : List Descriptor} (hknown : Identified known)
    (hsub : ∀ m ∈ s.metrics, m ∈ known) (hcsub : ∀ m ∈ c.descriptors, m ∈ known) :
    ∃ c' s', c.define s = (.ok (), c', s') ∧ Handled (List.range c.size) c c' s s' ∧
      s'.instances = s.instances := by
  have his : ∀ idx ∈ List.range c.size, idx < c.descriptors.length := by simp [size]
  obtain ⟨c', s', hrun, h', _, hinst⟩ := defineAll_ok hc hopen hs hknown hsub hcsub his
  exact ⟨c'.close, s', by simp [define, hopen, hrun], h'.close, hinst⟩

end Catalog

end ActivityArchive
