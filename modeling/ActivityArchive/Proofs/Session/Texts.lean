import ActivityArchive.Proofs.Session.Carrying

/-!
Texts in a record. What a record holds under a metric is what the group of the metric emitted under
its index, so that a text is found exactly where one was emitted (`Transcript.text?_of_emitted`),
and what it holds of a group is what the group emitted (`Transcript.valuesIn_eq`).
-/
namespace ActivityArchive

/-- The values of a record under the metrics of a group. -/
def Group.valuesIn (g : Group) (record : StoredRecord) : List StoredValue :=
  record.values.filter fun v => v.metric ∈ g.metrics.map (·.id)

theorem find?_eq_some {A : Type} {p : A → Bool} {xs : List A} {x : A} (hx : x ∈ xs)
    (hp : p x = true) (hone : ∀ y ∈ xs, p y = true → y = x) : xs.find? p = some x := by
  cases hfind : xs.find? p with
  | none => exact absurd hp (List.find?_eq_none.mp hfind x hx)
  | some y => rw [hone y (List.mem_of_find?_eq_some hfind) (List.find?_some hfind)]

/-- A metric is found by its name where no other metric has that name. -/
theorem Store.metricNamed?_of_mem {st : Store} {m : Descriptor} (hm : m ∈ st.metrics)
    (hone : ∀ m' ∈ st.metrics, m'.name = m.name → m' = m) : st.metricNamed? m.name = some m :=
  find?_eq_some hm (by simp) fun m' hm' hname => hone m' hm' (of_decide_eq_true hname)

namespace Transcript

variable {st : Store} {defined : List Group} {es : Group → List Emission} {record : StoredRecord}
  {g : Group} {idx k : Nat} {m : Descriptor}

/-- What a record holds under a metric. -/
theorem mem_values (h : Transcript st defined es record) (hm : g.metrics[idx]? = some m)
    {w : StoredValue} (hw : w.metric = m.id) :
    w ∈ record.values ↔ g ∈ defined ∧ ∃ label v, .value idx label v ∈ es g ∧
      w = ⟨m.id, m.domain.bind fun _ => label, v.text⟩ := by
  rw [h.values]
  constructor
  · intro hmem
    obtain ⟨g', hg', hmem⟩ := List.mem_flatMap.mp hmem
    obtain ⟨e, he, hstored⟩ := List.mem_filterMap.mp hmem
    cases e with
    | entry d l num => cases hstored
    | fault cause => cases hstored
    | value idx' label v =>
      obtain ⟨m', hm', rfl⟩ := Option.map_eq_some_iff.mp hstored
      -- an identifier leads to one place among the metrics of all groups
      have hplace := Group.find?_metric hm'
      rw [show m'.id = m.id from hw, Group.find?_metric hm] at hplace
      obtain ⟨rfl, rfl⟩ : g = g' ∧ idx = idx' := by simpa using hplace
      obtain rfl : m = m' := Option.some.inj (hm.symm.trans hm')
      exact ⟨hg', label, v, he, rfl⟩
  · rintro ⟨hg, label, v, he, rfl⟩
    refine List.mem_flatMap.mpr ⟨g, hg, List.mem_filterMap.mpr ⟨_, he, ?_⟩⟩
    simp [Emission.stored?, hm]

/-- The text of a value that was emitted once under a metric and a label. -/
theorem text?_eq (h : Transcript st defined es record) (hrecord : st.records[k]? = some record)
    (hm : g.metrics[idx]? = some m) (hname : st.metricNamed? m.name = some m) (hg : g ∈ defined)
    {label : Option String} {v : Value} (he : .value idx label v ∈ es g)
    (hone : ∀ label' v', .value idx label' v' ∈ es g →
      (m.domain.bind fun _ => label') = (m.domain.bind fun _ => label) → v' = v) :
    st.text? k m.name (m.domain.bind fun _ => label) = some v.text := by
  have hfind : record.values.find? (fun w => w.metric = m.id ∧
    w.label = m.domain.bind fun _ => label) =
      some ⟨m.id, m.domain.bind fun _ => label, v.text⟩ := by
    refine find?_eq_some ((h.mem_values hm rfl).mpr ⟨hg, label, v, he, rfl⟩) (by simp) ?_
    intro w hw hkey
    obtain ⟨hid, hlabel⟩ := of_decide_eq_true hkey
    obtain ⟨-, label', v', he', rfl⟩ := (h.mem_values hm hid).mp hw
    have hlabel : (m.domain.bind fun _ => label') = m.domain.bind fun _ => label := hlabel
    rw [hone label' v' he' hlabel, hlabel]
  simp only [Store.text?, hname, hrecord, hfind, Option.bind_eq_bind, Option.bind_some,
    Option.pure_def]

/-- No text where nothing was emitted under the metric. -/
theorem text?_eq_none (h : Transcript st defined es record) (hrecord : st.records[k]? = some record)
    (hm : g.metrics[idx]? = some m) (hname : ∀ m' ∈ st.metrics, m'.name = m.name → m' = m)
    (hnone : ∀ label v, .value idx label v ∉ es g) (label : Option String) :
    st.text? k m.name label = none := by
  cases hfound : st.metricNamed? m.name with
  | none => simp [Store.text?, hfound]
  | some m' =>
    have hnamed := List.find?_some hfound
    obtain rfl : m' = m := hname m' (List.mem_of_find?_eq_some hfound) (of_decide_eq_true hnamed)
    have hfind : record.values.find? (fun w => w.metric = m'.id ∧ w.label = label) = none := by
      refine List.find?_eq_none.mpr fun w hw hkey => ?_
      obtain ⟨hid, -⟩ := of_decide_eq_true hkey
      obtain ⟨-, label', v, he, -⟩ := (h.mem_values hm hid).mp hw
      exact hnone label' v he
    simp only [Store.text?, hfound, hrecord, hfind, Option.bind_eq_bind, Option.bind_some,
      Option.bind_none]

/-- The text of a value that is emitted on a condition, once under its metric and its label. -/
theorem text?_of_emitted {P : Prop} [Decidable P] (label : Option String) (v : Value)
    (h : Transcript st defined es record) (hrecord : st.records[k]? = some record)
    (hm : g.metrics[idx]? = some m) (hg : g ∈ defined)
    (hunique : ∀ m' ∈ st.metrics, m'.name = m.name → m' = m)
    (hemitted : P → .value idx label v ∈ es g)
    (honly : ∀ label' v', .value idx label' v' ∈ es g →
      P ∧ ((m.domain.bind fun _ => label') = (m.domain.bind fun _ => label) → v' = v)) :
    st.text? k m.name (m.domain.bind fun _ => label) = if P then some v.text else none := by
  split
  · rename_i hP
    obtain ⟨m', hm', hfound, -⟩ := (h.carries g hg).values _ _ _ (hemitted hP)
    obtain rfl : m = m' := Option.some.inj (hm.symm.trans hm')
    have hnamed := Store.metricNamed?_of_mem (List.mem_of_find?_eq_some hfound) hunique
    exact h.text?_eq hrecord hm hnamed hg (hemitted hP) fun label' v' he => (honly label' v' he).2
  · rename_i hP
    exact h.text?_eq_none hrecord hm hunique (fun label' v' he => hP (honly label' v' he).1) _

/-- A value that a group emitted stands under a metric of that group and of no other. -/
theorem metric_mem_iff {g' : Group} {e : Emission} {v : StoredValue}
    (hv : Emission.stored? g'.metrics e = some v) :
    v.metric ∈ g.metrics.map (·.id) ↔ g' = g := by
  cases e with
  | entry d l num => cases hv
  | fault cause => cases hv
  | value idx label x =>
    obtain ⟨m, hm, rfl⟩ := Option.map_eq_some_iff.mp hv
    rw [List.mem_map]
    constructor
    · rintro ⟨m', hm', hid⟩
      obtain ⟨idx', hidx'⟩ := List.getElem?_of_mem hm'
      have hplace := Group.find?_metric hidx'
      rw [show m'.id = m.id from hid, Group.find?_metric hm] at hplace
      exact congrArg (·.1) (Option.some.inj hplace)
    · rintro rfl
      exact ⟨m, List.mem_of_getElem? hm, rfl⟩

theorem filter_stored (g g' : Group) (es : List Emission) :
    ((es.filterMap (Emission.stored? g'.metrics)).filter
      fun v => v.metric ∈ g.metrics.map (·.id)) =
      if g' = g then es.filterMap (Emission.stored? g'.metrics) else [] := by
  have hmem : ∀ v ∈ es.filterMap (Emission.stored? g'.metrics),
      (v.metric ∈ g.metrics.map (·.id) ↔ g' = g) := by
    intro v hv
    obtain ⟨e, -, he⟩ := List.mem_filterMap.mp hv
    exact metric_mem_iff he
  split
  · rename_i hg
    exact List.filter_eq_self.mpr fun v hv => decide_eq_true ((hmem v hv).mpr hg)
  · rename_i hg
    exact List.filter_eq_nil_iff.mpr fun v hv hin => hg ((hmem v hv).mp (of_decide_eq_true hin))

/-- What a record holds of a group is what the group emitted. -/
theorem valuesIn_eq (h : Transcript st defined es record) (g : Group) :
    g.valuesIn record =
      if g ∈ defined then (es g).filterMap (Emission.stored? g.metrics) else [] := by
  have hnd := h.nodup
  rw [Group.valuesIn, h.values]
  clear h
  induction defined with
  | nil => rfl
  | cons g' gs ih =>
    obtain ⟨hnot, hnd⟩ := List.nodup_cons.mp hnd
    rw [List.flatMap_cons, List.filter_append, filter_stored, ih hnd]
    by_cases hg : g' = g
    · subst hg
      simp [hnot]
    · simp [hg, Ne.symm hg]

end Transcript

end ActivityArchive
