import ActivityArchive.Proofs.Metric.Exact
import ActivityArchive.Proofs.Session.Importing
import ActivityArchive.Proofs.Session.Emissions
import ActivityArchive.Proofs.Store.Gathering

/-!
Between export and import. A record is a transcript of what its groups emitted, and a store carries
what a group emitted when its metrics and instances are known there. The sets of a group are then
those of its emissions, with the numbers of their instances (`part_takeAll_decode`).
-/
namespace ActivityArchive

/-- Where the metrics and the instances of some emissions are known. -/
structure Store.Carries (st : Store) (g : Group) (es : List Emission) : Prop where
  wellFormed : st.instances.WellFormed
  values : ∀ idx label v, .value idx label v ∈ es → ∃ m, g.metrics[idx]? = some m ∧
    st.metric? m.id = some m ∧
    ∀ d, m.domain = some d → ∃ l n, label = some l ∧ (n, l) ∈ st.instances.entries d
  numbered : ∀ d l num, .entry d l num ∈ es →
    ∃ n, (n, l) ∈ st.instances.entries d ∧ (num = none ∨ num = some n)
  requests : ∀ e ∈ st.instances.entries Domain.nfsRequest, e ∈ Domain.nfsRequests

/-- A record of what some groups emitted, one after the other. -/
structure Transcript (st : Store) (defined : List Group) (es : Group → List Emission)
    (record : StoredRecord) : Prop where
  nodup : defined.Nodup
  values : record.values =
    defined.flatMap fun g => (es g).filterMap (Emission.stored? g.metrics)
  carries : ∀ g ∈ defined, st.Carries g (es g)

namespace Group

def idOf (g : Group) (idx : Nat) : MetricId := (g.metrics[idx]?.map (·.id)).getD ⟨0⟩

/-- The number of the instance that a label stands for, where the metric has instances. -/
def numberFor (g : Group) (st : Store) (idx : Nat) (label : Option String) : Option Int :=
  (g.metrics[idx]?.bind (·.domain)).bind fun d => label.bind (st.instances.number? d)

/-- What a store gives back of an emission. -/
def entryOf (g : Group) (st : Store) (e : Emission) : Option (MetricId × Reading) :=
  (Emission.stored? g.metrics e).bind st.metricReading?

/-- The readings of the emissions under the indices that count. -/
def readings (g : Group) (st : Store) (counts : Nat → Bool) (es : List Emission) :
    List (Nat × Reading) :=
  es.filterMap fun e =>
    match e with
    | .value idx label v => if counts idx then some (idx, g.numberFor st idx label, v) else none
    | _ => none

/-- Values that are read back as they are. -/
def ReadsBack (g : Group) (counts : Nat → Bool) (es : List Emission) : Prop :=
  ∀ idx label v, .value idx label v ∈ es → counts idx = true →
    v.Exact ∧ g.metrics[idx]?.map (·.kind) = some v.kind

end Group

variable {st : Store} {g : Group} {es : List Emission} {counts : Nat → Bool}

theorem Store.Carries.tail {e : Emission} (h : st.Carries g (e :: es)) : st.Carries g es :=
  ⟨h.wellFormed, fun _ _ _ he => h.values _ _ _ (List.mem_cons_of_mem e he),
    fun _ _ _ he => h.numbered _ _ _ (List.mem_cons_of_mem e he), h.requests⟩

theorem Group.idOf_eq {idx : Nat} {m : Descriptor} (h : g.metrics[idx]? = some m) :
    g.idOf idx = m.id := by
  simp [Group.idOf, h]

@[simp] theorem Group.numberFor_none (g : Group) (st : Store) (idx : Nat) :
    g.numberFor st idx none = none := by
  simp [Group.numberFor]

theorem Group.numberFor_of_mem {idx : Nat} {m : Descriptor} {d : DomainId} {n : Int} {l : String}
    (hwf : st.instances.WellFormed) (hm : g.metrics[idx]? = some m) (hd : m.domain = some d)
    (hn : (n, l) ∈ st.instances.entries d) : g.numberFor st idx (some l) = some n := by
  rw [Group.numberFor, hm, Option.bind_some, hd, Option.bind_some, Option.bind_some]
  exact (Registry.number?_eq_some_iff hwf).mpr hn

theorem Group.label?_of_mem {idx : Nat} {m : Descriptor} {d : DomainId} {n : Int} {l : String}
    (hwf : st.instances.WellFormed) (hm : g.metrics[idx]? = some m) (hd : m.domain = some d)
    (hn : (n, l) ∈ st.instances.entries d) :
    (⟨g.metrics, st.instances, .curr⟩ : ImportView).label? idx (some n) = some l := by
  have hfound := (Registry.label?_eq_some_iff hwf).mpr hn
  simp [ImportView.label?, hm, hd, hfound]

/-- The label of a value is found under the number that the value is read back with. -/
theorem Store.Carries.label?_numberFor (h : st.Carries g es) {idx : Nat} {l : String} {v : Value}
    {d : DomainId} (he : .value idx (some l) v ∈ es)
    (hd : g.metrics[idx]?.bind (·.domain) = some d) :
    (⟨g.metrics, st.instances, .curr⟩ : ImportView).label? idx
      (g.numberFor st idx (some l)) = some l := by
  obtain ⟨m, hm, -, hlabel⟩ := h.values idx (some l) v he
  rw [hm, Option.bind_some] at hd
  obtain ⟨l', n, hl, hn⟩ := hlabel d hd
  obtain rfl := Option.some.inj hl
  rw [Group.numberFor_of_mem h.wellFormed hm hd hn, Group.label?_of_mem h.wellFormed hm hd hn]

/-- A value is read back as its text reads. -/
theorem Store.Carries.entryOf_eq (h : st.Carries g es) {idx : Nat}
    {label : Option String} {v : Value}
    {m : Descriptor} (he : .value idx label v ∈ es) (hm : g.metrics[idx]? = some m) :
    g.entryOf st (.value idx label v) =
      (Value.read? m.kind v.text).map fun back => (g.idOf idx, g.numberFor st idx label, back) := by
  obtain ⟨m', hm', hst, hl⟩ := h.values idx label v he
  obtain rfl : m = m' := Option.some.inj (hm.symm.trans hm')
  have hnum : ∀ text, st.numberOf m ⟨m.id, m.domain.bind fun _ => label, text⟩ =
      some (g.numberFor st idx label) := by
    intro text
    cases hd : m.domain with
    | none => simp [Store.numberOf, Group.numberFor, hm, hd]
    | some d =>
      obtain ⟨l, n, rfl, hn⟩ := hl d hd
      have hnumber := (Registry.number?_eq_some_iff h.wellFormed).mpr hn
      simp [Store.numberOf, Group.numberFor_of_mem h.wellFormed hm hd hn, hd, hnumber]
  rw [Group.idOf_eq hm]
  cases hread : Value.read? m.kind v.text <;>
    simp [Group.entryOf, Emission.stored?, hm, Store.metricReading?, Store.reading?,
      hst, hread, hnum]

/-- One value read back. -/
theorem Store.Carries.entryOf (h : st.Carries g es) {idx : Nat} {label : Option String} {v : Value}
    (he : .value idx label v ∈ es) (hv : v.Exact)
    (hkind : g.metrics[idx]?.map (·.kind) = some v.kind) :
    g.entryOf st (.value idx label v) = some (g.idOf idx, g.numberFor st idx label, v) := by
  obtain ⟨m, hm, hk⟩ := Option.map_eq_some_iff.mp hkind
  rw [h.entryOf_eq he hm, hk, hv.read?, Option.map_some]

/-- An emission stands for a metric of its group, whatever its value. -/
theorem entryOf_value {idx : Nat} {label : Option String} {v : Value} {x : MetricId × Reading}
    (h : g.entryOf st (.value idx label v) = some x) :
    ∃ m, g.metrics[idx]? = some m ∧ x.1 = m.id := by
  cases hm : g.metrics[idx]? with
  | none => simp [Group.entryOf, Emission.stored?, hm] at h
  | some m =>
    simp only [Group.entryOf, Emission.stored?, hm, Option.map_some, Option.bind_some,
      Store.metricReading?, Option.map_eq_some_iff] at h
    obtain ⟨r, -, rfl⟩ := h
    exact ⟨m, rfl, rfl⟩

theorem filter_entries (h : st.Carries g es) (hback : g.ReadsBack counts es) :
    (es.filterMap (g.entryOf st)).filter (Session.reads g counts ·.1) =
      (g.readings st counts es).map fun x => (g.idOf x.1, x.2) := by
  induction es with
  | nil => rfl
  | cons e es ih =>
    have hrest := ih h.tail fun idx label v he => hback idx label v (List.mem_cons_of_mem e he)
    cases e with
    | entry d l num => exact hrest
    | fault cause => exact hrest
    | value idx label v =>
      obtain ⟨m, hm, -, -⟩ := h.values idx label v List.mem_cons_self
      have hreads : Session.reads g counts m.id = counts idx := by
        rw [Session.reads_metric hm]
        simp
      by_cases hc : counts idx = true
      · obtain ⟨hv, hk⟩ := hback idx label v List.mem_cons_self hc
        have hentry := h.entryOf List.mem_cons_self hv hk
        rw [List.filterMap_cons_some hentry]
        have hpos : Session.reads g counts (g.idOf idx) = true := by
          rw [Group.idOf_eq hm, hreads, hc]
        rw [List.filter_cons_of_pos (by exact hpos), hrest]
        simp [Group.readings, hc]
      · have hskip : g.readings st counts (.value idx label v :: es) =
            g.readings st counts es := by
          simp [Group.readings, hc]
        rw [hskip, ← hrest]
        cases hx : g.entryOf st (.value idx label v) with
        | none => rw [List.filterMap_cons_none hx]
        | some x =>
          obtain ⟨m', hm', hid⟩ := entryOf_value hx
          obtain rfl : m = m' := Option.some.inj (hm.symm.trans hm')
          rw [List.filterMap_cons_some hx]
          refine List.filter_cons_of_neg ?_
          rw [hid, hreads]
          exact hc

/-- All that a group emitted is read by it. -/
theorem filter_entries_self (es : List Emission) :
    (es.filterMap (g.entryOf st)).filter (Session.reads g (fun _ => true) ·.1) =
      es.filterMap (g.entryOf st) := by
  rw [List.filter_eq_self]
  intro x hx
  obtain ⟨e, -, he⟩ := List.mem_filterMap.mp hx
  cases e with
  | entry d l num => simp [Group.entryOf, Emission.stored?] at he
  | fault cause => simp [Group.entryOf, Emission.stored?] at he
  | value idx label v =>
    obtain ⟨m, hm, hid⟩ := entryOf_value he
    rw [hid, Session.reads_metric hm]
    simp

/-- Nothing that another group emitted is read by this one. -/
theorem filter_entries_ne {g' : Group} (hg : g' ≠ g) (es : List Emission) :
    (es.filterMap (g'.entryOf st)).filter (Session.reads g counts ·.1) = [] := by
  rw [List.filter_eq_nil_iff]
  intro x hx
  obtain ⟨e, -, he⟩ := List.mem_filterMap.mp hx
  cases e with
  | entry d l num => simp [Group.entryOf, Emission.stored?] at he
  | fault cause => simp [Group.entryOf, Emission.stored?] at he
  | value idx label v =>
    obtain ⟨m, hm, hid⟩ := entryOf_value he
    rw [hid, Session.reads_metric hm]
    simp [hg]

namespace Transcript

variable {defined : List Group} {es : Group → List Emission} {record : StoredRecord}

theorem entries_eq (st : Store) (gs : List Group) (es : Group → List Emission) :
    (gs.flatMap fun g => (es g).filterMap (Emission.stored? g.metrics)).filterMap
      st.metricReading? =
      gs.flatMap fun g => (es g).filterMap (g.entryOf st) := by
  rw [List.filterMap_flatMap]
  congr 1
  funext g
  exact List.filterMap_filterMap

theorem filter_values {gs : List Group} (hnd : gs.Nodup) :
    (gs.flatMap fun g => (es g).filterMap (g.entryOf st)).filter (Session.reads g counts ·.1) =
      if g ∈ gs then ((es g).filterMap (g.entryOf st)).filter (Session.reads g counts ·.1)
        else [] := by
  induction gs with
  | nil => simp
  | cons g' gs ih =>
    obtain ⟨hnot, hnd'⟩ := List.nodup_cons.mp hnd
    rw [List.flatMap_cons, List.filter_append, ih hnd']
    by_cases hg : g' = g
    · subst hg
      rw [if_neg hnot]
      simp
    · rw [filter_entries_ne hg]
      simp [Ne.symm hg]

/-- The sets of a record that a group reads are those of what it emitted. -/
theorem part_takeAll_decode {registry : Registry} {acts : Activities}
    (h : Transcript st defined es record) (hback : g.ReadsBack counts (es g))
    (hskip : ∀ view idx readings acts, counts idx = false →
      g.spec.absorb view idx readings acts = acts) :
    (Session.takeAll registry (st.decode record).sets acts).part g.part =
      (Session.takeAll registry (Store.gather (if g ∈ defined then
        (g.readings st counts (es g)).map fun x => (g.idOf x.1, x.2) else [])) acts).part
      g.part := by
  rw [Session.part_takeAll_filter hskip, Store.sets_decode, Store.filter_gather, h.values,
    entries_eq, filter_values h.nodup]
  by_cases hg : g ∈ defined
  · rw [if_pos hg, if_pos hg, filter_entries (h.carries g hg) hback]
  · rw [if_neg hg, if_neg hg]

/-- The same of values that need not read back as they are. -/
theorem part_takeAll_entries {registry : Registry} {acts : Activities}
    (h : Transcript st defined es record) (g : Group) :
    (Session.takeAll registry (st.decode record).sets acts).part g.part =
      (Session.takeAll registry (Store.gather (if g ∈ defined then
        (es g).filterMap (g.entryOf st) else [])) acts).part g.part := by
  have hall : ∀ view idx readings acts, (fun _ : Nat => true) idx = false →
      g.spec.absorb view idx readings acts = acts := fun _ _ _ _ => nofun
  rw [Session.part_takeAll_filter hall, Store.sets_decode, Store.filter_gather,
    h.values, entries_eq, filter_values h.nodup]
  by_cases hg : g ∈ defined
  · rw [if_pos hg, if_pos hg, filter_entries_self]
  · rw [if_neg hg, if_neg hg]

end Transcript

namespace Group

theorem idOf_injective {i j : Nat} (hi : i < g.metrics.length) (hj : j < g.metrics.length)
    (h : g.idOf i = g.idOf j) : i = j := by
  have hfind : ∀ {i}, i < g.metrics.length →
      (⟨places⟩ : Routes Group).find? (g.idOf i) = some (g, i) := by
    intro i hi
    have hm := List.getElem?_eq_getElem hi
    rw [idOf_eq hm]
    exact find?_metric hm
  have hij := hfind hi
  rw [h, hfind hj] at hij
  cases hij
  rfl

theorem nodup_idOf {is : List Nat} (hnd : is.Nodup) (hlt : ∀ i ∈ is, i < g.metrics.length) :
    (is.map g.idOf).Nodup := by
  refine List.Nodup.map_on ?_ hnd
  intro i hi j hj hij
  exact idOf_injective (hlt i hi) (hlt j hj) hij

end Group

/-- Sets of one group are taken in by that group, each under its index. -/
theorem Session.takeAll_columns {registry : Registry} {acts : Activities}
    {columns : List (Nat × List Reading)} (hlt : ∀ c ∈ columns, c.1 < g.metrics.length) :
    takeAll registry (columns.map fun c => ⟨g.idOf c.1, c.2⟩) acts =
      columns.foldl (fun acts c => g.spec.absorb ⟨g.metrics, registry, .curr⟩ c.1 c.2 acts)
        acts := by
  induction columns generalizing acts with
  | nil => rfl
  | cons c columns ih =>
    have hm := List.getElem?_eq_getElem (hlt c List.mem_cons_self)
    have htake : take registry acts ⟨g.idOf c.1, c.2⟩ =
        g.spec.absorb ⟨g.metrics, registry, .curr⟩ c.1 c.2 acts := by
      rw [take, Group.idOf_eq hm, Group.find?_metric hm]
    show takeAll registry _ (take registry acts ⟨g.idOf c.1, c.2⟩) = _
    rw [htake, ih fun c' hc' => hlt c' (List.mem_cons_of_mem c hc')]
    rfl

/-- How many readings there are under each index. -/
def columnShape (columns : List (Nat × List Reading)) : List (Nat × Nat) :=
  columns.map fun c => (c.1, c.2.length)

/-- The shape of columns that stand under different metrics of a group, none of them empty. -/
def Group.Columnar (g : Group) (shape : List (Nat × Nat)) : Prop :=
  (shape.map (·.1)).Nodup ∧ ∀ c ∈ shape, c.1 < g.metrics.length ∧ c.2 ≠ 0

instance (g : Group) (shape : List (Nat × Nat)) : Decidable (g.Columnar shape) :=
  inferInstanceAs (Decidable
    ((shape.map (·.1)).Nodup ∧ ∀ c ∈ shape, c.1 < g.metrics.length ∧ c.2 ≠ 0))

/-- Readings that come index by index. -/
theorem Session.takeAll_gather {registry : Registry} {acts : Activities}
    {columns : List (Nat × List Reading)} (h : g.Columnar (columnShape columns)) :
    takeAll registry (Store.gather ((columns.flatMap fun c => c.2.map fun r => (c.1, r)).map
        fun x => (g.idOf x.1, x.2))) acts =
      columns.foldl (fun acts c => g.spec.absorb ⟨g.metrics, registry, .curr⟩ c.1 c.2 acts)
        acts := by
  have hspread : (columns.flatMap fun c => c.2.map fun r => (c.1, r)).map
      (fun x => (g.idOf x.1, x.2)) = Store.spread (columns.map fun c => ⟨g.idOf c.1, c.2⟩) := by
    rw [Store.spread, List.flatMap_map, List.map_flatMap]
    simp only [List.map_map]
    rfl
  have hlt : ∀ c ∈ columns, c.1 < g.metrics.length := fun c hc =>
    (h.2 _ (List.mem_map_of_mem hc)).1
  have hids : ((columns.map fun c => (⟨g.idOf c.1, c.2⟩ : ValueSet)).map (·.id)).Nodup := by
    have hlt' : ∀ i ∈ columns.map (·.1), i < g.metrics.length := by
      intro i hi
      obtain ⟨c, hc, rfl⟩ := List.mem_map.mp hi
      exact hlt c hc
    have hnd : (columns.map (·.1)).Nodup := by
      have hnd := h.1
      rw [columnShape, List.map_map] at hnd
      exact hnd
    have hids := Group.nodup_idOf hnd hlt'
    rw [List.map_map] at hids ⊢
    exact hids
  rw [hspread, Store.gather_spread hids, takeAll_columns hlt]
  intro set hset
  obtain ⟨c, hc, rfl⟩ := List.mem_map.mp hset
  exact List.length_pos_iff.mp (Nat.pos_of_ne_zero (h.2 _ (List.mem_map_of_mem hc)).2)

/-- Readings that come index by index, some indices without any. -/
theorem Session.takeAll_gather_sparse {registry : Registry} {acts : Activities}
    {columns : List (Nat × List Reading)} (hnd : (columns.map (·.1)).Nodup)
    (hlt : ∀ i ∈ columns.map (·.1), i < g.metrics.length)
    (hskip : ∀ view idx acts, g.spec.absorb view idx [] acts = acts) :
    takeAll registry (Store.gather ((columns.flatMap fun c => c.2.map fun r => (c.1, r)).map
        fun x => (g.idOf x.1, x.2))) acts =
      columns.foldl (fun acts c => g.spec.absorb ⟨g.metrics, registry, .curr⟩ c.1 c.2 acts)
        acts := by
  have hentries : columns.flatMap (fun c => c.2.map fun r => (c.1, r)) =
      (columns.filter fun c => c.2 ≠ []).flatMap fun c => c.2.map fun r => (c.1, r) := by
    clear hnd hlt
    induction columns with
    | nil => rfl
    | cons c columns ih =>
      by_cases hc : c.2 = [] <;> simp [hc, ih]
  have hfold : ∀ acts, (columns.filter fun c => c.2 ≠ []).foldl (fun acts c =>
      g.spec.absorb ⟨g.metrics, registry, .curr⟩ c.1 c.2 acts) acts =
    columns.foldl (fun acts c =>
        g.spec.absorb ⟨g.metrics, registry, .curr⟩ c.1 c.2 acts) acts := by
    intro acts
    rw [List.foldl_filter]
    congr 1
    funext acts c
    by_cases hc : c.2 = []
    · simp [hc, hskip]
    · simp [hc]
  have hshape : g.Columnar (columnShape (columns.filter fun c => c.2 ≠ [])) := by
    refine ⟨?_, fun x hx => ?_⟩
    · rw [columnShape, List.map_map]
      exact hnd.sublist (List.filter_sublist.map _)
    · obtain ⟨c, hc, rfl⟩ := List.mem_map.mp hx
      obtain ⟨hmem, hne⟩ := List.mem_filter.mp hc
      exact ⟨hlt c.1 (List.mem_map_of_mem hmem), fun hzero => of_decide_eq_true hne
        (List.length_eq_zero_iff.mp hzero)⟩
  rw [hentries, takeAll_gather hshape, hfold]

end ActivityArchive
