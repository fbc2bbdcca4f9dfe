import ActivityArchive.Proofs.Activity.Building
import ActivityArchive.Proofs.Group.SingleRestoring
import ActivityArchive.Proofs.Session.Batteries
import ActivityArchive.Proofs.Store.Grouped

/-!
Sensors shown and read back. A reading leads to its record by the position that its instance is
numbered with, so that readings can be taken in any order, and those whose text does not read can be
missing. A field that some reading sets, and the others leave or set alike, is restored
(`Restores`); so each record comes back where it was, as far as its fields are restored
(`Transcript.sensors_back`).
-/
namespace ActivityArchive

open Activities GroupSpec Record

namespace GroupSpec.Sensor

variable {k : Multi} {T : Type} {g : Sensor k} {field : k.Rec → T} {x : T} {i : Nat}
  {r z : k.Rec} {rows : List k.Rec}

/-- What a record changes that a value of the record `r` at position `i` is read into, with a value
that may differ from it where it does not read back as it is. -/
def Changes (g : Sensor k) (i : Nat) (r : k.Rec) (idx : Nat) (change : k.Rec → k.Rec) : Prop :=
  ∃ registry v back, (g.values r)[idx]? = some v ∧ (v.Exact → back = v) ∧
    (⟨g.metrics, registry, .curr⟩ : ImportView).label? idx (some (i : Int)) =
    some (g.label i r) ∧
    g.change? ⟨g.metrics, registry, .curr⟩ idx (some (i : Int), back) = some change

/-- A value that reads back as it is, and sets a field. -/
def Sets (g : Sensor k) (field : k.Rec → T) (i : Nat) (r : k.Rec) (x : T) : Prop :=
  ∃ idx v, (g.values r)[idx]? = some v ∧ v.Exact ∧ ∀ registry,
    (⟨g.metrics, registry, .curr⟩ : ImportView).label? idx (some (i : Int)) =
    some (g.label i r) →
    ∃ change, g.change? ⟨g.metrics, registry, .curr⟩ idx (some (i : Int), v) = some change ∧
      ∀ z, field (change z) = x

/-- A field that is `x` after all readings of the record `r`: one sets it, unless it is `x` from the
start, and none takes that back. -/
structure Restores (g : Sensor k) (field : k.Rec → T) (i : Nat) (r : k.Rec) (x : T) : Prop where
  keeps : ∀ idx change, g.Changes i r idx change → ∀ z, field z = x → field (change z) = x
  sets : g.Sets field i r x ∨ field default = x

/-- A record that has what is restored of the record `r`. -/
def Restored (g : Sensor k) (i : Nat) (r z : k.Rec) : Prop :=
  ∀ (T : Type) (field : k.Rec → T) (x : T), g.Restores field i r x → field z = x

/-- What restoring takes: every value has the kind of its metric, all metrics are of one domain, and
some reading always changes something. -/
structure Lawful (g : Sensor k) : Prop where
  domain : ∀ m ∈ g.metrics, m.domain = some g.domain
  kinds : ∀ r, (g.values r).map Value.kind = g.metrics.map (·.kind)
  builds : ∀ i r, g.Sets (fun _ => ()) i r ()

theorem Lawful.metric (law : g.Lawful) {r : k.Rec} {idx : Nat} {v : Value}
    (hv : (g.values r)[idx]? = some v) :
    ∃ m, g.metrics[idx]? = some m ∧ m.kind = v.kind ∧ m.domain = some g.domain := by
  have hkind : (g.metrics.map (·.kind))[idx]? = some v.kind := by
    rw [← law.kinds r, List.getElem?_map, hv, Option.map_some]
  rw [List.getElem?_map, Option.map_eq_some_iff] at hkind
  obtain ⟨m, hm, hk⟩ := hkind
  exact ⟨m, hm, hk, law.domain m (List.mem_of_getElem? hm)⟩

theorem metrics_eq {G : Group} (hspec : G.spec = g.spec) : G.metrics = g.metrics := by
  rw [Group.metrics, hspec]
  rfl

theorem isPresent_eq {G : Group} (hspec : G.spec = g.spec) (acts : Activities) :
    G.spec.isPresent acts = decide (0 < (acts.multi k).count) := by
  rw [hspec]
  rfl

theorem Lawful.lt_length (law : g.Lawful) {G : Group} (hspec : G.spec = g.spec)
    {r : k.Rec} {idx : Nat}
    {v : Value} (hv : (g.values r)[idx]? = some v) : idx < G.metrics.length := by
  obtain ⟨m, hm, -⟩ := law.metric hv
  exact metrics_eq hspec ▸ (List.getElem?_eq_some_iff.mp hm).1

theorem mem_flatten_emissions {e : Emission} :
    e ∈ (rows.mapIdx g.emissions).flatten ↔ ∃ i r, rows[i]? = some r ∧
    e ∈ g.emissions i r := by
  rw [List.mem_flatten]
  constructor
  · rintro ⟨es, hes, he⟩
    obtain ⟨i, hi, rfl⟩ := List.mem_mapIdx.mp hes
    exact ⟨i, rows[i], List.getElem?_eq_getElem hi, he⟩
  · rintro ⟨i, r, hr, he⟩
    obtain ⟨hi, rfl⟩ := List.getElem?_eq_some_iff.mp hr
    exact ⟨_, List.mem_mapIdx.mpr ⟨i, hi, rfl⟩, he⟩

theorem value_mem_emissions {idx : Nat} {label : Option String} {v : Value} :
    .value idx label v ∈ g.emissions i r ↔ label = some (g.label i r) ∧
    (g.values r)[idx]? = some v := by
  rw [emissions, List.mem_cons, or_iff_right nofun, ofInstance, List.mem_mapIdx]
  constructor
  · rintro ⟨j, hj, he⟩
    cases he
    rw [Nat.zero_add]
    exact ⟨rfl, List.getElem?_eq_getElem hj⟩
  · rintro ⟨rfl, hv⟩
    obtain ⟨hj, rfl⟩ := List.getElem?_eq_some_iff.mp hv
    exact ⟨idx, hj, by rw [Nat.zero_add]⟩

section Entries

variable {G : Group} {st : Store} {acts : Activities}

/-- What a store gives back of the rows that it carries. -/
def entries (g : Sensor k) (G : Group) (st : Store) (rows : List k.Rec) :
    List (MetricId × Reading) :=
  ((rows.mapIdx g.emissions).flatten).filterMap (G.entryOf st)

theorem registered_of_carries (h : st.Carries G (rows.mapIdx g.emissions).flatten)
    (hr : rows[i]? = some r) : ((i : Int), g.label i r) ∈ st.instances.entries g.domain := by
  obtain ⟨n, hn, hnum⟩ := h.numbered _ _ _
    (mem_flatten_emissions.mpr ⟨i, r, hr, List.mem_cons_self⟩)
  obtain rfl : (i : Int) = n := by simpa using hnum
  exact hn

theorem mem_entries_of_exact (law : g.Lawful) (hspec : G.spec = g.spec)
    (h : st.Carries G (rows.mapIdx g.emissions).flatten) (hr : rows[i]? = some r) {idx : Nat}
    {v : Value} (hv : (g.values r)[idx]? = some v) (hexact : v.Exact) :
    (G.idOf idx, some (i : Int), v) ∈ g.entries G st rows := by
  obtain ⟨m, hm, hkind, hdomain⟩ := law.metric hv
  have hm : G.metrics[idx]? = some m := metrics_eq hspec ▸ hm
  have he : .value idx (some (g.label i r)) v ∈ (rows.mapIdx g.emissions).flatten :=
    mem_flatten_emissions.mpr ⟨i, r, hr, value_mem_emissions.mpr ⟨rfl, hv⟩⟩
  refine List.mem_filterMap.mpr ⟨_, he, ?_⟩
  rw [h.entryOf he hexact (by rw [hm, Option.map_some, hkind]),
    Group.numberFor_of_mem h.wellFormed hm hdomain (registered_of_carries h hr)]

/-- Every reading belongs to a row: it has the position of the row, and a value that was read from
the text of one of its values. -/
theorem of_mem_entries (law : g.Lawful) (hspec : G.spec = g.spec)
    (h : st.Carries G (rows.mapIdx g.emissions).flatten) {x : MetricId × Reading}
    (hx : x ∈ g.entries G st rows) :
    ∃ (i : Nat) (r : k.Rec) (idx : Nat) (v back : Value), rows[i]? = some r ∧
      (g.values r)[idx]? = some v ∧ (v.Exact → back = v) ∧
      x = (G.idOf idx, some (i : Int), back) := by
  obtain ⟨e, he, hentry⟩ := List.mem_filterMap.mp hx
  cases e with
  | entry d l num => simp [Group.entryOf, Emission.stored?] at hentry
  | fault cause => simp [Group.entryOf, Emission.stored?] at hentry
  | value idx label v =>
    obtain ⟨i, r, hr, hemitted⟩ := mem_flatten_emissions.mp he
    obtain ⟨rfl, hv⟩ := value_mem_emissions.mp hemitted
    obtain ⟨m, hm, hkind, hdomain⟩ := law.metric hv
    have hm : G.metrics[idx]? = some m := metrics_eq hspec ▸ hm
    rw [h.entryOf_eq he hm, Group.numberFor_of_mem h.wellFormed hm hdomain
      (registered_of_carries h hr), hkind, Option.map_eq_some_iff] at hentry
    obtain ⟨back, hread, rfl⟩ := hentry
    refine ⟨i, r, idx, v, back, hr, hv, fun hexact => ?_, rfl⟩
    rw [hexact.read?] at hread
    exact (Option.some.inj hread).symm

theorem take_set (hspec : G.spec = g.spec) (registry : Registry) {idx : Nat}
    (hidx : idx < G.metrics.length) (readings : List Reading) (acts : Activities) :
    Session.take registry acts ⟨G.idOf idx, readings⟩ =
      readings.foldl (g.absorbReading ⟨g.metrics, registry, .curr⟩ idx) acts := by
  have hm := List.getElem?_eq_getElem hidx
  rw [Session.take, Group.idOf_eq hm, Group.find?_metric hm]
  dsimp only
  rw [hspec, metrics_eq hspec]
  rfl

theorem multi_absorbReading (g : Sensor k) (registry : Registry) (idx : Nat) (acts : Activities)
    (i : Nat) (back : Value) :
    (g.absorbReading ⟨g.metrics, registry, .curr⟩ idx acts (some (i : Int), back)).multi k =
      match g.change? ⟨g.metrics, registry, .curr⟩ idx (some (i : Int), back) with
      | some f => (acts.multi k).update .curr i f
      | none => acts.multi k := by
  have hposition : position? (some (i : Int)) = some i := by simp [position?]
  rw [absorbReading]
  simp only [hposition]
  cases g.change? ⟨g.metrics, registry, .curr⟩ idx (some (i : Int), back) with
  | none => rfl
  | some f => exact Groups.multi_setMulti _ k _

variable {Q : Activity k.Rec → Prop}

section Taking

variable (law : g.Lawful) (hspec : G.spec = g.spec)
  (h : st.Carries G (rows.mapIdx g.emissions).flatten)
  (hkeep : ∀ i r idx change a, rows[i]? = some r → g.Changes i r idx change → Q a →
    Q (a.update .curr i change))

include law hspec h

theorem label_of_row {r : k.Rec} (hr : rows[i]? = some r) {idx : Nat} {v : Value}
    (hv : (g.values r)[idx]? = some v) :
    (⟨g.metrics, st.instances, .curr⟩ : ImportView).label? idx (some (i : Int)) =
      some (g.label i r) := by
  obtain ⟨m, hm, -, hdomain⟩ := law.metric hv
  rw [← metrics_eq hspec] at hm ⊢
  exact Group.label?_of_mem h.wellFormed hm hdomain (registered_of_carries h hr)

include hkeep

theorem reading_keeps {idx : Nat} (hidx : idx < G.metrics.length) {x : Reading}
    (hx : (G.idOf idx, x) ∈ g.entries G st rows) (acts : Activities) (hq : Q (acts.multi k)) :
    Q ((g.absorbReading ⟨g.metrics, st.instances, .curr⟩ idx acts x).multi k) := by
  obtain ⟨i, r, idx', v, back, hr, hv, hexact, heq⟩ := of_mem_entries law hspec h hx
  obtain rfl : idx = idx' :=
    Group.idOf_injective hidx (law.lt_length hspec hv) (congrArg (·.1) heq)
  obtain rfl : x = (some (i : Int), back) := congrArg (·.2) heq
  rw [multi_absorbReading]
  split
  · rename_i change hchange
    exact hkeep i r idx change _ hr
      ⟨_, v, back, hv, hexact, label_of_row law hspec h hr hv, hchange⟩ hq
  · exact hq

theorem set_keeps {set : ValueSet} (hset : set ∈ Store.gather (g.entries G st rows))
    (acts : Activities) (hq : Q (acts.multi k)) :
    Q ((Session.take st.instances acts set).multi k) := by
  have hgrouped := Store.grouped_gather (g.entries G st rows)
  obtain ⟨x, hx, hid⟩ :=
    List.mem_map.mp ((hgrouped.listed set.id).mp (List.mem_map_of_mem hset))
  obtain ⟨i, r, idx, v, back, -, hv, -, rfl⟩ := of_mem_entries law hspec h hx
  have hlt := law.lt_length hspec hv
  obtain ⟨id, readings⟩ := set
  obtain rfl : G.idOf idx = id := hid
  rw [take_set hspec st.instances hlt]
  refine List.foldlRecOn (motive := fun acts : Activities => Q (acts.multi k)) readings _ hq
    fun acts hq x hx => ?_
  exact reading_keeps law hspec h hkeep hlt ((hgrouped.mem_readings hset).mp hx) acts hq

/-- What every change keeps is kept by all readings. -/
theorem takeAll_keeps (hq : Q (acts.multi k)) :
    Q ((Session.takeAll st.instances (Store.gather (g.entries G st rows)) acts).multi k) :=
  List.foldlRecOn (motive := fun acts : Activities => Q (acts.multi k)) _ _ hq
    fun acts hq _ hset => set_keeps law hspec h hkeep hset acts hq

/-- What one value brings about and every change keeps is there after all readings. -/
theorem takeAll_reaches {r : k.Rec} (hr : rows[i]? = some r) {idx : Nat} {v : Value}
    (hv : (g.values r)[idx]? = some v) (hexact : v.Exact)
    (hreach : ∃ change, g.change? ⟨g.metrics, st.instances, .curr⟩ idx (some (i : Int), v) =
      some change ∧ ∀ a : Activity k.Rec, Q (a.update .curr i change)) (acts : Activities) :
    Q ((Session.takeAll st.instances (Store.gather (g.entries G st rows)) acts).multi k) := by
  have hgrouped := Store.grouped_gather (g.entries G st rows)
  have hlt := law.lt_length hspec hv
  obtain ⟨change, hchange, hreach⟩ := hreach
  obtain ⟨⟨id, readings⟩, hset, hid, hreading⟩ :=
    hgrouped.exists_set (mem_entries_of_exact law hspec h hr hv hexact)
  obtain rfl : id = G.idOf idx := hid
  refine foldl_reaches (P := fun acts : Activities => Q (acts.multi k)) hset (fun acts => ?_)
    (fun set hset acts hq => set_keeps law hspec h hkeep hset acts hq) acts
  rw [take_set hspec st.instances hlt]
  refine foldl_reaches (P := fun acts : Activities => Q (acts.multi k)) hreading (fun acts => ?_)
    (fun x hx acts hq =>
      reading_keeps law hspec h hkeep hlt ((hgrouped.mem_readings hset).mp hx) acts hq) acts
  rw [multi_absorbReading, hchange]
  exact hreach _

end Taking

end Entries

/-- Records that come back one by one, as far as they are restored. -/
structure RestoredAll (g : Sensor k) (rows back : List k.Rec) : Prop where
  length : back.length = rows.length
  row : ∀ i r z, rows[i]? = some r → back[i]? = some z → g.Restored i r z

theorem RestoredAll.exists_row {back : List k.Rec} (h : g.RestoredAll rows back)
    (hz : back[i]? = some z) : ∃ r, rows[i]? = some r ∧ g.Restored i r z := by
  have hi := (List.getElem?_eq_some_iff.mp hz).1
  rw [h.length] at hi
  exact ⟨rows[i], List.getElem?_eq_getElem hi, h.row i _ z (List.getElem?_eq_getElem hi) hz⟩

/-- What is restored of every record is restored of all of them. -/
theorem RestoredAll.map_eq {back : List k.Rec} {f f' : k.Rec → T} (h : g.RestoredAll rows back)
    (heq : ∀ i r z, r ∈ rows → g.Restored i r z → f z = f' r) :
    back.map f = rows.map f' := by
  refine List.ext_getElem (by simp [h.length]) fun i hi hi' => ?_
  rw [List.length_map] at hi hi'
  rw [List.getElem_map, List.getElem_map]
  exact heq i _ _ (List.getElem_mem hi')
    (h.row i _ _ (List.getElem?_eq_getElem hi') (List.getElem?_eq_getElem hi))

/-- All rows that a store carries are restored in a blank slot. -/
theorem restoredAll_takeAll {G : Group} {st : Store} {acts : Activities} (law : g.Lawful)
    (hspec : G.spec = g.spec) (h : st.Carries G (rows.mapIdx g.emissions).flatten)
    (hblank : (acts.multi k).Holds .curr []) :
    g.RestoredAll rows (((Session.takeAll st.instances (Store.gather (g.entries G st rows))
      acts).multi k).records .curr) := by
  have hwithin :
      ((Session.takeAll st.instances (Store.gather (g.entries G st rows)) acts).multi k).Within
        .curr rows.length := by
    refine takeAll_keeps (Q := (·.Within .curr rows.length)) law hspec h ?_ (hblank.within_nil _)
    intro i r idx change a hr _ ha
    exact ha.update (List.getElem?_eq_some_iff.mp hr).1 change
  -- Every row is there, because some reading of it changes it.
  have hthere : ∀ i r, rows[i]? = some r → i < (((Session.takeAll st.instances
      (Store.gather (g.entries G st rows)) acts).multi k).records .curr).length := by
    intro i r hr
    obtain ⟨idx, v, hv, hexact, hsets⟩ := law.builds i r
    obtain ⟨change, hchange, -⟩ := hsets st.instances (label_of_row law hspec h hr hv)
    refine takeAll_reaches (Q := fun a => i < (a.records .curr).length) law hspec h ?_ hr hv hexact
      ⟨change, hchange, fun a => (a.length_records_update .curr i change).1⟩ acts
    intro j r' idx change a _ _ ha
    exact Nat.lt_of_lt_of_le ha (a.length_records_update .curr j change).2
  refine ⟨Nat.le_antisymm hwithin.length_records (Nat.le_of_not_lt fun hlt => ?_), ?_⟩
  · exact Nat.lt_irrefl _ (hthere _ _ (List.getElem?_eq_getElem hlt))
  · intro i r z hr hz T field x hres
    have hrecord := hwithin.getD_records i
    rw [List.getD_eq_getElem?_getD, hz, Option.getD_some] at hrecord
    have hkeep : ∀ (j : Nat) r' idx change (a : Activity k.Rec), rows[j]? = some r' →
        g.Changes j r' idx change → field (a.recordAt .curr i) = x →
        field ((a.update .curr j change).recordAt .curr i) = x := by
      intro j r' idx change a hr' hchange ha
      rw [Activity.recordAt_update]
      split
      · rename_i hij
        subst hij
        obtain rfl : r = r' := Option.some.inj (hr.symm.trans hr')
        exact hres.keeps idx change hchange _ ha
      · exact ha
    rw [hrecord]
    rcases hres.sets with ⟨idx, v, hv, hexact, hsets⟩ | hdefault
    · obtain ⟨change, hchange, hset⟩ := hsets st.instances (label_of_row law hspec h hr hv)
      refine takeAll_reaches (Q := fun a => field (a.recordAt .curr i) = x) law hspec h hkeep hr hv
        hexact ⟨change, hchange, fun a => ?_⟩ acts
      rw [Activity.recordAt_update, if_pos rfl]
      exact hset _
    · refine takeAll_keeps (Q := fun a => field (a.recordAt .curr i) = x) law hspec h hkeep ?_
      rw [hblank.recordAt_nil]
      exact hdefault

end GroupSpec.Sensor

/-- What a record restores of a sensor: all its rows, if its group wrote to the record. -/
theorem Transcript.sensors_back {st : Store} {groups : List Group} {es : Group → List Emission}
    {record : StoredRecord} {acts : Activities} {k : Multi} {g : Sensor k} {G : Group}
    {rows : List k.Rec} (h : Transcript st groups es record) (law : g.Lawful)
    (hspec : G.spec = g.spec) (hpart : G.part = .multi k)
    (hes : es G = (rows.mapIdx g.emissions).flatten) (hblank : (acts.multi k).Holds .curr [])
    {back : List k.Rec} (hback : back = ((Session.finish (Session.takeAll st.instances
      (st.decode record).sets acts)).multi k).records .curr) :
    (G ∈ groups → g.RestoredAll rows back) ∧ (G ∉ groups → back = []) := by
  have hfinish : G.spec.finish .curr = id := by
    rw [hspec]
    rfl
  have hmulti :
    (Session.finish (Session.takeAll st.instances (st.decode record).sets acts)).multi k =
      (Session.takeAll st.instances (Store.gather (if G ∈ groups then
        (es G).filterMap (G.entryOf st) else [])) acts).multi k :=
    Activities.multi_of_part hpart ((Session.part_finish hfinish).trans (h.part_takeAll_entries G))
  rw [hback, hmulti]
  constructor
  · intro hg
    have hcarries := h.carries G hg
    rw [hes] at hcarries
    rw [if_pos hg, hes]
    exact Sensor.restoredAll_takeAll law hspec hcarries hblank
  · intro hg
    rw [if_neg hg]
    exact hblank.records

end ActivityArchive
