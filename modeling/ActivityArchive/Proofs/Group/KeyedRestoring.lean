import ActivityArchive.Proofs.Activity.Columns
import ActivityArchive.Proofs.Group.Restoring

/-!
Groups of items that restore them. The values of a sample come item by item and are taken in again
metric by metric; since labels of different items lead to records with different keys, there is in
the end one record for each item that was shown, in the order of the items
(`Transcript.holds_multi`).
-/
namespace ActivityArchive

open Activities GroupSpec Record

namespace GroupSpec.Keyed

variable {k : Multi} {T : Type} {g : Keyed k} {columns : List Nat} {key : k.Rec → T}
  {tag : Config → k.Rec → T} {c : Config} {r : k.Rec} {i : Nat}

/-- Whether the metric at an index is read back. -/
def counts (g : Keyed k) (idx : Nat) : Bool := (g.assign? idx).isSome

def shows (g : Keyed k) (c : Config) (r : k.Rec) : Bool := passes (g.filter c) (g.label c r)

def valueAt (g : Keyed k) (r : k.Rec) (idx : Nat) : Value := ((g.values r).lookup idx).getD (.u32 0)

/-- Which records the label of a record owns. -/
def owns (g : Keyed k) (c : Config) (r : k.Rec) : k.Rec → Bool :=
  match g.owner? (g.label c r) with
  | some (owns, _) => owns
  | none => fun _ => false

/-- What the value of one metric changes in the record that its label owns. -/
def step (g : Keyed k) (c : Config) (idx : Nat) (r z : k.Rec) : k.Rec :=
  match g.owner? (g.label c r), g.assign? idx, (g.valueAt r idx).word64? with
  | some (_, claim), some assign, some x => assign x (claim z)
  | _, _, _ => z

theorem step_eq {owns : k.Rec → Bool} {claim : k.Rec → k.Rec}
    (h : g.owner? (g.label c r) = some (owns, claim)) :
    g.step c i r = fun z =>
      match g.assign? i, (g.valueAt r i).word64? with
      | some assign, some x => assign x (claim z)
      | _, _ => z := by
  funext z
  rw [step, h]
  cases g.assign? i with
  | none => rfl
  | some assign => cases (g.valueAt r i).word64? <;> rfl

/-- What a record comes back as. -/
def rebuild (g : Keyed k) (c : Config) (columns : List Nat) (r : k.Rec) : k.Rec :=
  Activity.build (g.step c) columns r default

/-- What comes back, from what the columns change one after the other. -/
theorem rebuild_eq {changes : List (k.Rec → k.Rec)}
    (h : columns.map (fun i => g.step c i r) = changes) :
    g.rebuild c columns r = changes.foldl (fun z f => f z) default := by
  rw [rebuild, Activity.build, ← h, List.foldl_map]

/-- What a record that is shown emits. -/
def written (g : Keyed k) (c : Config) (r : k.Rec) : List Emission :=
  .entry g.domain (g.label c r) (g.number r) ::
    (g.values r).map fun (idx, v) => .value idx (some (g.label c r)) v

theorem flatMap_emissions (g : Keyed k) (c : Config) (rows : List k.Rec) :
    rows.flatMap (g.emissions c) = (rows.filter (g.shows c)).flatMap (g.written c) := by
  induction rows with
  | nil => rfl
  | cons r rows ih =>
    rw [List.flatMap_cons, ih]
    by_cases hr : g.shows c r = true
    · have hshown : g.shown? c r = some (g.label c r) := if_pos hr
      rw [List.filter_cons_of_pos hr, List.flatMap_cons, emissions, hshown]
      rfl
    · have hshown : g.shown? c r = none := if_neg hr
      rw [List.filter_cons_of_neg hr, emissions, hshown]
      rfl

/-- Columns that are read back: metrics of instances whose values are words. -/
def Readable (g : Keyed k) (columns : List Nat) : Prop :=
  columns ≠ [] ∧ columns.Nodup ∧ ∀ i ∈ columns, i < g.metrics.length ∧
  g.counts i = true ∧
    g.metrics[i]?.map (·.kind) ∈ [some .u32, some .u64]

instance (g : Keyed k) (columns : List Nat) : Decidable (g.Readable columns) :=
  inferInstanceAs (Decidable (columns ≠ [] ∧ columns.Nodup ∧ ∀ i ∈ columns,
    i < g.metrics.length ∧ g.counts i = true ∧
    g.metrics[i]?.map (·.kind) ∈ [some .u32, some .u64]))

/-- A group whose labels lead back to the records they come from. A column that is taken in changes
neither the key of a record nor a record of another key. -/
structure Lawful (g : Keyed k) (columns : List Nat) (key : k.Rec → T)
    (tag : Config → k.Rec → T) :
    Prop where
  domain : ∀ m ∈ g.metrics, m.domain = some g.domain
  readable : g.Readable columns
  values : ∀ r, (g.values r).filter (fun x => g.counts x.1) = columns.map fun i =>
    (i, g.valueAt r i)
  kinds : ∀ r, columns.map (fun i => some (g.valueAt r i).kind) =
    columns.map fun i => g.metrics[i]?.map (·.kind)
  owner : ∀ c r, ∃ owns claim, g.owner? (g.label c r) = some (owns, claim) ∧
    (∀ z, owns z = true ↔ key z = tag c r) ∧ ∀ z, key (claim z) = tag c r
  assign : ∀ i f, g.assign? i = some f → ∀ x z, key (f x z) = key z

theorem Readable.lt (h : g.Readable columns) (hi : i ∈ columns) : i < g.metrics.length :=
  (h.2.2 i hi).1

theorem Readable.assign (h : g.Readable columns) (hi : i ∈ columns) :
    ∃ assign, g.assign? i = some assign :=
  Option.isSome_iff_exists.mp (h.2.2 i hi).2.1

theorem metrics_eq {G : Group} (hspec : G.spec = g.spec) : G.metrics = g.metrics := by
  rw [Group.metrics, hspec]
  rfl

theorem isPresent_eq {G : Group} (hspec : G.spec = g.spec) (acts : Activities) :
    G.spec.isPresent acts = decide (0 < (acts.multi k).count) := by
  rw [hspec]
  rfl

theorem Lawful.kind (law : g.Lawful columns key tag) (r : k.Rec) (hi : i ∈ columns) :
    g.metrics[i]?.map (·.kind) = some (g.valueAt r i).kind :=
  (List.map_inj_left.mp (law.kinds r) i hi).symm

theorem Lawful.exact (law : g.Lawful columns key tag) (r : k.Rec) (hi : i ∈ columns) :
    (g.valueAt r i).Exact := by
  have hk := (law.readable.2.2 i hi).2.2
  rw [law.kind r hi] at hk
  simp only [List.mem_cons, List.not_mem_nil, or_false, Option.some.injEq] at hk
  exact hk.elim Or.inl fun h => Or.inr (Or.inl h)

theorem Lawful.word (law : g.Lawful columns key tag) (r : k.Rec) (hi : i ∈ columns) :
    ∃ x, (g.valueAt r i).word64? = some x := by
  have hk := (law.readable.2.2 i hi).2.2
  rw [law.kind r hi] at hk
  cases hv : g.valueAt r i with
  | u32 n => exact ⟨n.toUInt64, rfl⟩
  | u64 n => exact ⟨n, rfl⟩
  | float x => simp [hv, Value.kind] at hk
  | double x => simp [hv, Value.kind] at hk
  | string s => simp [hv, Value.kind] at hk

theorem Lawful.owns_iff (law : g.Lawful columns key tag) (c : Config) (r z : k.Rec) :
    g.owns c r z = true ↔ key z = tag c r := by
  obtain ⟨owns, claim, howner, howns, -⟩ := law.owner c r
  rw [Keyed.owns, howner]
  exact howns z

theorem Lawful.key_step (law : g.Lawful columns key tag) (hi : i ∈ columns) (c : Config)
    (r z : k.Rec) : key (g.step c i r z) = tag c r := by
  obtain ⟨owns, claim, howner, -, hclaim⟩ := law.owner c r
  obtain ⟨assign, hassign⟩ := law.readable.assign hi
  obtain ⟨x, hx⟩ := law.word r hi
  simp only [step, howner, hassign, hx]
  rw [law.assign i assign hassign, hclaim]

section Readings

variable {G : Group} {st : Store} {es : List Emission} {acts : Activities} {rows : List k.Rec}

/-- The reading of one metric of a record that is shown. -/
def reading (g : Keyed k) (G : Group) (st : Store) (c : Config) (i : Nat) (r : k.Rec) : Reading :=
  (G.numberFor st i (some (g.label c r)), g.valueAt r i)

theorem mem_written (law : g.Lawful columns key tag) (hi : i ∈ columns) :
    .value i (some (g.label c r)) (g.valueAt r i) ∈ g.written c r := by
  have hmem : (i, g.valueAt r i) ∈ (g.values r).filter fun x => g.counts x.1 := by
    rw [law.values r]
    exact List.mem_map.mpr ⟨i, hi, rfl⟩
  exact List.mem_cons_of_mem _ (List.mem_map.mpr ⟨_, (List.mem_filter.mp hmem).1, rfl⟩)

theorem readings_written (law : g.Lawful columns key tag) (G : Group) (st : Store) (c : Config)
    (r : k.Rec) :
    G.readings st g.counts (g.written c r) = columns.map fun i => (i, g.reading G st c i r) := by
  have hfilter : G.readings st g.counts (g.written c r) =
      ((g.values r).filter fun x => g.counts x.1).map fun x =>
        (x.1, G.numberFor st x.1 (some (g.label c r)), x.2) := by
    rw [written, Group.readings, List.filterMap_cons_none rfl, List.filterMap_map,
      ← List.filterMap_eq_map, List.filterMap_filter]
    congr 1
  rw [hfilter, law.values r, List.map_map]
  rfl

theorem readings_rows (law : g.Lawful columns key tag) (G : Group) (st : Store) (c : Config)
    (rows : List k.Rec) :
    G.readings st g.counts (rows.flatMap (g.written c)) =
      rows.flatMap fun r => columns.map fun i => (i, g.reading G st c i r) := by
  rw [Group.readings, List.filterMap_flatMap]
  congr 1
  funext r
  exact readings_written law G st c r

theorem readsBack_rows (law : g.Lawful columns key tag) (hmetrics : G.metrics = g.metrics)
    (rows : List k.Rec) : G.ReadsBack g.counts (rows.flatMap (g.written c)) := by
  intro idx label v he hc
  obtain ⟨r, -, he⟩ := List.mem_flatMap.mp he
  rcases List.mem_cons.mp he with he | he
  · cases he
  · obtain ⟨⟨idx', v'⟩, hv, he⟩ := List.mem_map.mp he
    cases he
    have hmem : (idx, v) ∈ columns.map fun i => (i, g.valueAt r i) := by
      rw [← law.values r]
      exact List.mem_filter.mpr ⟨hv, hc⟩
    obtain ⟨i, hi, hiv⟩ := List.mem_map.mp hmem
    cases hiv
    rw [hmetrics]
    exact ⟨law.exact r hi, law.kind r hi⟩

/-- A reading changes the record of its label. -/
theorem absorbReading_eq (law : g.Lawful columns key tag) (hmetrics : G.metrics = g.metrics)
    (hcarries : st.Carries G es) (hi : i ∈ columns) {assign : UInt64 → k.Rec → k.Rec}
    (hassign : g.assign? i = some assign)
    (he : .value i (some (g.label c r)) (g.valueAt r i) ∈ es) (acts : Activities) :
    g.absorbReading ⟨G.metrics, st.instances, .curr⟩ i assign acts (g.reading G st c i r) =
      acts.updateMulti k fun a => a.updateBy .curr (g.owns c r) (g.step c i r) := by
  obtain ⟨m, hm, -⟩ := hcarries.values _ _ _ he
  have hdomain : G.metrics[i]?.bind (·.domain) = some g.domain := by
    rw [hm]
    exact law.domain m (List.mem_of_getElem? (hmetrics ▸ hm))
  have hlabel := hcarries.label?_numberFor he hdomain
  obtain ⟨x, hx⟩ := law.word r hi
  have hword : (⟨G.metrics, st.instances, .curr⟩ : ImportView).word64? i (g.valueAt r i) =
      some x := by
    rw [ImportView.word64?, if_pos (accepts_of_kind (hmetrics ▸ law.kind r hi)), hx]
  obtain ⟨owns, claim, howner, -, -⟩ := law.owner c r
  have hstep : g.step c i r = fun z => assign x (claim z) := by
    funext z
    simp only [step, howner, hassign, hx]
  have howns : g.owns c r = owns := by
    simp only [Keyed.owns, howner]
  rw [absorbReading, reading, hlabel, hword, Option.bind_some, howner, hstep, howns]

theorem multi_foldl (s : Slot) (owns : k.Rec → k.Rec → Bool) (step : k.Rec → k.Rec → k.Rec)
    (rows : List k.Rec) (acts : Activities) :
    (rows.foldl (fun acts r => acts.updateMulti k fun a => a.updateBy s (owns r) (step r))
      acts).multi k = Activity.column s owns step rows (acts.multi k) := by
  induction rows generalizing acts with
  | nil => rfl
  | cons r rows ih =>
    have hupdate : (acts.updateMulti k fun a => a.updateBy s (owns r) (step r)).multi k =
        (acts.multi k).updateBy s (owns r) (step r) := Groups.multi_setMulti _ _ _
    rw [List.foldl_cons, ih, hupdate]
    rfl

/-- The readings of one metric are a column. -/
theorem absorb_column (law : g.Lawful columns key tag) (hspec : G.spec = g.spec)
    (hcarries : st.Carries G (rows.flatMap (g.written c))) (hi : i ∈ columns)
    (acts : Activities) :
    (G.spec.absorb ⟨G.metrics, st.instances, .curr⟩ i (rows.map (g.reading G st c i))
      acts).multi k =
      Activity.column .curr (g.owns c) (g.step c i) rows (acts.multi k) := by
  have hmetrics : G.metrics = g.metrics := metrics_eq hspec
  obtain ⟨assign, hassign⟩ := law.readable.assign hi
  have habsorb : G.spec.absorb ⟨G.metrics, st.instances, .curr⟩ i
      (rows.map (g.reading G st c i)) acts = rows.foldl (fun acts r =>
        g.absorbReading ⟨G.metrics, st.instances, .curr⟩ i assign acts
          (g.reading G st c i r)) acts := by
    rw [hspec, absorb_of_assign hassign]
    exact List.foldl_map
  have hrows : rows.foldl (fun acts r =>
        g.absorbReading ⟨G.metrics, st.instances, .curr⟩ i assign acts
          (g.reading G st c i r)) acts =
      rows.foldl (fun acts r => acts.updateMulti k fun a =>
        a.updateBy .curr (g.owns c r) (g.step c i r)) acts := by
    refine List.foldl_ext _ _ acts fun acts r hr => ?_
    have he : .value i (some (g.label c r)) (g.valueAt r i) ∈ rows.flatMap (g.written c) :=
      List.mem_flatMap.mpr ⟨r, hr, mem_written law hi⟩
    exact absorbReading_eq law hmetrics hcarries hi hassign he acts
  rw [habsorb, hrows, multi_foldl]

/-- The readings of several metrics, one column after the other. -/
theorem absorb_columns (law : g.Lawful columns key tag) (hspec : G.spec = g.spec)
    (hcarries : st.Carries G (rows.flatMap (g.written c))) {is : List Nat}
    (his : ∀ i ∈ is, i ∈ columns) (acts : Activities) :
    (is.foldl (fun acts i => G.spec.absorb ⟨G.metrics, st.instances, .curr⟩ i
        (rows.map (g.reading G st c i)) acts) acts).multi k =
      is.foldl (fun a i => Activity.column .curr (g.owns c) (g.step c i) rows a)
        (acts.multi k) := by
  induction is generalizing acts with
  | nil => rfl
  | cons i is ih =>
    rw [List.foldl_cons, List.foldl_cons, ih (fun j hj => his j (List.mem_cons_of_mem i hj)),
      absorb_column law hspec hcarries (his i List.mem_cons_self)]

theorem entries_rows (law : g.Lawful columns key tag) (G : Group) (st : Store) (c : Config)
    (rows : List k.Rec) :
    (G.readings st g.counts (rows.flatMap (g.written c))).map (fun x => (G.idOf x.1, x.2)) =
      rows.flatMap fun r => columns.map fun i => (G.idOf i, g.reading G st c i r) := by
  rw [readings_rows law, List.map_flatMap]
  refine List.flatMap_congr fun r _ => ?_
  rw [List.map_map]
  rfl

/-- What was written of some records is taken in metric by metric. -/
theorem takeAll_rows (law : g.Lawful columns key tag) (hmetrics : G.metrics = g.metrics)
    (hrows : rows ≠ []) (acts : Activities) :
    Session.takeAll st.instances (Store.gather
        ((G.readings st g.counts (rows.flatMap (g.written c))).map fun x => (G.idOf x.1, x.2)))
      acts =
      columns.foldl (fun acts i => G.spec.absorb ⟨G.metrics, st.instances, .curr⟩ i
        (rows.map (g.reading G st c i)) acts) acts := by
  have hlt : ∀ i ∈ columns, i < G.metrics.length := by
    rw [hmetrics]
    exact fun i hi => law.readable.lt hi
  have hcolumns : ∀ x ∈ columns.map fun i => (i, rows.map (g.reading G st c i)),
      x.1 < G.metrics.length := by
    intro x hx
    obtain ⟨i, hi, rfl⟩ := List.mem_map.mp hx
    exact hlt i hi
  have htake : Session.takeAll st.instances ((columns.map fun i =>
      (i, rows.map (g.reading G st c i))).map fun x => ⟨G.idOf x.1, x.2⟩) acts = _ :=
    Session.takeAll_columns hcolumns
  rw [List.map_map, List.foldl_map] at htake
  rw [entries_rows law, Store.gather_rows (Group.nodup_idOf law.readable.2.1 hlt) hrows]
  exact htake

/-- What was written of some records is taken in as one record for each. -/
theorem holds_written (law : g.Lawful columns key tag) (hspec : G.spec = g.spec)
    (hcarries : st.Carries G (rows.flatMap (g.written c))) (hnd : (rows.map (tag c)).Nodup)
    (hblank : (acts.multi k).Holds .curr []) :
    ((Session.takeAll st.instances (Store.gather
      ((G.readings st g.counts (rows.flatMap (g.written c))).map fun x => (G.idOf x.1, x.2)))
        acts).multi k).Holds .curr (rows.map (g.rebuild c columns)) := by
  by_cases hrows : rows = []
  · subst hrows
    exact hblank
  · rw [takeAll_rows law (metrics_eq hspec) hrows, absorb_columns law hspec hcarries
      fun i hi => hi]
    exact Activity.holds_columns hblank law.readable.1 (law.owns_iff c)
      (fun i hi => law.key_step hi c) hnd

end Readings

end GroupSpec.Keyed

/-- What a record restores of the items that a group wrote into it, if it wrote anything. -/
theorem Transcript.holds_multi {k : Multi} {T : Type} {g : Keyed k} {columns : List Nat}
    {key : k.Rec → T} {tag : Config → k.Rec → T} {G : Group} {st : Store}
    {groups : List Group}
    {es : Group → List Emission} {record : StoredRecord} {acts : Activities} {rows : List k.Rec}
    {c : Config} (h : Transcript st groups es record) (law : g.Lawful columns key tag)
    (hspec : G.spec = g.spec) (hpart : G.part = .multi k)
    (hes : es G = rows.flatMap (g.emissions c))
    (hnd : (rows.map (tag c)).Nodup) (hblank : (acts.multi k).Holds .curr []) :
    ((Session.finish (Session.takeAll st.instances (st.decode record).sets acts)).multi k).Holds
      .curr (if G ∈ groups then (rows.filter (g.shows c)).map (g.rebuild c columns) else []) := by
  have hmetrics : G.metrics = g.metrics := Keyed.metrics_eq hspec
  rw [Keyed.flatMap_emissions] at hes
  have hback : G.ReadsBack g.counts (es G) := by
    rw [hes]
    exact Keyed.readsBack_rows law hmetrics _
  have hskip : ∀ view idx readings acts, g.counts idx = false →
      G.spec.absorb view idx readings acts = acts := by
    intro view idx readings acts hidx
    have hnone : g.assign? idx = none :=
      Option.not_isSome_iff_eq_none.mp (by simpa [Keyed.counts] using hidx)
    rw [hspec, Keyed.absorb_of_skip hnone]
    rfl
  have hfinish : G.spec.finish .curr = id := by
    rw [hspec]
    rfl
  have htaken : (Session.takeAll st.instances (st.decode record).sets acts).part G.part = _ :=
    h.part_takeAll_decode hback hskip
  rw [Activities.multi_of_part hpart (Session.part_finish hfinish),
    Activities.multi_of_part hpart htaken]
  by_cases hG : G ∈ groups
  · have hcarries := h.carries G hG
    rw [hes] at hcarries
    rw [if_pos hG, if_pos hG, hes]
    exact Keyed.holds_written law hspec hcarries (hnd.sublist (List.filter_sublist.map _)) hblank
  · rw [if_neg hG, if_neg hG]
    exact hblank

end ActivityArchive
