import ActivityArchive.Group.PerCpu
import ActivityArchive.Proofs.Activity.Building
import ActivityArchive.Proofs.Group.FlatRestoring
import ActivityArchive.Proofs.Store.Grouped

/-!
Groups with a record for each CPU that restore them. Their values come record by record, the
aggregate in the first half of the catalog and each CPU in the second, and are taken in again metric
by metric; each reading changes the record it was written for, so that in the end there is a record
again for each that was shown, wherever it stands (`Transcript.builds_units`).
-/
namespace ActivityArchive

open Activities GroupSpec Record

namespace GroupSpec

/-- What the value of a column changes in a record. -/
def UnitColumn.copy {R : Type} (c : UnitColumn R) (r z : R) : R :=
  match c.assign? with
  | some assign => assign (c.value r) z
  | none => z

/-- What the columns change in a record one after the other. -/
def copyColumns {R : Type} (columns : List (UnitColumn R)) (r z : R) : R :=
  columns.foldl (fun z c => c.copy r z) z

/-- The number that the readings of a record have; those of the aggregate have none. -/
def unitNumber (idx : Nat) : Option Int := if idx = 0 then none else some ((idx - 1 : Nat) : Int)

/-- The reading of one column of a record. -/
def unitReading {R : Type} (c : UnitColumn R) (row : Nat × R) : Reading :=
  (unitNumber row.1, .u64 (c.value row.2))

def unitValues {R : Type} (columns : List (UnitColumn R)) (r : R) : List Value :=
  columns.map fun c => .u64 (c.value r)

variable {k : Multi} {columns : List (UnitColumn k.Rec)} {g : Group} {registry : Registry}
  {start n : Nat} {rows : List (Nat × k.Rec)}

/-- A half of a catalog, from the metric at `start` on, with readings that lead to their records. -/
structure Half (g : Group) (columns : List (UnitColumn k.Rec)) (registry : Registry) (start : Nat)
    (rows : List (Nat × k.Rec)) : Prop where
  absorb : g.spec.absorb = absorbColumns k columns
  aligned : start % columns.length = 0
  kinds : ∀ i < columns.length, g.metrics[start + i]?.map (·.kind) = some .u64
  unit : ∀ i < columns.length, ∀ row ∈ rows, unitOf? ⟨g.metrics, registry, .curr⟩
    columns.length
    (start + i) (unitNumber row.1) = some row.1
  distinct : (rows.map (·.1)).Nodup

/-- Each reading changes the record that it was written for. -/
theorem Half.absorbUnits_eq (h : Half g columns registry start rows) {i : Nat}
    {c : UnitColumn k.Rec} (hi : columns[i]? = some c) {assign : UInt64 → k.Rec → k.Rec}
    (hassign : c.assign? = some assign) (acts : Activities) :
    absorbUnits k ⟨g.metrics, registry, .curr⟩ columns.length (start + i)
        (fun v => ((⟨g.metrics, registry, .curr⟩ : ImportView).word64? (start + i) v).map
          assign)
        (rows.map (unitReading c)) acts =
      rows.foldl (fun acts row => updateMulti .curr k row.1 (c.copy row.2) acts) acts := by
  have hlt : i < columns.length := (List.getElem?_eq_some_iff.mp hi).1
  rw [absorbUnits, List.foldl_map]
  refine List.foldl_ext _ _ acts fun acts row hrow => ?_
  have haccepts : (⟨g.metrics, registry, .curr⟩ : ImportView).accepts (start + i)
      (.u64 (c.value row.2)) = true := accepts_of_kind (h.kinds i hlt)
  have hword : (⟨g.metrics, registry, .curr⟩ : ImportView).word64? (start + i)
      (.u64 (c.value row.2)) = some (c.value row.2) := if_pos haccepts
  have hcopy : c.copy row.2 = assign (c.value row.2) := by
    funext z
    rw [UnitColumn.copy, hassign]
  simp only [unitReading, h.unit i hlt row hrow, hword, Option.map_some, hcopy]

/-- Readings of one column, one for each record. -/
theorem Half.absorb_column (h : Half g columns registry start rows)
    (hn : ∀ row ∈ rows, row.1 < n) {c : UnitColumn k.Rec × Nat}
    (hc : c ∈ columns.zipIdx start)
    (acts : Activities) :
    Activity.Builds .curr n (fun i z => (rows.lookup i).elim z (c.1.copy · z)) (acts.multi k)
      ((g.spec.absorb ⟨g.metrics, registry, .curr⟩ c.2
        (rows.map (unitReading c.1)) acts).multi k) := by
  obtain ⟨c, idx⟩ := c
  obtain ⟨hle, hi⟩ := List.mk_mem_zipIdx_iff_le_and_getElem?_sub.mp hc
  obtain ⟨i, rfl⟩ : ∃ i, idx = start + i := ⟨idx - start, by omega⟩
  rw [Nat.add_sub_cancel_left] at hi
  have hmod : (start + i) % columns.length = i := by
    rw [Nat.add_mod, h.aligned, Nat.zero_add, Nat.mod_mod]
    exact Nat.mod_eq_of_lt (List.getElem?_eq_some_iff.mp hi).1
  rw [h.absorb, absorbColumns, hmod, hi, Option.bind_some]
  cases hassign : c.assign? with
  | none =>
    have hsame : (fun i z => (rows.lookup i).elim z (c.copy · z)) = fun _ (z : k.Rec) => z := by
      funext i z
      have hcopy : (c.copy · z) = fun _ => z := by
        funext r
        rw [UnitColumn.copy, hassign]
      rw [hcopy]
      cases rows.lookup i <;> rfl
    rw [hsame]
    exact .refl .curr n _
  | some assign =>
    have hchange : (fun i z => (rows.lookup i).elim z (c.copy · z)) = fun i z =>
        rows.foldl (fun z row => if i = row.1 then c.copy row.2 z else z) z := by
      funext i z
      exact (foldl_lookup h.distinct i c.copy z).symm
    rw [hchange]
    dsimp only
    rw [h.absorbUnits_eq hi hassign]
    refine Activity.builds_foldl (·.multi k) (fun row hrow acts => ?_) acts
    have hupdate : (updateMulti .curr k row.1 (c.copy row.2) acts).multi k =
        (acts.multi k).update .curr row.1 (c.copy row.2) := Groups.multi_setMulti _ _ _
    rw [hupdate]
    exact Activity.builds_update .curr (hn row hrow) (c.copy row.2) (acts.multi k)

theorem Half.index_lt (h : Half g columns registry start rows) :
    ∀ i ∈ (columns.zipIdx start).map (·.2), i < g.metrics.length := by
  intro i hi
  rw [List.zipIdx_map_snd, List.mem_range'_1] at hi
  have hkind := h.kinds (i - start) (by omega)
  rw [Nat.add_sub_cancel' hi.1, Option.map_eq_some_iff] at hkind
  obtain ⟨m, hm, -⟩ := hkind
  exact (List.getElem?_eq_some_iff.mp hm).1

/-- The entries of a half, as a record holds them. -/
def unitEntries {R : Type} (g : Group) (columns : List (UnitColumn R)) (start : Nat)
    (rows : List (Nat × R)) : List (MetricId × Reading) :=
  rows.flatMap fun row => (columns.zipIdx start).map fun c => (g.idOf c.2, unitReading c.1 row)

theorem Half.takeAll_entries (h : Half g columns registry start rows) (hrows : rows ≠ [])
    (acts : Activities) :
    Session.takeAll registry (Store.gather (unitEntries g columns start rows)) acts =
      (columns.zipIdx start).foldl (fun acts c => g.spec.absorb ⟨g.metrics, registry, .curr⟩ c.2
        (rows.map (unitReading c.1)) acts) acts := by
  have hnd : ((columns.zipIdx start).map (·.2)).Nodup := by
    rw [List.zipIdx_map_snd]
    exact List.nodup_range'
  have hids : ((columns.zipIdx start).map fun c => g.idOf c.2).Nodup := by
    have hids := Group.nodup_idOf hnd h.index_lt
    rw [List.map_map] at hids
    exact hids
  have hlt : ∀ x ∈ (columns.zipIdx start).map fun c => (c.2, rows.map (unitReading c.1)),
      x.1 < g.metrics.length := by
    intro x hx
    obtain ⟨c, hc, rfl⟩ := List.mem_map.mp hx
    exact h.index_lt c.2 (List.mem_map_of_mem hc)
  have hcolumns : Session.takeAll registry (((columns.zipIdx start).map fun c =>
      (c.2, rows.map (unitReading c.1))).map fun x => ⟨g.idOf x.1, x.2⟩) acts = _ :=
    Session.takeAll_columns hlt
  rw [List.map_map, List.foldl_map] at hcolumns
  rw [unitEntries, Store.gather_rows hids hrows]
  exact hcolumns

/-- What a half of a catalog brings back: a record for each row, as far as its columns tell. -/
theorem Half.builds (h : Half g columns registry start rows) (hn : ∀ row ∈ rows, row.1 < n)
    (acts : Activities) :
    Activity.Builds .curr n (fun i z => (rows.lookup i).elim z (copyColumns columns · z))
      (acts.multi k) ((Session.takeAll registry
        (Store.gather (unitEntries g columns start rows)) acts).multi k) := by
  by_cases hrows : rows = []
  · subst hrows
    exact .refl .curr n _
  · have hchange : (fun i z => (rows.lookup i).elim z (copyColumns columns · z)) = fun i z =>
        (columns.zipIdx start).foldl (fun z c => (rows.lookup i).elim z (c.1.copy · z)) z := by
      funext i z
      cases rows.lookup i with
      | none => exact (List.foldl_fixed _).symm
      | some r =>
        show copyColumns columns r z = _
        rw [copyColumns, ← List.zipIdx_map_fst start columns, List.foldl_map, List.zipIdx_map_fst]
        rfl
    rw [h.takeAll_entries hrows, hchange]
    exact Activity.builds_foldl (·.multi k) (fun c hc acts => h.absorb_column hn hc acts) acts

/-- A group whose values are those of some columns, once for the aggregate and once for each CPU. -/
structure PerUnit (g : Group) (k : Multi) (columns : List (UnitColumn k.Rec)) : Prop where
  part : g.part = .multi k
  absorb : g.spec.absorb = absorbColumns k columns
  metrics : ∃ cluster all each unit, g.metrics = unitMetrics cluster all each unit columns

variable {st : Store} {es : List Emission} {view : ExportView} {i : Nat}

theorem PerUnit.metric_first (h : PerUnit g k columns) (hi : i < columns.length) :
    ∃ m, g.metrics[i]? = some m ∧ m.kind = .u64 := by
  obtain ⟨cluster, all, each, unit, hmetrics⟩ := h.metrics
  rw [hmetrics, unitMetrics, List.getElem?_append_left (by simpa using hi)]
  exact ⟨⟨.pack 60 cluster columns[i].item, all ++ columns[i].name, .u64,
    .counter, none, unit⟩, by simp [hi], rfl⟩

theorem PerUnit.metric_second (h : PerUnit g k columns) (hi : i < columns.length) :
    ∃ m, g.metrics[columns.length + i]? = some m ∧ m.kind = .u64 ∧
      m.domain = some Domain.perCpu := by
  obtain ⟨cluster, all, each, unit, hmetrics⟩ := h.metrics
  rw [hmetrics, unitMetrics, List.getElem?_append_right (by simp)]
  exact ⟨⟨.pack 60 cluster columns[i].unitItem, each ++ columns[i].name, .u64, .counter,
    some Domain.perCpu, unit⟩, by simp [hi], rfl, rfl⟩

theorem PerUnit.first (h : PerUnit g k columns) (registry : Registry)
    (hrows : ∀ row ∈ rows, row.1 = 0) (hnd : (rows.map (·.1)).Nodup) :
    Half g columns registry 0 rows := by
  refine ⟨h.absorb, Nat.zero_mod _, fun i hi => ?_, fun i hi row hrow => ?_, hnd⟩
  · obtain ⟨m, hm, hkind⟩ := h.metric_first hi
    rw [Nat.zero_add, hm, Option.map_some, hkind]
  · rw [unitOf?, Nat.zero_add, if_pos hi, hrows row hrow]

theorem PerUnit.length (h : PerUnit g k columns) :
    g.metrics.length = columns.length + columns.length := by
  obtain ⟨cluster, all, each, unit, hmetrics⟩ := h.metrics
  rw [hmetrics, unitMetrics, List.length_append, List.length_map, List.length_map]

theorem mem_unitEntries {x : MetricId × Reading} (hx : x ∈ unitEntries g columns start rows) :
    ∃ i, start ≤ i ∧ i < start + columns.length ∧ x.1 = g.idOf i := by
  obtain ⟨row, -, hx⟩ := List.mem_flatMap.mp hx
  obtain ⟨⟨c, i⟩, hc, rfl⟩ := List.mem_map.mp hx
  obtain ⟨hle, hi⟩ := List.mk_mem_zipIdx_iff_le_and_getElem?_sub.mp hc
  have hlt := (List.getElem?_eq_some_iff.mp hi).1
  exact ⟨i, hle, by omega, rfl⟩

/-- The halves have no metric in common. -/
theorem PerUnit.ne_entries (h : PerUnit g k columns) (first second : List (Nat × k.Rec)) :
    ∀ x ∈ unitEntries g columns 0 first, ∀ y ∈ unitEntries g columns columns.length second,
      x.1 ≠ y.1 := by
  intro x hx y hy hid
  obtain ⟨i, -, hi, hxi⟩ := mem_unitEntries hx
  obtain ⟨j, hj, hlt, hyj⟩ := mem_unitEntries hy
  have hlen := h.length
  have hij : i = j := Group.idOf_injective (g := g) (by omega) (by omega) (hxi ▸ hyj ▸ hid)
  omega

/-- The instance that a CPU is registered under when it is shown. -/
def registers (es : List Emission) (idx : Nat) : Prop :=
  .entry (cpuEntry idx).1 (cpuEntry idx).2.1 (cpuEntry idx).2.2 ∈ es

theorem mem_entries_perCpu (hcarries : st.Carries g es) {idx : Nat} (h : registers es idx) :
    (((idx - 1 : Nat) : Int), Domain.cpuLabel (idx - 1)) ∈
    st.instances.entries Domain.perCpu := by
  obtain ⟨n, hn, hnum⟩ := hcarries.numbered _ _ _ h
  obtain rfl : ((idx - 1 : Nat) : Int) = n := by simpa [cpuEntry] using hnum
  exact hn

/-- CPUs whose instances were registered under their own numbers. -/
theorem PerUnit.second (h : PerUnit g k columns) (hcarries : st.Carries g es)
    (hrows : ∀ row ∈ rows, 1 ≤ row.1 ∧ registers es row.1) (hnd : (rows.map (·.1)).Nodup) :
    Half g columns st.instances columns.length rows := by
  refine ⟨h.absorb, Nat.mod_self _, fun i hi => ?_, fun i hi row hrow => ?_, hnd⟩
  · obtain ⟨m, hm, hkind, -⟩ := h.metric_second hi
    rw [hm, Option.map_some, hkind]
  · obtain ⟨m, hm, -, hdomain⟩ := h.metric_second hi
    obtain ⟨hpos, hentry⟩ := hrows row hrow
    have hlabel : (⟨g.metrics, st.instances, .curr⟩ : ImportView).label? (columns.length + i)
        (some ((row.1 - 1 : Nat) : Int)) = some (Domain.cpuLabel (row.1 - 1)) :=
      Group.label?_of_mem hcarries.wellFormed hm hdomain (mem_entries_perCpu hcarries hentry)
    have hnumber : unitNumber row.1 = some ((row.1 - 1 : Nat) : Int) := if_neg (by omega)
    have hone : row.1 - 1 + 1 = row.1 := by omega
    rw [unitOf?, if_neg (by omega), hnumber, hlabel]
    simp [hone]

theorem readings_indexed (g : Group) (st : Store) (start : Nat) (label : Option String)
    (vs : List Value) :
    g.readings st (fun _ => true) (vs.mapIdx fun i v => .value (start + i) label v) =
      (vs.zipIdx start).map fun x => (x.2, g.numberFor st x.2 label, x.1) := by
  rw [List.mapIdx_eq_zipIdx_map, List.zipIdx_eq_map_add (i := start), List.map_map, Group.readings,
    List.filterMap_map, ← List.filterMap_eq_map]
  congr 1

theorem entries_indexed {label : Option String} {row : Nat × k.Rec}
    (h : ∀ i < columns.length, g.numberFor st (start + i) label = unitNumber row.1) :
    (g.readings st (fun _ => true) ((unitValues columns row.2).mapIdx fun i v =>
        .value (start + i) label v)).map (fun x => (g.idOf x.1, x.2)) =
      (columns.zipIdx start).map fun c => (g.idOf c.2, unitReading c.1 row) := by
  rw [readings_indexed, unitValues, List.zipIdx_map, List.map_map, List.map_map]
  refine List.map_congr_left ?_
  rintro ⟨c, idx⟩ hc
  obtain ⟨hle, hi⟩ := List.mk_mem_zipIdx_iff_le_and_getElem?_sub.mp hc
  have hnumber := h (idx - start) (List.getElem?_eq_some_iff.mp hi).1
  rw [Nat.add_sub_cancel' hle] at hnumber
  simp [unitReading, hnumber]

/-- What is written of some records, one after the other. -/
def writtenUnits {R : Type} (view : ExportView) (columns : List (UnitColumn R))
    (rows : List (Nat × R)) : List Emission :=
  rows.flatMap fun row => emitHalf view columns.length row.1 (unitValues columns row.2)

theorem readings_units (g : Group) (st : Store) (view : ExportView)
    (columns : List (UnitColumn k.Rec)) (rows : List (Nat × k.Rec)) :
    g.readings st (fun _ => true) (writtenUnits view columns rows) =
      rows.flatMap fun row => g.readings st (fun _ => true)
        (emitHalf view columns.length row.1 (unitValues columns row.2)) := List.filterMap_flatMap

theorem entries_first (g : Group) (st : Store) (hdefined : view.isDefined 0 = true)
    (hrows : ∀ row ∈ rows, row.1 = 0) :
    (g.readings st (fun _ => true) (writtenUnits view columns rows)).map
        (fun x => (g.idOf x.1, x.2)) = unitEntries g columns 0 rows := by
  rw [readings_units, List.map_flatMap, unitEntries]
  refine List.flatMap_congr fun row hrow => ?_
  have hzero := hrows row hrow
  rw [emitHalf, if_pos hzero, if_pos hdefined]
  refine entries_indexed fun i _ => ?_
  rw [Group.numberFor_none, unitNumber, if_pos hzero]

theorem entries_second (unit : PerUnit g k columns) (hcarries : st.Carries g es)
    (hdefined : view.isDefined columns.length = true)
    (hrows : ∀ row ∈ rows, 1 ≤ row.1 ∧ registers es row.1) :
    (g.readings st (fun _ => true) (writtenUnits view columns rows)).map
        (fun x => (g.idOf x.1, x.2)) = unitEntries g columns columns.length rows := by
  rw [readings_units, List.map_flatMap, unitEntries]
  refine List.flatMap_congr fun row hrow => ?_
  obtain ⟨hpos, hentry⟩ := hrows row hrow
  have hne : row.1 ≠ 0 := by omega
  rw [emitHalf, if_neg hne, if_pos hdefined]
  refine entries_indexed fun i hi => ?_
  obtain ⟨m, hm, -, hdomain⟩ := unit.metric_second hi
  rw [Group.numberFor_of_mem hcarries.wellFormed hm hdomain (mem_entries_perCpu hcarries hentry),
    unitNumber, if_neg hne]

/-- A CPU that is shown is registered. -/
theorem registers_writtenUnits (hdefined : view.isDefined columns.length = true)
    {row : Nat × k.Rec} (hrow : row ∈ rows) (hpos : 1 ≤ row.1) :
    registers (writtenUnits view columns rows) row.1 := by
  refine List.mem_flatMap.mpr ⟨row, hrow, ?_⟩
  rw [emitHalf, if_neg (by omega), if_pos hdefined]
  exact List.mem_cons_self

/-- The entries of both halves. -/
theorem entries_units {first second : List (Nat × k.Rec)} (unit : PerUnit g k columns)
    (hcarries : st.Carries g (writtenUnits view columns (first ++ second)))
    (hdefined : view.isDefined 0 = true ∧ view.isDefined columns.length = true)
    (hfirst : ∀ row ∈ first, row.1 = 0)
    (hsecond : ∀ row ∈ second, 1 ≤ row.1 ∧
      registers (writtenUnits view columns (first ++ second)) row.1) :
    (g.readings st (fun _ => true) (writtenUnits view columns (first ++ second))).map
        (fun x => (g.idOf x.1, x.2)) =
      unitEntries g columns 0 first ++ unitEntries g columns columns.length second := by
  rw [writtenUnits, List.flatMap_append, Group.readings, List.filterMap_append, List.map_append]
  exact congrArg₂ (· ++ ·) (entries_first g st hdefined.1 hfirst)
    (entries_second unit hcarries hdefined.2 hsecond)

theorem readsBack_units (unit : PerUnit g k columns) (view : ExportView)
    (rows : List (Nat × k.Rec)) :
    g.ReadsBack (fun _ => true) (writtenUnits view columns rows) := by
  intro idx label v he _
  obtain ⟨row, -, he⟩ := List.mem_flatMap.mp he
  have hvalue : ∀ {start : Nat} {label' : Option String}, .value idx label v ∈
      ((unitValues columns row.2).mapIdx fun i v => Emission.value (start + i) label' v) →
        ∃ i < columns.length, idx = start + i ∧ ∃ x, v = .u64 x := by
    intro start label' he
    obtain ⟨i, hi, he⟩ := List.mem_mapIdx.mp he
    cases he
    refine ⟨i, by simpa [unitValues] using hi, rfl, ?_⟩
    simp [unitValues]
  rw [emitHalf] at he
  split at he
  · split at he
    · obtain ⟨i, hi, rfl, x, rfl⟩ := hvalue he
      obtain ⟨m, hm, hkind⟩ := unit.metric_first hi
      rw [Nat.zero_add, hm, Option.map_some, hkind]
      exact ⟨Value.exact_u64 x, rfl⟩
    · simp at he
  · split at he
    · have he : .value idx label v ∈ ofInstance columns.length (Domain.cpuLabel (row.1 - 1))
          (unitValues columns row.2) := by simpa [cpuEntry] using he
      obtain ⟨i, hi, rfl, x, rfl⟩ := hvalue he
      obtain ⟨m, hm, hkind, -⟩ := unit.metric_second hi
      rw [hm, Option.map_some, hkind]
      exact ⟨Value.exact_u64 x, rfl⟩
    · simp at he

end GroupSpec

open GroupSpec

/-- What a record brings back of the CPUs that a group wrote into it. -/
theorem Transcript.builds_units {k : Multi} {columns : List (UnitColumn k.Rec)} {g : Group}
    {st : Store} {groups : List Group} {es : Group → List Emission} {record : StoredRecord}
    {view : ExportView} {first second : List (Nat × k.Rec)} {n : Nat}
    (h : Transcript st groups es record) (unit : PerUnit g k columns) (hg : g ∈ groups)
    (hes : es g = writtenUnits view columns (first ++ second))
    (hdefined : view.isDefined 0 = true ∧ view.isDefined columns.length = true)
    (hfirst : ∀ row ∈ first, row.1 = 0) (hsecond : ∀ row ∈ second, 1 ≤ row.1)
    (hn : ∀ row ∈ first ++ second, row.1 < n) (hnd : ((first ++ second).map (·.1)).Nodup)
    (acts : Activities) :
    Activity.Builds .curr n
      (fun i z => ((first ++ second).lookup i).elim z (copyColumns columns · z)) (acts.multi k)
      ((Session.takeAll st.instances (st.decode record).sets acts).multi k) := by
  have hcarries := hes ▸ h.carries g hg
  have hback : g.ReadsBack (fun _ => true) (es g) := hes ▸ readsBack_units unit view _
  have hpart : (Session.takeAll st.instances (st.decode record).sets acts).part g.part = _ :=
    h.part_takeAll_decode hback fun _ _ _ _ => nofun
  have hregisters : ∀ row ∈ second, 1 ≤ row.1 ∧
      registers (writtenUnits view columns (first ++ second)) row.1 := fun row hrow =>
    ⟨hsecond row hrow,
      registers_writtenUnits hdefined.2 (List.mem_append_right _ hrow) (hsecond row hrow)⟩
  have hfst : ∀ row ∈ first, row.1 < n := fun row hrow => hn row (List.mem_append_left _ hrow)
  have hsnd : ∀ row ∈ second, row.1 < n := fun row hrow => hn row (List.mem_append_right _ hrow)
  rw [List.map_append, List.nodup_append] at hnd
  have hboth := ((unit.first st.instances hfirst hnd.1).builds hfst acts).trans
    ((unit.second hcarries hregisters hnd.2.1).builds hsnd _)
  rw [Activities.multi_of_part unit.part hpart, if_pos hg, hes,
    entries_units unit hcarries hdefined hfirst hregisters,
    Store.gather_append (unit.ne_entries first second), Session.takeAll, List.foldl_append]
  refine hboth.congr fun i z => elim_lookup_append (fun row hrow other hother => ?_) _ i z
  have hzero := hfirst row hrow
  have hpos := hsecond other hother
  omega

end ActivityArchive
