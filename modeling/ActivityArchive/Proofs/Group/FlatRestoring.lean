import ActivityArchive.Proofs.Group.Restoring

/-!
Flat groups restore their record: every counter is read back into its own field, and the fields are
all there is of the record.
-/
namespace ActivityArchive

open Activities GroupSpec Record

theorem Counter.kind_value {R : Type} (c : Counter R) (r : R) : (c.value r).kind = c.kind := by
  cases c <;> rfl

theorem Counter.exact_value {R : Type} (c : Counter R) (r : R) : (c.value r).Exact := by
  cases c with
  | word32 key get set => exact Value.exact_u32 _
  | word64 key get set => exact Value.exact_u64 _

theorem Counter.assign?_value {R : Type} (c : Counter R) (r : R) :
    c.assign? (c.value r) = some (c.copy r) := by
  cases c with
  | word32 key get set =>
    show ((Value.u32 (get r)).word32?).map set = _
    rw [Value.word32?_u32]
    rfl
  | word64 key get set => rfl

theorem readings_singular (g : Group) (st : Store) (start : Nat) (vs : List Value) :
    g.readings st (fun _ => true) (singular start vs) =
      vs.mapIdx fun i v => (start + i, none, v) := by
  rw [singular, List.mapIdx_eq_zipIdx_map, List.mapIdx_eq_zipIdx_map, Group.readings,
    List.filterMap_map, ← List.filterMap_eq_map]
  congr 1
  funext x
  simp

theorem mem_singular {start idx : Nat} {vs : List Value} {label : Option String} {v : Value}
    (h : .value idx label v ∈ singular start vs) :
    ∃ i, vs[i]? = some v ∧ idx = start + i := by
  obtain ⟨i, hi, he⟩ := List.mem_mapIdx.mp h
  cases he
  exact ⟨i, List.getElem?_eq_getElem hi, rfl⟩

section Flat

variable {g : Group} {k : Single} {name : String} {counters : List (Counter k.Rec)}
  {rows : List Row}

theorem flat_metric (hspec : g.spec = flat name k counters rows)
    (hlen : rows.length = counters.length) {i : Nat} {c : Counter k.Rec}
    (hc : counters[i]? = some c) : ∃ row : Row, g.metrics[i]? = some (row.descriptor c.kind) := by
  have hi : i < rows.length := hlen ▸ (List.getElem?_eq_some_iff.mp hc).1
  have hmetrics : g.metrics = List.zipWith (fun c row => row.descriptor c.kind) counters rows := by
    rw [Group.metrics, hspec]
    rfl
  refine ⟨rows[i], ?_⟩
  rw [hmetrics, List.getElem?_zipWith, hc, List.getElem?_eq_getElem hi]

/-- The readings of a flat group, one under each index. -/
def flatColumns (counters : List (Counter k.Rec)) (r : k.Rec) : List (Nat × List Reading) :=
  counters.zipIdx.map fun x => (x.2, [(none, x.1.value r)])

def flatChange (counters : List (Counter k.Rec)) (view : ImportView) (c : Nat × List Reading) :
    List (k.Rec → k.Rec) :=
  (c.2.take 1).filterMap fun x =>
    if view.accepts c.1 x.2 then counters[c.1]?.bind (·.assign? x.2) else none

theorem flatMap_flatChange (hspec : g.spec = flat name k counters rows)
    (hlen : rows.length = counters.length) (registry : Registry) (r : k.Rec) :
    (flatColumns counters r).flatMap (flatChange counters ⟨g.metrics, registry, .curr⟩) =
      counters.map (·.copy r) := by
  have hone : ∀ x ∈ counters.zipIdx,
      flatChange counters ⟨g.metrics, registry, .curr⟩ (x.2, [(none, x.1.value r)]) =
        [x.1.copy r] := by
    intro x hx
    have hc : counters[x.2]? = some x.1 := List.mk_mem_zipIdx_iff_getElem?.mp hx
    obtain ⟨row, hm⟩ := flat_metric hspec hlen hc
    have haccepts : (⟨g.metrics, registry, .curr⟩ : ImportView).accepts x.2 (x.1.value r) =
        true := by
      simp [ImportView.accepts, hm, Row.descriptor, Counter.kind_value]
    simp [flatChange, haccepts, hc, Counter.assign?_value]
  have hcounters : counters.map (·.copy r) = counters.zipIdx.map fun x => x.1.copy r := by
    have hfst := congrArg (List.map (Counter.copy · r)) (List.zipIdx_map_fst 0 counters).symm
    rw [hfst, List.map_map]
    rfl
  rw [flatColumns, List.flatMap_map, hcounters, List.map_eq_flatMap]
  exact List.flatMap_congr hone

theorem restores_flat (hspec : g.spec = flat name k counters rows) (hpart : g.part = .single k)
    (hlen : rows.length = counters.length) (hne : counters ≠ [])
    (hcopy : ∀ r, (counters.map (·.copy r)).foldl (fun x f => f x) default = r)
    (defined : Nat → Bool) :
    Restores g k (fun _ r => singular 0 (counters.map (·.value r))) defined
      (fun _ => True) some := by
  refine restores_of_columns (flatColumns counters) (flatChange counters) hpart
    (hspec ▸ flat_writes name k counters rows) ?_ ?_ ?_ ?_ ?_
  · intro r idx label v he _
    obtain ⟨i, hv, rfl⟩ := mem_singular he
    rw [List.getElem?_map, Option.map_eq_some_iff] at hv
    obtain ⟨c, hc, rfl⟩ := hv
    obtain ⟨row, hm⟩ := flat_metric hspec hlen hc
    rw [Nat.zero_add, hm, Counter.kind_value]
    exact ⟨Counter.exact_value c r, rfl⟩
  · intro st r _
    have hvalues : singular 0 (counters.map (·.value r)) =
        counters.zipIdx.map fun x => .value x.2 none (x.1.value r) := by
      rw [singular, List.mapIdx_eq_zipIdx_map, List.zipIdx_map, List.map_map]
      simp [Function.comp_def]
    rw [hvalues]
    exact readings_values g st (fun c : Counter k.Rec => c.value r) counters.zipIdx
  · intro r
    refine columnar_values (fun c : Counter k.Rec => c.value r)
      ((List.zipIdx_map_snd 0 counters).symm ▸ List.nodup_range')
      fun x hx => ?_
    obtain ⟨row, hm⟩ := flat_metric hspec hlen (List.mk_mem_zipIdx_iff_getElem?.mp hx)
    exact (List.getElem?_eq_some_iff.mp hm).1
  · intro view c acts
    rw [hspec]
    exact absorbSingle_eq _ _ _ _
  · intro registry r _
    rw [flatMap_flatChange hspec hlen]
    cases hcs : counters with
    | nil => exact absurd hcs hne
    | cons c cs =>
      have hr := hcopy r
      rw [hcs, List.map_cons, List.foldl_cons] at hr
      rw [List.map_cons, changed_cons, hr]

end Flat

end ActivityArchive
