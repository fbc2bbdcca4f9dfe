import ActivityArchive.Catalog.RouteTables
import ActivityArchive.Proofs.Group.Metrics
import ActivityArchive.Proofs.Steps
import Mathlib.Data.List.Induction

/-!
Routes from arbitrary tables. All that counts is the list of the identifiers that the tables claim,
in order: routes are built exactly where it has no repetition, and the first repetition in it is
what is refused (`build_by_claims`). Tables that are filled side by side give the same routes and
the same refusals (`RouteTables.Mirrors`): a place and an owner are always written together.
-/
namespace ActivityArchive

namespace Routes

variable {K : Type} {tables : List (K × String × List Descriptor)} {id : MetricId}

/-- The identifiers that tables claim, each with the name of the group that claims it, in order. -/
def claims (tables : List (K × String × List Descriptor)) : List (MetricId × String) :=
  tables.flatMap fun (_, group, ds) => ds.map fun d => (d.id, group)

/-- An identifier at a position where it has been claimed before, while no identifier before that
position is claimed twice; with the groups of the earlier claim and of the later one. -/
def FirstRepeat (claims : List (MetricId × String)) (id : MetricId)
    (first second : String) : Prop :=
  ∃ i j, i < j ∧ claims[i]? = some (id, first) ∧ claims[j]? = some (id, second) ∧
    ((claims.take j).map (·.1)).Nodup

/-- Look-ups that find every metric of some tables where it stands, and nothing else. -/
structure Leads (tables : List (K × String × List Descriptor)) (size : Nat)
    (find? : MetricId → Option (K × Nat)) : Prop where
  size : size = (tables.flatMap fun table => table.2.2).length
  find?_iff : ∀ id key i, find? id = some (key, i) ↔
    ∃ group ds, (key, group, ds) ∈ tables ∧ ∃ d, ds[i]? = some d ∧ d.id = id
  unclaimed : ∀ id, find? id = none ↔ ∀ group, (id, group) ∉ claims tables

theorem claims_eq_map (tables : List (K × String × List Descriptor)) :
    claims tables = (places tables).map fun r => (r.id, r.group) := by
  rw [claims, places, List.map_flatMap]
  refine List.flatMap_congr fun table _ => ?_
  obtain ⟨key, group, ds⟩ := table
  show ds.map (fun d => (d.id, group)) =
    (ds.mapIdx fun i d => (⟨d.id, key, group, i⟩ : Route K)).map fun r => (r.id, r.group)
  rw [List.mapIdx_eq_zipIdx_map, List.map_map]
  show _ = ds.zipIdx.map ((fun d : Descriptor => (d.id, group)) ∘ Prod.fst)
  rw [← List.map_map, List.zipIdx_map_fst]

theorem map_id_claims (tables : List (K × String × List Descriptor)) :
    (claims tables).map (·.1) = (places tables).map (·.id) := by
  rw [claims_eq_map, List.map_map]
  rfl

theorem mem_places {r : Route K} : r ∈ places tables ↔
    ∃ ds, (r.key, r.group, ds) ∈ tables ∧ ∃ d, ds[r.index]? = some d ∧ d.id = r.id := by
  constructor
  · intro hr
    obtain ⟨⟨key, group, ds⟩, htable, hr⟩ := List.mem_flatMap.mp hr
    obtain ⟨i, hi, rfl⟩ := List.mem_mapIdx.mp hr
    exact ⟨ds, htable, ds[i], List.getElem?_eq_getElem hi, rfl⟩
  · rintro ⟨ds, htable, d, hd, hid⟩
    obtain ⟨hi, rfl⟩ := List.getElem?_eq_some_iff.mp hd
    exact List.mem_flatMap.mpr ⟨_, htable, List.mem_mapIdx.mpr ⟨r.index, hi, by rw [hid]⟩⟩

theorem length_places (tables : List (K × String × List Descriptor)) :
    (places tables).length = (tables.flatMap fun table => table.2.2).length := by
  rw [places, List.length_flatMap, List.length_flatMap]
  exact congrArg List.sum (List.map_congr_left fun _ _ => List.length_mapIdx)

theorem leads_places (h : ((places tables).map (·.id)).Nodup) :
    Leads tables (size ⟨places tables⟩) (find? ⟨places tables⟩) where
  size := length_places tables
  find?_iff id key i := by
    constructor
    · intro hfind
      obtain ⟨r, hr, hplace⟩ := Option.map_eq_some_iff.mp hfind
      obtain ⟨ds, htable, d, hd, hid⟩ := mem_places.mp (List.mem_of_find?_eq_some hr)
      have hrid : r.id = id := by simpa using List.find?_some hr
      cases hplace
      exact ⟨r.group, ds, htable, d, hd, hid.trans hrid⟩
    · rintro ⟨group, ds, htable, d, hd, rfl⟩
      have hmem : (⟨d.id, key, group, i⟩ : Route K) ∈ places tables :=
        mem_places.mpr ⟨ds, htable, d, hd, rfl⟩
      exact find?_of_mem h hmem
  unclaimed id := by
    rw [find?, Option.map_eq_none_iff, List.find?_eq_none, claims_eq_map]
    constructor
    · intro hnone group hmem
      obtain ⟨r, hr, hclaim⟩ := List.mem_map.mp hmem
      cases hclaim
      exact hnone r hr (decide_eq_true rfl)
    · intro hfree r hr hid
      obtain rfl : r.id = id := of_decide_eq_true hid
      exact hfree r.group (List.mem_map.mpr ⟨r, hr, rfl⟩)

/-- A list in which something is repeated has a first repetition. -/
theorem exists_firstRepeat {claims : List (MetricId × String)} (h : ¬ (claims.map (·.1)).Nodup) :
    ∃ id first second, FirstRepeat claims id first second := by
  induction claims using List.reverseRecOn with
  | nil => exact absurd List.nodup_nil h
  | append_singleton claims c ih =>
    -- Either all before the last claim differ and it repeats one, or one before it repeats.
    by_cases hnodup : (claims.map (·.1)).Nodup
    · have hmem : c.1 ∈ claims.map (·.1) := by
        by_contra hnew
        refine h ?_
        rw [List.map_append, List.nodup_append]
        refine ⟨hnodup, List.nodup_singleton _, fun x hx y hy hxy => hnew ?_⟩
        have hy : y = c.1 := List.mem_singleton.mp hy
        rwa [← hy, ← hxy]
      obtain ⟨⟨id, first⟩, hfirst, hid⟩ := List.mem_map.mp hmem
      obtain ⟨i, hi⟩ := List.mem_iff_getElem?.mp hfirst
      obtain ⟨hlt, -⟩ := List.getElem?_eq_some_iff.mp hi
      refine ⟨id, first, c.2, i, claims.length, hlt, ?_, ?_, ?_⟩
      · rw [List.getElem?_append_left hlt, hi]
      · rw [List.getElem?_concat_length, show id = c.1 from hid]
      · rwa [List.take_left]
    · obtain ⟨id, first, second, i, j, hij, hi, hj, hbefore⟩ := ih hnodup
      obtain ⟨hlt, -⟩ := List.getElem?_eq_some_iff.mp hj
      refine ⟨id, first, second, i, j, hij, ?_, ?_, ?_⟩
      · rw [List.getElem?_append_left (Nat.lt_trans hij hlt), hi]
      · rw [List.getElem?_append_left hlt, hj]
      · rwa [List.take_append_of_le_length (Nat.le_of_lt hlt)]

/-- The places before the first repetition are taken, and the repetition is refused. -/
theorem build_error {first second : String} (h : FirstRepeat (claims tables) id first second) :
    build tables = .error (.duplicateIdentifier id first second) := by
  obtain ⟨i, j, hij, hi, hj, hbefore⟩ := h
  simp only [claims_eq_map, List.getElem?_map, Option.map_eq_some_iff, Prod.mk.injEq] at hi hj
  obtain ⟨r, hr, hid, hfirst⟩ := hi
  obtain ⟨q, hq, hid', hsecond⟩ := hj
  subst hid' hfirst hsecond
  have hnodup : (((places tables).take j).map (·.id)).Nodup := by
    rwa [List.map_take, ← map_id_claims, ← List.map_take]
  have hmem : r ∈ (places tables).take j :=
    List.mem_iff_getElem?.mpr ⟨i, by rw [List.getElem?_take_of_lt hij, hr]⟩
  have hknown : ((places tables).take j).find? (·.id = q.id) = some r := by
    rw [← hid]
    exact find?_eq_self hnodup hmem
  obtain ⟨hlt, hget⟩ := List.getElem?_eq_some_iff.mp hq
  -- The places before `q` are taken one by one, and none behind it is looked at.
  have hsplit : places tables = (places tables).take j ++ q :: (places tables).drop (j + 1) := by
    rw [← hget, List.getElem_cons_drop, List.take_append_drop]
  have hinsert : insert ((places tables).take j) q =
      .error (.duplicateIdentifier q.id r.group q.group) := by
    rw [insert, hknown]
  have htaken : ((places tables).take j).foldlM insert [] = .ok ((places tables).take j) :=
    foldlM_insert hnodup
  rw [build, hsplit, List.foldlM_append, htaken]
  show (insert ((places tables).take j) q >>= _).map _ = _
  rw [hinsert]
  rfl

theorem build_cases (tables : List (K × String × List Descriptor)) :
    (((claims tables).map (·.1)).Nodup ∧ build tables = .ok ⟨places tables⟩) ∨
      (¬ ((claims tables).map (·.1)).Nodup ∧ ∃ id first second,
        FirstRepeat (claims tables) id first second ∧
          build tables = .error (.duplicateIdentifier id first second)) := by
  by_cases h : ((claims tables).map (·.1)).Nodup
  · exact Or.inl ⟨h, build_ok (map_id_claims tables ▸ h)⟩
  · obtain ⟨id, first, second, hrepeat⟩ := exists_firstRepeat h
    exact Or.inr ⟨h, id, first, second, hrepeat, build_error hrepeat⟩

end Routes

namespace RouteTables

variable {K : Type} {t : RouteTables K} {known : List (Route K)}

/-- Both tables hold what the list of the places taken so far holds. -/
structure Mirrors (t : RouteTables K) (known : List (Route K)) : Prop where
  places : ∀ id : MetricId, t.places[id]? = (known.find? (·.id = id)).map fun r =>
    (r.key, r.index)
  owners : ∀ id : MetricId, t.owners[id]? = (known.find? (·.id = id)).map (·.group)
  size : t.places.size = known.length

theorem mirrors_empty : Mirrors ({} : RouteTables K) [] :=
  ⟨fun id => by simp, fun id => by simp, rfl⟩

/-- What was not there before is found behind the rest. -/
theorem find?_concat {B : Type} (f : Route K → B) {r : Route K}
    (hnew : known.find? (·.id = r.id) = none) (id : MetricId) :
    ((known ++ [r]).find? (·.id = id)).map f =
      if r.id = id then some (f r) else (known.find? (·.id = id)).map f := by
  rw [List.find?_append]
  by_cases hid : r.id = id
  · subst hid
    simp [hnew]
  · simp [hid]

/-- An identifier is claimed with the outcome it has on the list, cause included. -/
theorem Mirrors.claim (h : Mirrors t known) (key : K) (group : String)
    (metric : Descriptor × Nat) :
    SameOutcome Mirrors (t.claim key group metric)
      (Routes.insert known ⟨metric.1.id, key, group, metric.2⟩) := by
  obtain ⟨d, i⟩ := metric
  unfold RouteTables.claim Routes.insert
  dsimp only
  rw [h.owners]
  cases hfind : known.find? (·.id = d.id) with
  | some r => exact .error _
  | none =>
    have hplaces : t.places[d.id]? = none := by rw [h.places, hfind, Option.map_none]
    have hnew : d.id ∉ t.places := by simpa using hplaces
    refine .ok ⟨fun id => ?_, fun id => ?_, ?_⟩
    · rw [find?_concat (r := ⟨d.id, key, group, i⟩) _ hfind, ← h.places,
        Std.HashMap.getElem?_insert]
      simp
    · rw [find?_concat (r := ⟨d.id, key, group, i⟩) _ hfind, ← h.owners,
        Std.HashMap.getElem?_insert]
      simp
    · rw [Std.HashMap.size_insert, if_neg hnew, h.size, List.length_append, List.length_singleton]

theorem build_sameOutcome (tables : List (K × String × List Descriptor)) :
    SameOutcome Mirrors (build tables) ((Routes.places tables).foldlM Routes.insert []) := by
  rw [Routes.places, foldlM_flatMap]
  refine foldlM_sameOutcome mirrors_empty fun table _ t known h => ?_
  obtain ⟨key, group, ds⟩ := table
  show SameOutcome Mirrors (ds.zipIdx.foldlM (RouteTables.claim key group) t)
    ((ds.mapIdx fun i d => (⟨d.id, key, group, i⟩ : Route K)).foldlM Routes.insert known)
  rw [List.mapIdx_eq_zipIdx_map, List.foldlM_map]
  exact foldlM_sameOutcome h fun metric _ t known h => h.claim key group metric

/-- The tables refuse what the list refuses, and find what it finds. -/
theorem build_eq (tables : List (K × String × List Descriptor)) :
    (build tables).map (fun t => (t.size, t.find?)) =
      (Routes.build tables).map fun r => (r.size, r.find?) := by
  have hview : ∀ (t : RouteTables K) known, Mirrors t known →
      (t.size, t.find?) = (Routes.size ⟨known⟩, Routes.find? ⟨known⟩) := fun t known h =>
    Prod.ext h.size (funext h.places)
  rw [(build_sameOutcome tables).map_eq hview, Routes.build]
  cases (Routes.places tables).foldlM Routes.insert [] <;> rfl

end RouteTables

namespace Routes

variable {K : Type}

/-- Whatever tables are given, routes are built exactly where no identifier is claimed twice, within
a table or across tables, and then lead to every metric and to nothing else. Otherwise the cause is
the first repetition. Tables filled side by side have the same outcome. -/
theorem build_by_claims (tables : List (K × String × List Descriptor)) :
    ((∃ r, build tables = .ok r) ↔ ((claims tables).map (·.1)).Nodup) ∧
      (∀ r, build tables = .ok r → Leads tables r.size r.find?) ∧
      (∀ id first second, build tables = .error (.duplicateIdentifier id first second) ↔
        FirstRepeat (claims tables) id first second) ∧
      (RouteTables.build tables).map (fun t => (t.size, t.find?)) =
        (build tables).map fun r => (r.size, r.find?) := by
  rcases build_cases tables with ⟨hnodup, hbuild⟩
    | ⟨hnodup, id, first, second, hrepeat, hbuild⟩
  · refine ⟨⟨fun _ => hnodup, fun _ => ⟨_, hbuild⟩⟩, fun r hr => ?_,
      fun id first second => ?_, RouteTables.build_eq tables⟩
    · obtain rfl := Except.ok.inj (hbuild.symm.trans hr)
      exact leads_places (map_id_claims tables ▸ hnodup)
    · refine ⟨fun h => ?_, fun h => build_error h⟩
      cases hbuild.symm.trans h
  · refine ⟨⟨fun ⟨r, hr⟩ => ?_, fun h => absurd h hnodup⟩, fun r hr => ?_,
      fun id' first' second' => ⟨fun h => ?_, fun h => build_error h⟩,
      RouteTables.build_eq tables⟩
    · cases hbuild.symm.trans hr
    · cases hbuild.symm.trans hr
    · cases hbuild.symm.trans h
      exact hrepeat

/-- Two tables of one key and one group, with a table without metrics between them, and a table that
repeats an identifier of the first. -/
theorem shared_key_leads :
    let metric (item : UInt32) : Descriptor :=
      ⟨.pack 60 0 item, "kernel.all.cpu", .u64, .counter, none, .none⟩
    let tables := [(0, "cpu", [metric 20, metric 21]), (1, "io", []), (0, "cpu", [metric 22])]
    (∃ r, build tables = .ok r ∧ Leads tables r.size r.find?) ∧
      build (tables ++ [(2, "irq", [metric 23, metric 21])]) =
        .error (.duplicateIdentifier (.pack 60 0 21) "cpu" "irq") := by
  intro metric tables
  obtain ⟨r, hr⟩ := (build_by_claims tables).1.mpr (by decide)
  have hrepeat : FirstRepeat (claims (tables ++ [(2, "irq", [metric 23, metric 21])]))
      (.pack 60 0 21) "cpu" "irq" := ⟨1, 4, by decide, by decide, by decide, by decide⟩
  exact ⟨⟨r, hr, (build_by_claims tables).2.1 r hr⟩,
    ((build_by_claims _).2.2.1 _ _ _).mpr hrepeat⟩

end Routes

end ActivityArchive
