import ActivityArchive.Group.All
import ActivityArchive.Proofs.Catalog.Handles
import Mathlib.Data.List.Nodup

/-!
The metrics of all groups. No identifier stands for two metrics, so that every session has routes,
and they lead from a metric to its group and its index there.
-/
namespace ActivityArchive

namespace Routes

variable {K : Type} {rs known : List (Route K)}

theorem foldlM_insert (h : ((known ++ rs).map (·.id)).Nodup) :
    rs.foldlM insert known = .ok (known ++ rs) := by
  induction rs generalizing known with
  | nil => simp [pure, Except.pure]
  | cons r rs ih =>
    have hfind : known.find? (·.id = r.id) = none := by
      rw [List.find?_eq_none]
      intro r' hr' hid
      rw [List.map_append, List.nodup_append] at h
      exact h.2.2 _ (List.mem_map_of_mem hr') r.id (by simp) (by simpa using hid)
    have hcons : known ++ r :: rs = (known ++ [r]) ++ rs := by simp
    rw [List.foldlM_cons, insert, hfind, hcons]
    exact ih (hcons ▸ h)

theorem build_ok {tables : List (K × String × List Descriptor)}
    (h : ((places tables).map (·.id)).Nodup) : build tables = .ok ⟨places tables⟩ := by
  rw [build, foldlM_insert h]
  rfl

/-- Where identifiers differ, a route is the first one with its identifier. -/
theorem find?_eq_self {r : Route K} (h : (rs.map (·.id)).Nodup) (hr : r ∈ rs) :
    rs.find? (·.id = r.id) = some r := by
  induction rs with
  | nil => simp at hr
  | cons x rs ih =>
    rw [List.map_cons, List.nodup_cons] at h
    rcases List.mem_cons.mp hr with rfl | hr'
    · simp
    · have hne : x.id ≠ r.id := fun hid => h.1 (hid ▸ List.mem_map_of_mem hr')
      rw [List.find?_cons_of_neg (by simpa using hne)]
      exact ih h.2 hr'

theorem find?_of_mem {r : Route K} (h : (rs.map (·.id)).Nodup) (hr : r ∈ rs) :
    (⟨rs⟩ : Routes K).find? r.id = some (r.key, r.index) := by
  simp [find?, find?_eq_self h hr]

end Routes

namespace Group

/-- The metrics of all groups, in order. -/
def metricsOfAll : List Descriptor := all.flatMap metrics

theorem mem_all (g : Group) : g ∈ all := by cases g <;> decide

theorem nodup_all : all.Nodup := by decide

def distinct : List Nat → Bool
  | [] => true
  | x :: xs => xs.all (fun y => !Nat.beq x y) && distinct xs

theorem nodup_of_distinct {xs : List Nat} (h : distinct xs = true) : xs.Nodup := by
  induction xs with
  | nil => exact List.nodup_nil
  | cons x xs ih =>
    rw [distinct, Bool.and_eq_true, List.all_eq_true] at h
    refine List.nodup_cons.mpr ⟨fun hx => ?_, ih h.2⟩
    have := h.1 x hx
    simp at this

theorem distinct_ids : distinct (metricsOfAll.map (·.id.raw.toNat)) = true := by
  decide +kernel

theorem nodup_ids : (metricsOfAll.map (·.id)).Nodup := by
  have h : ((metricsOfAll.map (·.id)).map fun id : MetricId => id.raw.toNat).Nodup := by
    rw [List.map_map]
    exact nodup_of_distinct distinct_ids
  exact h.of_map

theorem mem_metricsOfAll {g : Group} {m : Descriptor} (h : m ∈ g.metrics) : m ∈ metricsOfAll :=
  List.mem_flatMap.mpr ⟨g, mem_all g, h⟩

theorem identified_metricsOfAll : Identified metricsOfAll := fun _ hm _ hm' hid =>
  List.inj_on_of_nodup_map nodup_ids hm hm' hid

/-- Every place of a metric, in order. -/
def places : List (Route Group) := Routes.places (all.map fun g => (g, g.name, g.metrics))

theorem map_id_places : places.map (·.id) = metricsOfAll.map (·.id) := by
  have hids : ∀ g : Group,
    (g.metrics.mapIdx fun i d => (⟨d.id, g, g.name, i⟩ : Route Group)).map
      (·.id) = g.metrics.map (·.id) := by
    intro g
    rw [List.mapIdx_eq_zipIdx_map, List.map_map]
    exact (List.map_map (f := (·.1)) (g := (·.id)) (l := g.metrics.zipIdx)).symm.trans
      (by rw [List.zipIdx_map_fst])
  rw [places, Routes.places, List.flatMap_map, List.map_flatMap, metricsOfAll, List.map_flatMap]
  exact congrArg (all.flatMap ·) (funext hids)

theorem nodup_places : (places.map (·.id)).Nodup := by
  rw [map_id_places]
  exact nodup_ids

theorem routes_ok : routes = .ok ⟨places⟩ := by
  rw [routes]
  exact Routes.build_ok nodup_places

theorem find?_metric {g : Group} {idx : Nat} {m : Descriptor} (h : g.metrics[idx]? = some m) :
    (⟨places⟩ : Routes Group).find? m.id = some (g, idx) := by
  have hmem : (⟨m.id, g, g.name, idx⟩ : Route Group) ∈ places := by
    refine List.mem_flatMap.mpr ⟨(g, g.name, g.metrics), List.mem_map_of_mem (mem_all g), ?_⟩
    obtain ⟨hlt, hget⟩ := List.getElem?_eq_some_iff.mp h
    exact List.mem_mapIdx.mpr ⟨idx, hlt, by rw [hget]⟩
  exact Routes.find?_of_mem nodup_places hmem

/-- Where a metric is found, it is. -/
theorem metric_of_find? {id : MetricId} {g : Group} {idx : Nat}
    (h : (⟨places⟩ : Routes Group).find? id = some (g, idx)) :
    ∃ m, g.metrics[idx]? = some m ∧ m.id = id := by
  obtain ⟨r, hr, hplace⟩ := Option.map_eq_some_iff.mp h
  have hid := List.find?_some hr
  obtain ⟨table, htable, hmem⟩ := List.mem_flatMap.mp (List.mem_of_find?_eq_some hr)
  obtain ⟨g', -, rfl⟩ := List.mem_map.mp htable
  obtain ⟨i, hi, rfl⟩ := List.mem_mapIdx.mp hmem
  cases hplace
  exact ⟨g'.metrics[i], List.getElem?_eq_getElem hi, of_decide_eq_true hid⟩

end Group

end ActivityArchive
