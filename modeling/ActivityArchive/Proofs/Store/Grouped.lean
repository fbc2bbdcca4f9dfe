import ActivityArchive.Proofs.Store.Gathering
import Mathlib.Data.List.Induction
import Mathlib.Data.List.Nodup

/-!
What gathering does to any entries: each identifier gets one set, which holds its readings in the
order of the entries, and the sets stand in the order of their first entries.
-/
namespace ActivityArchive.Store

structure Grouped (xs : List (MetricId × Reading)) (sets : List ValueSet) : Prop where
  distinct : (sets.map (·.id)).Nodup
  listed : ∀ id, id ∈ sets.map (·.id) ↔ id ∈ xs.map (·.1)
  readings : ∀ set ∈ sets, set.readings = (xs.filter (·.1 = set.id)).map (·.2)
  ordered : (sets.map (·.id)).Pairwise fun a b => (xs.map (·.1)).idxOf a < (xs.map (·.1)).idxOf b

variable {xs : List (MetricId × Reading)} {x : MetricId × Reading} {sets pre post : List ValueSet}
  {id : MetricId}

theorem gather_append_singleton : gather (xs ++ [x]) = collect (gather xs) x.1 x.2 :=
  collectAll_append [] xs [x]

theorem filter_append_of_ne (h : id ≠ x.1) :
    (xs ++ [x]).filter (·.1 = id) = xs.filter (·.1 = id) := by
  simp [List.filter_append, Ne.symm h]

theorem filter_append_of_eq (h : id = x.1) :
    (xs ++ [x]).filter (·.1 = id) = xs.filter (·.1 = id) ++ [x] := by
  simp [List.filter_append, h]

/-- First entries stay where they are when one more entry comes. -/
theorem Grouped.ordered_append (h : Grouped xs sets) :
    (sets.map (·.id)).Pairwise fun a b =>
      ((xs ++ [x]).map (·.1)).idxOf a < ((xs ++ [x]).map (·.1)).idxOf b := by
  refine h.ordered.imp_of_mem ?_
  intro a b ha hb hab
  rw [List.map_append, List.idxOf_append_of_mem ((h.listed a).mp ha),
    List.idxOf_append_of_mem ((h.listed b).mp hb)]
  exact hab

theorem Grouped.fresh (h : Grouped xs sets) (hx : x.1 ∉ sets.map (·.id)) :
    Grouped (xs ++ [x]) (sets ++ [⟨x.1, [x.2]⟩]) := by
  have hout : x.1 ∉ xs.map (·.1) := fun hm => hx ((h.listed x.1).mpr hm)
  have hids : (sets ++ [ValueSet.mk x.1 [x.2]]).map (·.id) = sets.map (·.id) ++ [x.1] :=
    List.map_append
  refine ⟨?_, ?_, ?_, ?_⟩
  · rw [hids]
    exact h.distinct.append (List.nodup_singleton _) (by simpa using hx)
  · intro id
    rw [hids, List.map_append, List.mem_append, List.mem_append, h.listed id]
    rfl
  · intro set hset
    rcases List.mem_append.mp hset with hset | hset
    · have hne : set.id ≠ x.1 := fun he => hx (he ▸ List.mem_map_of_mem hset)
      rw [filter_append_of_ne hne]
      exact h.readings set hset
    · rw [List.mem_singleton.mp hset]
      have hnone : xs.filter (·.1 = x.1) = [] := by
        refine List.filter_eq_nil_iff.mpr fun y hy => ?_
        have hne : y.1 ≠ x.1 := fun he => hout (he ▸ List.mem_map_of_mem hy)
        simpa using hne
      rw [filter_append_of_eq rfl, hnone]
      rfl
  · rw [hids, List.pairwise_append]
    refine ⟨h.ordered_append, List.pairwise_singleton _ _, ?_⟩
    intro a ha b hb
    rw [List.mem_singleton.mp hb, List.map_append, List.idxOf_append_of_mem ((h.listed a).mp ha),
      List.idxOf_append_of_notMem hout]
    exact Nat.lt_add_right _ (List.idxOf_lt_length_of_mem ((h.listed a).mp ha))

theorem Grouped.known {rs : List Reading} (h : Grouped xs (pre ++ ⟨x.1, rs⟩ :: post)) :
    Grouped (xs ++ [x]) (pre ++ ⟨x.1, rs ++ [x.2]⟩ :: post) := by
  have hids : (pre ++ ⟨x.1, rs ++ [x.2]⟩ :: post).map ValueSet.id =
      (pre ++ ⟨x.1, rs⟩ :: post).map ValueSet.id := by simp
  have hother : ∀ set ∈ pre ++ post, set.id ≠ x.1 := by
    have hnd : (x.1 :: (pre ++ post).map ValueSet.id).Nodup := by
      refine (List.Perm.nodup_iff ?_).mp h.distinct
      rw [List.map_append, List.map_append, List.map_cons]
      exact List.perm_middle
    intro set hset he
    exact (List.nodup_cons.mp hnd).1 (he ▸ List.mem_map_of_mem hset)
  have hself : rs = (xs.filter (·.1 = x.1)).map (·.2) := h.readings ⟨x.1, rs⟩ (by simp)
  refine ⟨?_, ?_, ?_, ?_⟩
  · rw [hids]
    exact h.distinct
  · intro id
    have hin : x.1 ∈ xs.map (·.1) := (h.listed x.1).mp (by simp)
    rw [hids, h.listed id, List.map_append, List.mem_append]
    refine ⟨Or.inl, fun hid => hid.elim (fun hid => hid) fun he => ?_⟩
    rw [List.mem_singleton.mp he]
    exact hin
  · intro set hset
    rcases List.mem_append.mp hset with hset | hset
    · rw [filter_append_of_ne (hother set (List.mem_append_left _ hset))]
      exact h.readings set (List.mem_append_left _ hset)
    · rcases List.mem_cons.mp hset with rfl | hset
      · rw [filter_append_of_eq rfl, List.map_append, ← hself]
        rfl
      · rw [filter_append_of_ne (hother set (List.mem_append_right _ hset))]
        exact h.readings set (List.mem_append_right _ (List.mem_cons_of_mem _ hset))
  · rw [hids]
    exact h.ordered_append

theorem grouped_gather (xs : List (MetricId × Reading)) : Grouped xs (gather xs) := by
  induction xs using List.reverseRecOn with
  | nil => exact ⟨List.nodup_nil, fun _ => Iff.rfl, by simp [gather, collectAll],
      List.Pairwise.nil⟩
  | append_singleton xs x ih =>
    rw [gather_append_singleton]
    by_cases hx : x.1 ∈ (gather xs).map (·.id)
    · obtain ⟨⟨id, rs⟩, hset, hid⟩ := List.mem_map.mp hx
      obtain rfl : id = x.1 := hid
      obtain ⟨pre, post, hsplit⟩ := List.append_of_mem hset
      rw [hsplit] at ih ⊢
      have hpre : ∀ set ∈ pre, set.id ≠ x.1 := by
        intro set hset he
        have hnd := ih.distinct
        rw [List.map_append, List.nodup_append] at hnd
        exact hnd.2.2 _ (List.mem_map_of_mem hset) _ (by simp) he
      rw [collect_known hpre]
      exact ih.known
    · have hfresh : ∀ set ∈ gather xs, set.id ≠ x.1 := fun set hset he =>
        hx (he ▸ List.mem_map_of_mem hset)
      rw [collect_fresh hfresh]
      exact ih.fresh hx

theorem Grouped.mem_readings (h : Grouped xs sets) {set : ValueSet} (hset : set ∈ sets)
    {r : Reading} :
    r ∈ set.readings ↔ (set.id, r) ∈ xs := by
  rw [h.readings set hset, List.mem_map]
  constructor
  · rintro ⟨⟨id, r⟩, hx, rfl⟩
    obtain ⟨hx, hid⟩ := List.mem_filter.mp hx
    exact of_decide_eq_true hid ▸ hx
  · exact fun hx => ⟨_, List.mem_filter.mpr ⟨hx, decide_eq_true rfl⟩, rfl⟩

/-- Every entry is in the set of its identifier. -/
theorem Grouped.exists_set (h : Grouped xs sets) (hx : x ∈ xs) :
    ∃ set ∈ sets, set.id = x.1 ∧ x.2 ∈ set.readings := by
  obtain ⟨set, hset, hid⟩ := List.mem_map.mp ((h.listed x.1).mpr (List.mem_map_of_mem hx))
  exact ⟨set, hset, hid, (h.mem_readings hset).mpr (by rw [hid]; exact hx)⟩

theorem collect_append (h : ∀ set ∈ pre, set.id ≠ id) (r : Reading) :
    collect (pre ++ sets) id r = pre ++ collect sets id r := by
  induction pre with
  | nil => rfl
  | cons set pre ih =>
    have hset := h set List.mem_cons_self
    rw [List.cons_append, collect, if_neg hset, ih fun x hx => h x (List.mem_cons_of_mem set hx),
      List.cons_append]

theorem collectAll_after {ys : List (MetricId × Reading)}
    (h : ∀ set ∈ pre, ∀ y ∈ ys, set.id ≠ y.1) :
    collectAll (pre ++ sets) ys = pre ++ collectAll sets ys := by
  induction ys generalizing sets with
  | nil => rfl
  | cons y ys ih =>
    have hy : ∀ set ∈ pre, set.id ≠ y.1 := fun set hset => h set hset y List.mem_cons_self
    show collectAll (collect (pre ++ sets) y.1 y.2) ys = _
    rw [collect_append hy]
    exact ih fun set hset z hz => h set hset z (List.mem_cons_of_mem y hz)

/-- Entries of other metrics get sets of their own. -/
theorem gather_append {ys : List (MetricId × Reading)}
    (h : ∀ x ∈ xs, ∀ y ∈ ys, x.1 ≠ y.1) :
    gather (xs ++ ys) = gather xs ++ gather ys := by
  have hids : ∀ set ∈ gather xs, ∀ y ∈ ys, set.id ≠ y.1 := by
    intro set hset y hy
    obtain ⟨x, hx, hid⟩ := List.mem_map.mp
      (((grouped_gather xs).listed set.id).mp (List.mem_map_of_mem hset))
    exact hid ▸ h x hx y hy
  have hall : collectAll (gather xs ++ []) ys = gather xs ++ collectAll [] ys :=
    collectAll_after hids
  rw [List.append_nil] at hall
  rw [gather, collectAll_append]
  exact hall

end ActivityArchive.Store
