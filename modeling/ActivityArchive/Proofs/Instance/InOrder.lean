import ActivityArchive.Proofs.Instance.Rules
import ActivityArchive.Proofs.Positions

/-!
Domains that number their labels in the order in which they come. Where every request leaves the
number open, a registry holds the labels asked for under the numbers from zero on, each label in the
place in which it came first (`InOrder`). A registry never loses an entry, and its entries never
change places (`Extends`).
-/
namespace ActivityArchive

namespace Domain

/-- The domains in which no instance is ever asked for under a number. -/
def ordered : List DomainId := [disk, interface, filesystem, fcHost, interrupt, perCpuInterrupt]

theorem ordered_free {d : DomainId} (hd : d ∈ ordered) : d ∉ Numbering.ruled := by
  simp only [ordered, List.mem_cons, List.not_mem_nil, or_false] at hd
  rcases hd with rfl | rfl | rfl | rfl | rfl | rfl <;> decide

end Domain

namespace Registry

variable {r r' r'' : Registry} {d d' : DomainId} {l : String} {num : Option Int}
  {labels : List String}
  {qs : List Request}

/-- Labels under the numbers from zero on. -/
def numbered (labels : List String) : List Entry := labels.mapIdx fun i l => ((i : Int), l)

theorem numbered_concat (labels : List String) (l : String) :
    numbered (labels ++ [l]) = numbered labels ++ [((labels.length : Int), l)] :=
  List.mapIdx_concat

theorem map_numbered (labels : List String) : (numbered labels).map (·.2) = labels :=
  List.ext_getElem (by simp [numbered]) fun i hi _ => by simp [numbered]

theorem next_of_numbered (h : r.entries d = numbered labels) : r.next d = labels.length := by
  refine Int.le_antisymm (next_le (by omega) fun e he => ?_) ?_
  · rw [h] at he
    obtain ⟨i, hi, rfl⟩ := List.mem_mapIdx.mp he
    exact Int.ofNat_lt.mpr hi
  · rcases List.eq_nil_or_concat labels with rfl | ⟨before, last, rfl⟩
    · have hnil : r.entries d = [] := h
      simp [next, hnil]
    · have hlast : ((before.length : Int), last) ∈ r.entries d := by
        rw [h, List.concat_eq_append, numbered_concat]
        exact List.mem_append_right _ (List.mem_singleton.mpr rfl)
      have hlt := lt_next hlast
      simp only [List.concat_eq_append, List.length_append, List.length_singleton]
      omega

/-- The label that a request names in a domain. -/
def named? (d : DomainId) (q : Request) : Option String := if q.1 = d then some q.2.1 else none

/-- The labels that requests name in a domain, each in the place in which it comes first. -/
def firstCome (qs : List Request) (d : DomainId) : List String :=
  (qs.filterMap (named? d)).eraseDups

theorem firstCome_of_ne (hd : d' ≠ d) : firstCome (qs ++ [(d', l, num)]) d = firstCome qs d := by
  simp [firstCome, named?, hd]

theorem filterMap_named_concat (qs : List Request) (d : DomainId) (l : String) (num : Option Int) :
    (qs ++ [(d, l, num)]).filterMap (named? d) = qs.filterMap (named? d) ++ [l] := by
  simp [named?]

theorem firstCome_known (hl : l ∈ firstCome qs d) :
    firstCome (qs ++ [(d, l, num)]) d = firstCome qs d := by
  rw [firstCome, List.mem_eraseDups] at hl
  rw [firstCome, filterMap_named_concat, eraseDups_concat, if_pos hl, firstCome]

theorem firstCome_new (hl : l ∉ firstCome qs d) :
    firstCome (qs ++ [(d, l, num)]) d = firstCome qs d ++ [l] := by
  rw [firstCome, List.mem_eraseDups] at hl
  rw [firstCome, filterMap_named_concat, eraseDups_concat, if_neg hl, firstCome]

/-- The entries of every domain are the first ones of what they become. -/
def Extends (r r' : Registry) : Prop := ∀ d, r.entries d <+: r'.entries d

theorem Extends.refl (r : Registry) : Extends r r := fun _ => List.prefix_refl _

theorem Extends.trans (h : Extends r r') (h' : Extends r' r'') : Extends r r'' :=
  fun d => (h d).trans (h' d)

theorem extends_insert (r : Registry) (d : DomainId) (e : Entry) : Extends r (r.insert d e) := by
  intro d'
  rw [entries_insert]
  split
  · rename_i hd
    exact hd ▸ List.prefix_append _ _
  · exact List.prefix_refl _

theorem Extends.number? (h : Extends r r') {n : Int} (hn : r.number? d l = some n) :
    r'.number? d l = some n := by
  obtain ⟨rest, hrest⟩ := h d
  rw [Registry.number?] at hn ⊢
  rw [← hrest, List.find?_append]
  obtain ⟨e, he, rfl⟩ := Option.map_eq_some_iff.mp hn
  rw [he]
  rfl

/-- Every ordered domain holds the labels that were asked for, numbered in the order of the first
requests for them. -/
def InOrder (qs : List Request) (r : Registry) : Prop :=
  ∀ d ∈ Domain.ordered, r.entries d = numbered (firstCome qs d)

theorem inOrder_empty : InOrder [] empty := fun _ _ => rfl

theorem InOrder.mem_firstCome (h : InOrder qs r) (hd : d ∈ Domain.ordered) :
    l ∈ firstCome qs d ↔ ∃ n, (n, l) ∈ r.entries d := by
  rw [← map_numbered (firstCome qs d), ← h d hd, List.mem_map]
  constructor
  · rintro ⟨⟨n, _⟩, he, rfl⟩
    exact ⟨n, he⟩
  · rintro ⟨n, he⟩
    exact ⟨(n, l), he, rfl⟩

end Registry

end ActivityArchive
