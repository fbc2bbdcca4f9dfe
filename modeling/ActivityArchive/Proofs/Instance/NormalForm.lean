import ActivityArchive.Proofs.Instance.Loading
import ActivityArchive.Proofs.Positions
import Mathlib.Data.List.Induction

/-!
Registries of arbitrary lists of instances. An instance is refused exactly where one before it has
its number under another label or its label under another number, so a list is taken if no two of
its instances do that to each other, wherever they stand (`Collects.load_cases`). What it is taken
as is the list in order: nothing twice, and one domain after the other (`regrouped`); a list in
order is taken as it is.
-/
namespace ActivityArchive

namespace Registry

variable {r : Registry} {is : List Instance} {i : Instance} {d : DomainId}

/-- Two instances of one domain have the same number exactly if they have the same label. -/
def Agree (i j : Instance) : Prop :=
  i.domain = j.domain → (i.number = j.number ↔ i.label = j.label)

def Unambiguous (is : List Instance) : Prop := ∀ i ∈ is, ∀ j ∈ is, Agree i j

instance : DecidableRel Agree := fun i j =>
  inferInstanceAs (Decidable (i.domain = j.domain → (i.number = j.number ↔ i.label = j.label)))

instance : DecidablePred Unambiguous := fun is =>
  inferInstanceAs (Decidable (∀ i ∈ is, ∀ j ∈ is, Agree i j))

/-- The domains in the order in which they come first, each with its instances in the order in which
they come first. -/
def regrouped (is : List Instance) : List Instance :=
  (is.map (·.domain)).eraseDups.flatMap fun d => is.eraseDups.filter (·.domain = d)

theorem Agree.symm {i j : Instance} (h : Agree i j) : Agree j i := fun hd =>
  ⟨fun hn => ((h hd.symm).mp hn.symm).symm, fun hl => ((h hd.symm).mpr hl.symm).symm⟩

theorem unambiguous_concat (is : List Instance) (i : Instance) :
    Unambiguous (is ++ [i]) ↔ Unambiguous is ∧ ∀ j ∈ is, Agree j i := by
  constructor
  · intro h
    have hlast : i ∈ is ++ [i] := List.mem_append_right is (List.mem_singleton.mpr rfl)
    exact ⟨fun j hj k hk => h j (List.mem_append_left _ hj) k (List.mem_append_left _ hk),
      fun j hj => h j (List.mem_append_left _ hj) i hlast⟩
  · rintro ⟨h, hi⟩ j hj k hk
    rcases List.mem_append.mp hj with hj | hj <;> rcases List.mem_append.mp hk with hk | hk
    · exact h j hj k hk
    · exact List.mem_singleton.mp hk ▸ hi j hj
    · exact List.mem_singleton.mp hj ▸ (hi k hk).symm
    · rw [List.mem_singleton.mp hj, List.mem_singleton.mp hk]
      exact fun _ => ⟨fun _ => rfl, fun _ => rfl⟩

/-- A registry that holds the instances of a list in order. -/
structure Collects (r : Registry) (is : List Instance) : Prop where
  tidy : r.Tidy
  inUse : r.inUse = (is.map (·.domain)).eraseDups
  inDomain : ∀ d, listed d (r.entries d) = is.eraseDups.filter (·.domain = d)

theorem collects_empty : Collects empty [] := ⟨tidy_empty, rfl, fun _ => rfl⟩

theorem Collects.toList_eq (h : Collects r is) : r.toList = regrouped is := by
  rw [h.tidy.toList_eq, h.inUse, regrouped]
  exact List.flatMap_congr fun d _ => h.inDomain d

theorem mem_listed {es : List Entry} :
    i ∈ listed d es ↔ i.domain = d ∧ (i.number, i.label) ∈ es := by
  constructor
  · intro hi
    obtain ⟨e, he, rfl⟩ := List.mem_map.mp hi
    exact ⟨rfl, he⟩
  · rintro ⟨rfl, hi⟩
    exact List.mem_map.mpr ⟨_, hi, rfl⟩

theorem Collects.mem_iff (h : Collects r is) :
    i ∈ is ↔ (i.number, i.label) ∈ r.entries i.domain := by
  have hfilter : i ∈ is ↔ i ∈ listed i.domain (r.entries i.domain) := by
    rw [h.inDomain, List.mem_filter, List.mem_eraseDups]
    simp
  rw [hfilter, mem_listed]
  exact and_iff_right rfl

/-- An instance fits among the known ones exactly if it agrees with all that came. -/
theorem Collects.fits_iff (h : Collects r is) :
    r.Fits i.domain i.number i.label ↔ ∀ j ∈ is, Agree j i := by
  constructor
  · intro hfits j hj hd
    exact hfits (j.number, j.label) (hd ▸ h.mem_iff.mp hj)
  · intro hagree e he
    have hmem : (⟨i.domain, e.1, e.2⟩ : Instance) ∈ is := h.mem_iff.mpr he
    exact hagree _ hmem rfl

theorem Collects.known (h : Collects r is) (hi : i ∈ is) : Collects r (is ++ [i]) where
  tidy := h.tidy
  inUse := by
    have hd : i.domain ∈ is.map (·.domain) := List.mem_map_of_mem hi
    rw [List.map_append, List.map_singleton, eraseDups_concat, if_pos hd, h.inUse]
  inDomain d := by rw [eraseDups_concat, if_pos hi, h.inDomain]

theorem Collects.insert (h : Collects r is) (hn : ∀ e ∈ r.entries i.domain, e.1 ≠ i.number)
    (hl : ∀ e ∈ r.entries i.domain, e.2 ≠ i.label) :
    Collects (r.insert i.domain (i.number, i.label)) (is ++ [i]) where
  tidy := h.tidy.insert hn hl
  inUse := by
    have hd : i.domain ∈ r.inUse ↔ i.domain ∈ is.map (·.domain) := by
      rw [h.inUse, List.mem_eraseDups]
    rw [inUse_insert, List.map_append, List.map_singleton, eraseDups_concat, if_congr hd rfl rfl,
      h.inUse]
  inDomain d := by
    have hnew : i ∉ is := fun hi => hn _ (h.mem_iff.mp hi) rfl
    rw [eraseDups_concat, if_neg hnew, List.filter_append, ← h.inDomain, entries_insert]
    by_cases hd : d = i.domain
    · subst hd
      simp [listed]
    · simp [hd, Ne.symm hd]

/-- One more instance is taken, and all is in order still, if it agrees with all that came. -/
theorem Collects.load_cases (h : Collects r is) (i : Instance) :
    ((∀ j ∈ is, Agree j i) ∧ ∃ r', r.load i = .ok r' ∧ Collects r' (is ++ [i])) ∨
      ((¬ ∀ j ∈ is, Agree j i) ∧ ∃ cause, r.load i = .error cause) := by
  rw [← h.fits_iff, load]
  rcases add_cases h.tidy.wellFormed i.domain i.label i.number with
    ⟨hadd, hmem⟩ | ⟨hadd, hn, hl⟩ | ⟨cause, hadd, -, hfits⟩ <;> rw [hadd]
  · exact Or.inl ⟨.of_mem h.tidy.wellFormed hmem, r, rfl, h.known (h.mem_iff.mpr hmem)⟩
  · exact Or.inl ⟨.of_fresh hn hl, _, rfl, h.insert hn hl⟩
  · exact Or.inr ⟨hfits, cause, rfl⟩

theorem ofList_cases (is : List Instance) :
    (Unambiguous is ∧ ∃ r, ofList is = .ok r ∧ Collects r is) ∨
      (¬ Unambiguous is ∧ ∃ cause, ofList is = .error cause) := by
  -- From the end of the list: the last instance is held against all that came before it.
  induction is using List.reverseRecOn with
  | nil => exact Or.inl ⟨by simp [Unambiguous], empty, rfl, collects_empty⟩
  | append_singleton is i ih =>
    have hlast : ofList (is ++ [i]) = ofList is >>= fun r => r.load i := by
      rw [ofList_eq, List.foldlM_append]
      exact congrArg _ (funext fun r => bind_pure (r.load i))
    rw [unambiguous_concat, hlast]
    rcases ih with ⟨hbefore, r, hr, hcollects⟩ | ⟨hbefore, cause, hcause⟩
    · rw [hr, ok_bind]
      rcases hcollects.load_cases i with ⟨hagree, hload⟩ | ⟨hagree, hload⟩
      · exact Or.inl ⟨⟨hbefore, hagree⟩, hload⟩
      · exact Or.inr ⟨fun h => hagree h.2, hload⟩
    · exact Or.inr ⟨fun h => hbefore h.1, cause, by rw [hcause, error_bind]⟩

end Registry

namespace IndexedRegistry

open Registry

variable {digest : String → UInt64}

/-- The lists of instances that are taken are those in which numbers and labels determine each other
within each domain. What is taken is the list in order, which is taken as it is, with tables and
without them, whatever function the digest is. -/
theorem loads_in_order (digest : String → UInt64) (is : List Instance) :
    ((∃ x, ofList digest is = .ok x) ↔ Unambiguous is) ∧
      (∀ x, ofList digest is = .ok x → x.toList = regrouped is ∧
        (ofList digest x.toList).map toList = .ok x.toList) ∧
      (ofList digest is).map toList = (Registry.ofList is).map Registry.toList := by
  have hview : ∀ is, (ofList digest is).map toList = (Registry.ofList is).map Registry.toList :=
    fun is => (ofList_sameOutcome digest is).map_eq fun x r h => h.1.toList h.2
  have hsame := ofList_sameOutcome digest is
  rcases ofList_cases is with ⟨hagree, r, hr, hcollects⟩ | ⟨hagree, cause, hcause⟩
  · rw [hr] at hsame
    obtain ⟨x, hx, hmirrors, htidy⟩ := hsame.exists_ok
    refine ⟨⟨fun _ => hagree, fun _ => ⟨x, hx⟩⟩, fun x' hx' => ?_, hview is⟩
    obtain rfl := Except.ok.inj (hx.symm.trans hx')
    rw [hmirrors.toList htidy]
    refine ⟨hcollects.toList_eq, ?_⟩
    rw [hview, htidy.ofList_toList]
    rfl
  · rw [hcause] at hsame
    have hx := hsame.eq_error
    refine ⟨⟨fun ⟨x, hx'⟩ => ?_, fun h => absurd h hagree⟩, fun x hx' => ?_, hview is⟩
    · cases hx.symm.trans hx'
    · cases hx.symm.trans hx'

/-- Two domains in turn, and an instance that comes twice, even where all labels have one digest. -/
theorem turns_load_in_order :
    let is : List Instance := [⟨.pack 60 2, 5, "5 minute"⟩, ⟨.pack 60 37, 10, "10 second"⟩,
      ⟨.pack 60 2, 1, "1 minute"⟩, ⟨.pack 60 2, 5, "5 minute"⟩]
    Unambiguous is ∧ ∃ x, ofList (fun _ => 0) is = .ok x ∧
      x.toList = [⟨.pack 60 2, 5, "5 minute"⟩, ⟨.pack 60 2, 1, "1 minute"⟩,
        ⟨.pack 60 37, 10, "10 second"⟩] ∧
      (ofList (fun _ => 0) x.toList).map toList = .ok x.toList := by
  intro is
  have hagree : Unambiguous is := by decide
  obtain ⟨x, hx⟩ := (loads_in_order (fun _ => 0) is).1.mpr hagree
  obtain ⟨hlist, hagain⟩ := (loads_in_order (fun _ => 0) is).2.1 x hx
  exact ⟨hagree, x, hx, hlist.trans (by decide), hagain⟩

end IndexedRegistry

end ActivityArchive
