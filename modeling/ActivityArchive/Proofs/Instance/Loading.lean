import ActivityArchive.Proofs.Instance.Indexed
import ActivityArchive.Proofs.Steps

/-!
Registries made again from the list of their instances. The list gives one domain after the other,
so every instance goes behind those of the domain that came last or begins a domain of its own. It
shares nothing with what is there and is never refused, and all stands where it stood
(`Tidy.ofList_toList`). Tables that are built from the list show the registry as well.
-/
namespace ActivityArchive

namespace Registry

variable {r r' : Registry} {d : DomainId} {n : Int} {l : String} {e : Entry} {es more : List Entry}
  {ds rest : List (DomainId × List Entry)}

/-- Takes over one instance of a list. -/
def load (r : Registry) (i : Instance) : Except RegistryError Registry :=
  (r.add i.domain i.label i.number).map (·.2)

theorem ofList_eq (is : List Instance) : ofList is = is.foldlM load empty := rfl

theorem load_fresh (hn : ∀ e ∈ r.entries d, e.1 ≠ n) (hl : ∀ e ∈ r.entries d, e.2 ≠ l) :
    r.load ⟨d, n, l⟩ = .ok (r.insert d (n, l)) := by
  show (r.add d l n).map (·.2) = _
  rw [add_fresh hn hl]
  rfl

theorem append_new (hd : d ∉ ds.map (·.1)) : append d e ds = ds ++ [(d, [e])] := by
  induction ds with
  | nil => rfl
  | cons x ds ih =>
    obtain ⟨hne, hds⟩ : d ≠ x.1 ∧ d ∉ ds.map (·.1) := by simpa using hd
    simp [append, Ne.symm hne, ih hds]

theorem append_last (hd : d ∉ ds.map (·.1)) :
    append d e (ds ++ [(d, es)]) = ds ++ [(d, es ++ [e])] := by
  induction ds with
  | nil => simp [append]
  | cons x ds ih =>
    obtain ⟨hne, hds⟩ : d ≠ x.1 ∧ d ∉ ds.map (·.1) := by simpa using hd
    simp [append, Ne.symm hne, ih hds]

theorem find?_domain (hd : d ∉ ds.map (·.1)) : ds.find? (·.1 = d) = none := by
  rw [List.find?_eq_none]
  intro x hx hxd
  exact hd (List.mem_map.mpr ⟨x, hx, by simpa using hxd⟩)

theorem entries_new (hd : d ∉ ds.map (·.1)) :
    entries ⟨ds⟩ d = [] := by simp [entries, find?_domain hd]

theorem entries_last (hd : d ∉ ds.map (·.1)) : entries ⟨ds ++ [(d, es)]⟩ d = es := by
  simp [entries, List.find?_append, find?_domain hd]

/-- The instances of one domain. -/
def listed (d : DomainId) (es : List Entry) : List Instance := es.map fun e => ⟨d, e.1, e.2⟩

/-- Instances go behind those of the domain that came last. -/
theorem load_last (hd : d ∉ ds.map (·.1)) (h : (es ++ more).Pairwise Apart) :
    (listed d more).foldlM load ⟨ds ++ [(d, es)]⟩ = .ok ⟨ds ++ [(d, es ++ more)]⟩ := by
  induction more generalizing es with
  | nil => rw [List.append_nil]; rfl
  | cons e more ih =>
    have hfresh : ∀ x ∈ es, Apart x e := fun x hx =>
      (List.pairwise_append.mp h).2.2 x hx e List.mem_cons_self
    have hload : load ⟨ds ++ [(d, es)]⟩ ⟨d, e.1, e.2⟩ =
        .ok ⟨ds ++ [(d, es ++ [e])]⟩ := by
      rw [load_fresh, insert, append_last hd] <;> rw [entries_last hd]
      · exact fun x hx => (hfresh x hx).1
      · exact fun x hx => (hfresh x hx).2
    have hmore : (es ++ [e] ++ more).Pairwise Apart := by rwa [List.append_assoc]
    calc (listed d (e :: more)).foldlM load ⟨ds ++ [(d, es)]⟩
        = load ⟨ds ++ [(d, es)]⟩ ⟨d, e.1, e.2⟩ >>= (listed d more).foldlM load := rfl
      _ = (listed d more).foldlM load ⟨ds ++ [(d, es ++ [e])]⟩ := by rw [hload]; rfl
      _ = .ok ⟨ds ++ [(d, es ++ e :: more)]⟩ := by rw [ih hmore, List.append_assoc]; rfl

/-- The first instance of a domain begins it, and the others go behind it. -/
theorem load_domain (hd : d ∉ ds.map (·.1)) (hne : es ≠ []) (h : es.Pairwise Apart) :
    (listed d es).foldlM load ⟨ds⟩ = .ok ⟨ds ++ [(d, es)]⟩ := by
  cases es with
  | nil => exact absurd rfl hne
  | cons e es =>
    have hload : load ⟨ds⟩ ⟨d, e.1, e.2⟩ = .ok ⟨ds ++ [(d, [e])]⟩ := by
      rw [load_fresh (by simp [entries_new hd]) (by simp [entries_new hd]), insert, append_new hd]
    calc (listed d (e :: es)).foldlM load ⟨ds⟩
        = load ⟨ds⟩ ⟨d, e.1, e.2⟩ >>= (listed d es).foldlM load := rfl
      _ = (listed d es).foldlM load ⟨ds ++ [(d, [e])]⟩ := by rw [hload]; rfl
      _ = .ok ⟨ds ++ [(d, e :: es)]⟩ := load_last hd h

theorem load_domains (hnodup : ((ds ++ rest).map (·.1)).Nodup)
    (h : ∀ x ∈ rest, x.2 ≠ [] ∧ x.2.Pairwise Apart) :
    (toList ⟨rest⟩).foldlM load ⟨ds⟩ = .ok ⟨ds ++ rest⟩ := by
  induction rest generalizing ds with
  | nil => rw [List.append_nil]; rfl
  | cons x rest ih =>
    obtain ⟨d, es⟩ := x
    obtain ⟨hne, hes⟩ := h (d, es) List.mem_cons_self
    have hd : d ∉ ds.map (·.1) := by
      rw [List.map_append, List.nodup_append] at hnodup
      exact fun hmem => hnodup.2.2 d hmem d List.mem_cons_self rfl
    have hrest : ((ds ++ [(d, es)] ++ rest).map (·.1)).Nodup := by rwa [List.append_assoc]
    have hlist : toList ⟨(d, es) :: rest⟩ = listed d es ++ toList ⟨rest⟩ := rfl
    rw [hlist, List.foldlM_append, load_domain hd hne hes]
    show (toList ⟨rest⟩).foldlM load ⟨ds ++ [(d, es)]⟩ = _
    rw [ih hrest fun x hx => h x (List.mem_cons_of_mem _ hx), List.append_assoc]
    rfl

/-- A domain that is in use once is found with its own entries. -/
theorem entries_of_mem (h : r.inUse.Nodup) (hd : (d, es) ∈ r.domains) : r.entries d = es := by
  obtain ⟨before, after, hsplit⟩ := List.append_of_mem hd
  have hbefore : d ∉ before.map (·.1) := by
    rw [inUse, hsplit, List.map_append, List.nodup_append] at h
    exact fun hmem => h.2.2 d hmem d List.mem_cons_self rfl
  simp [entries, hsplit, List.find?_append, find?_domain hbefore]

theorem Tidy.ofList_toList (h : r.Tidy) : ofList r.toList = .ok r := by
  have hdomains : ∀ x ∈ r.domains, x.2 ≠ [] ∧ x.2.Pairwise Apart := by
    intro x hx
    have hentries : r.entries x.1 = x.2 := entries_of_mem h.nodup hx
    rw [← hentries]
    exact ⟨(h.mem_inUse x.1).mp (List.mem_map_of_mem hx), h.wellFormed x.1⟩
  rw [ofList_eq]
  exact load_domains h.nodup hdomains

/-- What is in the list is what the domains hold. -/
theorem Tidy.mem_toList (h : r.Tidy) (i : Instance) :
    i ∈ r.toList ↔ (i.number, i.label) ∈ r.entries i.domain := by
  constructor
  · intro hi
    obtain ⟨⟨d, es⟩, hd, hi⟩ := List.mem_flatMap.mp hi
    obtain ⟨e, he, rfl⟩ := List.mem_map.mp hi
    exact entries_of_mem h.nodup hd ▸ he
  · intro hi
    have hd : i.domain ∈ r.inUse := (h.mem_inUse i.domain).mpr (List.ne_nil_of_mem hi)
    obtain ⟨⟨d, es⟩, hmem, rfl⟩ := List.mem_map.mp hd
    rw [entries_of_mem h.nodup hmem] at hi
    exact List.mem_flatMap.mpr ⟨_, hmem, List.mem_map_of_mem hi⟩

/-- One domain after the other, as they are in use. -/
theorem Tidy.toList_eq (h : r.Tidy) :
    r.toList = r.inUse.flatMap fun d => listed d (r.entries d) := by
  rw [toList, inUse, List.flatMap_map]
  refine List.flatMap_congr fun x hx => ?_
  show listed x.1 x.2 = listed x.1 (r.entries x.1)
  rw [entries_of_mem h.nodup hx]

end Registry

namespace IndexedRegistry

variable {digest : String → UInt64} {x : IndexedRegistry} {r : Registry}

/-- Takes over one instance of a list, into the tables. -/
def load (digest : String → UInt64) (x : IndexedRegistry) (i : Instance) :
    Except RegistryError IndexedRegistry :=
  match x.add digest i.domain i.label i.number with
  | (.ok _, x') => .ok x'
  | (.error cause, _) => .error cause

/-- The tables of a list of instances. -/
def ofList (digest : String → UInt64) (instances : List Instance) :
    Except RegistryError IndexedRegistry := instances.foldlM (load digest) {}

/-- An instance is taken over with the outcome it has on the lists, cause included. -/
theorem Mirrors.load (h : Mirrors digest x r) (hr : r.Tidy) (i : Instance) :
    SameOutcome (fun x r => Mirrors digest x r ∧ r.Tidy) (load digest x i) (r.load i) := by
  obtain ⟨hout, hmirrors⟩ := h.add hr.wellFormed i.domain i.label i.number
  have htidy := hr.call (.add i.domain i.label i.number)
  unfold IndexedRegistry.load Registry.load
  rw [Registry.call] at hmirrors htidy
  generalize x.add digest i.domain i.label i.number = w at hout hmirrors ⊢
  obtain ⟨out, x'⟩ := w
  rcases hadd : r.add i.domain i.label i.number with cause | ⟨new, r'⟩ <;>
    rw [hadd] at hout hmirrors htidy <;> cases hout
  · exact .error cause
  · exact .ok ⟨hmirrors, htidy⟩

/-- Tables take the lists that the lists alone take, and stay in step. -/
theorem ofList_sameOutcome (digest : String → UInt64) (is : List Instance) :
    SameOutcome (fun x r => Mirrors digest x r ∧ r.Tidy) (ofList digest is)
      (Registry.ofList is) :=
  foldlM_sameOutcome ⟨mirrors_empty digest, Registry.tidy_empty⟩ fun i _ _ _ h => h.1.load h.2 i

theorem Mirrors.toList (h : Mirrors digest x r) (hr : r.Tidy) : x.toList = r.toList := by
  rw [hr.toList_eq, ← h.order, IndexedRegistry.toList]
  refine List.flatMap_congr fun d _ => ?_
  rw [h.entries]
  rfl

/-- The tables of the instances of a registry show the registry. -/
theorem ofList_shows (digest : String → UInt64) (h : r.Tidy) :
    ∃ x, ofList digest r.toList = .ok x ∧ Shows digest x r := by
  have hsame := ofList_sameOutcome digest r.toList
  rw [h.ofList_toList] at hsame
  obtain ⟨x, hx, hmirrors, -⟩ := hsame.exists_ok
  exact ⟨x, hx, hmirrors.shows h.wellFormed⟩

end IndexedRegistry

end ActivityArchive
