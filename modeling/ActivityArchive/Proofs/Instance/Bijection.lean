import ActivityArchive.Instance.Registry

/-!
Within a domain of a well-formed registry numbers and labels determine each other. Insertion keeps
the registry well-formed, and `add` succeeds exactly on the pairs that fit it (`add_ok_iff`).
-/
namespace ActivityArchive

/-- The domain of the instance that was refused. -/
def RegistryError.domain : RegistryError → DomainId
  | .conflictingInstance domain .. => domain
  | .duplicateLabel domain .. => domain

namespace Registry

variable {r : Registry} {d d' : DomainId} {n : Int} {l : String} {e : Entry}

/-- Two instances that share neither number nor label. -/
def Apart (x y : Entry) : Prop := x.1 ≠ y.1 ∧ x.2 ≠ y.2

def WellFormed (r : Registry) : Prop := ∀ d, (r.entries d).Pairwise Apart

/-- The pair is known, or nothing of it is. -/
def Fits (r : Registry) (d : DomainId) (n : Int) (l : String) : Prop :=
  ∀ e ∈ r.entries d, e.1 = n ↔ e.2 = l

def insert (r : Registry) (d : DomainId) (e : Entry) : Registry := ⟨append d e r.domains⟩

@[simp] theorem entries_empty (d : DomainId) : empty.entries d = [] := rfl

theorem wellFormed_empty : empty.WellFormed := fun _ => List.Pairwise.nil

theorem entries_insert (r : Registry) (d d' : DomainId) (e : Entry) :
    (r.insert d e).entries d' = if d' = d then r.entries d ++ [e] else r.entries d' := by
  obtain ⟨ds⟩ := r
  simp only [insert, entries]
  induction ds with
  | nil => by_cases h : d' = d <;> simp [append, h, eq_comm]
  | cons x ds ih =>
    obtain ⟨d₀, es⟩ := x
    by_cases h₀ : d₀ = d
    · subst h₀
      by_cases h : d' = d₀
      · simp [append, h]
      · simp [append, h, Ne.symm h]
    · by_cases h : d₀ = d'
      · subst h
        simp [append, h₀]
      · simpa [append, h₀, h] using ih

theorem mem_entries_insert :
    e ∈ (r.insert d (n, l)).entries d' ↔ e ∈ r.entries d' ∨ (d' = d ∧ e = (n, l)) := by
  rw [entries_insert]
  by_cases h : d' = d
  · subst h
    simp
  · simp [h]

theorem mem_entries_insert_of_mem (h : e ∈ r.entries d') :
    e ∈ (r.insert d (n, l)).entries d' := mem_entries_insert.mpr (Or.inl h)

theorem mem_insert_self : (n, l) ∈ (r.insert d (n, l)).entries d :=
  mem_entries_insert.mpr (Or.inr ⟨rfl, rfl⟩)

theorem eq_of_apart {es : List Entry} (h : es.Pairwise Apart) {x y : Entry} (hx : x ∈ es)
    (hy : y ∈ es) (hxy : x.1 = y.1 ∨ x.2 = y.2) : x = y := by
  induction h with
  | nil => simp at hx
  | cons hz _ ih =>
    rcases List.mem_cons.mp hx with rfl | hx' <;> rcases List.mem_cons.mp hy with rfl | hy'
    · rfl
    · have := hz y hy'
      exact absurd hxy (by simp [this.1, this.2])
    · have := hz x hx'
      exact absurd hxy (by simp [this.1.symm, this.2.symm])
    · exact ih hx' hy'

theorem WellFormed.label_unique (h : r.WellFormed) {m : String} (hl : (n, l) ∈ r.entries d)
    (hm : (n, m) ∈ r.entries d) : l = m :=
  congrArg Prod.snd (eq_of_apart (h d) hl hm (Or.inl rfl))

theorem WellFormed.number_unique (h : r.WellFormed) {m : Int} (hn : (n, l) ∈ r.entries d)
    (hm : (m, l) ∈ r.entries d) : n = m :=
  congrArg Prod.fst (eq_of_apart (h d) hn hm (Or.inr rfl))

theorem mem_of_label? (h : r.label? d n = some l) : (n, l) ∈ r.entries d := by
  obtain ⟨e, he, rfl⟩ := Option.map_eq_some_iff.mp h
  have hn : e.1 = n := by simpa using List.find?_some he
  exact hn ▸ List.mem_of_find?_eq_some he

theorem mem_of_number? (h : r.number? d l = some n) : (n, l) ∈ r.entries d := by
  obtain ⟨e, he, rfl⟩ := Option.map_eq_some_iff.mp h
  have hl : e.2 = l := by simpa using List.find?_some he
  exact hl ▸ List.mem_of_find?_eq_some he

theorem label?_eq_none_iff : r.label? d n = none ↔ ∀ e ∈ r.entries d, e.1 ≠ n := by
  simp [label?]

theorem number?_eq_none_iff : r.number? d l = none ↔ ∀ e ∈ r.entries d, e.2 ≠ l := by
  simp [number?]

theorem label?_eq_some_iff (h : r.WellFormed) :
    r.label? d n = some l ↔ (n, l) ∈ r.entries d := by
  refine ⟨mem_of_label?, fun hm => ?_⟩
  cases hf : r.label? d n with
  | none => exact absurd rfl (label?_eq_none_iff.mp hf _ hm)
  | some m => rw [h.label_unique hm (mem_of_label? hf)]

theorem number?_eq_some_iff (h : r.WellFormed) :
    r.number? d l = some n ↔ (n, l) ∈ r.entries d := by
  refine ⟨mem_of_number?, fun hm => ?_⟩
  cases hf : r.number? d l with
  | none => exact absurd rfl (number?_eq_none_iff.mp hf _ hm)
  | some m => rw [h.number_unique hm (mem_of_number? hf)]

theorem number?_isSome_iff : (r.number? d l).isSome ↔ ∃ n, (n, l) ∈ r.entries d := by
  constructor
  · intro h
    obtain ⟨n, hn⟩ := Option.isSome_iff_exists.mp h
    exact ⟨n, mem_of_number? hn⟩
  · rintro ⟨n, hn⟩
    cases hm : r.number? d l with
    | some m => rfl
    | none => exact absurd rfl (number?_eq_none_iff.mp hm _ hn)

theorem lt_next (he : e ∈ r.entries d) : e.1 < r.next d := by
  unfold next
  cases hm : ((r.entries d).map (·.1)).max? with
  | none =>
    rw [List.max?_eq_none_iff, List.map_eq_nil_iff] at hm
    simp [hm] at he
  | some m =>
    have := (List.max?_eq_some_iff.mp hm).2 e.1 (List.mem_map_of_mem he)
    show e.1 < m + 1
    omega

/-- Numbers below a bound are followed by one that does not pass it. -/
theorem next_le {bound : Int} (hbound : 0 ≤ bound) (h : ∀ e ∈ r.entries d, e.1 < bound) :
    r.next d ≤ bound := by
  unfold next
  cases hm : ((r.entries d).map (·.1)).max? with
  | none => exact hbound
  | some m =>
    obtain ⟨e, he, hem⟩ := List.mem_map.mp (List.max?_eq_some_iff.mp hm).1
    have := h e he
    show m + 1 ≤ bound
    omega

theorem wellFormed_insert (h : r.WellFormed) (hn : ∀ e ∈ r.entries d, e.1 ≠ n)
    (hl : ∀ e ∈ r.entries d, e.2 ≠ l) : (r.insert d (n, l)).WellFormed := by
  intro d'
  rw [entries_insert]
  by_cases hd : d' = d
  · rw [if_pos hd, List.pairwise_append]
    refine ⟨h d, List.pairwise_singleton _ _, ?_⟩
    intro x hx y hy
    rw [List.mem_singleton.mp hy]
    exact ⟨hn x hx, hl x hx⟩
  · rw [if_neg hd]
    exact h d'

theorem Fits.of_mem (h : r.WellFormed) (hm : (n, l) ∈ r.entries d) : r.Fits d n l := by
  intro e he
  constructor <;> intro hx
  · exact congrArg Prod.snd (eq_of_apart (h d) he hm (Or.inl hx))
  · exact congrArg Prod.fst (eq_of_apart (h d) he hm (Or.inr hx))

theorem Fits.of_fresh (hn : ∀ e ∈ r.entries d, e.1 ≠ n)
    (hl : ∀ e ∈ r.entries d, e.2 ≠ l) :
    r.Fits d n l := fun e he => by simp [hn e he, hl e he]

theorem add_known (h : r.WellFormed) (hm : (n, l) ∈ r.entries d) :
    r.add d l n = .ok (false, r) := by
  simp [add, (label?_eq_some_iff h).mpr hm]

theorem add_fresh (hn : ∀ e ∈ r.entries d, e.1 ≠ n) (hl : ∀ e ∈ r.entries d, e.2 ≠ l) :
    r.add d l n = .ok (true, r.insert d (n, l)) := by
  simp [add, label?_eq_none_iff.mpr hn, number?_eq_none_iff.mpr hl, insert]

theorem add_unfit (h : r.WellFormed) (hf : ¬ r.Fits d n l) :
    ∃ cause, r.add d l n = .error cause ∧ cause.domain = d := by
  unfold add
  cases hn : r.label? d n with
  | some m =>
    have hm : m ≠ l := by
      rintro rfl
      exact hf (Fits.of_mem h (mem_of_label? hn))
    exact ⟨.conflictingInstance d n m l, by simp [hm], rfl⟩
  | none =>
    cases hl : r.number? d l with
    | some m => exact ⟨_, rfl, rfl⟩
    | none => exact absurd (Fits.of_fresh (label?_eq_none_iff.mp hn) (number?_eq_none_iff.mp hl)) hf

/-- Every outcome of `add` on a well-formed registry. -/
theorem add_cases (h : r.WellFormed) (d : DomainId) (l : String) (n : Int) :
    (r.add d l n = .ok (false, r) ∧ (n, l) ∈ r.entries d) ∨
      (r.add d l n = .ok (true, r.insert d (n, l)) ∧ (∀ e ∈ r.entries d, e.1 ≠ n) ∧
        ∀ e ∈ r.entries d, e.2 ≠ l) ∨
      (∃ cause, r.add d l n = .error cause ∧ cause.domain = d ∧ ¬ r.Fits d n l) := by
  by_cases hm : (n, l) ∈ r.entries d
  · exact Or.inl ⟨add_known h hm, hm⟩
  by_cases hf : r.Fits d n l
  · have hn : ∀ e ∈ r.entries d, e.1 ≠ n := fun e he hx =>
      hm (by rw [← hx, ← (hf e he).mp hx]; exact he)
    have hl : ∀ e ∈ r.entries d, e.2 ≠ l := fun e he hx => hn e he ((hf e he).mpr hx)
    exact Or.inr (Or.inl ⟨add_fresh hn hl, hn, hl⟩)
  · obtain ⟨cause, ha, hd⟩ := add_unfit h hf
    exact Or.inr (Or.inr ⟨cause, ha, hd, hf⟩)

/-- A pair that fits is known, or neither its number nor its label is used. -/
theorem add_ok_iff (h : r.WellFormed) :
    (∃ out, r.add d l n = .ok out) ↔
      (n, l) ∈ r.entries d ∨ (∀ e ∈ r.entries d, e.1 ≠ n) ∧
      ∀ e ∈ r.entries d, e.2 ≠ l := by
  constructor
  · rintro ⟨out, hout⟩
    rcases add_cases h d l n with ⟨-, hm⟩ | ⟨-, hn, hl⟩ | ⟨cause, hadd, -⟩
    · exact Or.inl hm
    · exact Or.inr ⟨hn, hl⟩
    · rw [hadd] at hout
      cases hout
  · rintro (hm | ⟨hn, hl⟩)
    · exact ⟨_, add_known h hm⟩
    · exact ⟨_, add_fresh hn hl⟩

end Registry

end ActivityArchive
