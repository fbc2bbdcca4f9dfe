import ActivityArchive.Proofs.Instance.Bijection

/-!
Registries under any calls. `ensure` always finds a number, since the next one is free; and a domain
is in use, once, from its first instance on. Both follow from what the calls do: they keep the
registry as it is or insert an instance that shares nothing with its domain (`Grown`).
-/
namespace ActivityArchive.Registry

inductive Call
  | add (d : DomainId) (label : String) (number : Int)
  | ensure (d : DomainId) (label : String)

def call (r : Registry) : Call → Registry
  | .add d label number =>
    match r.add d label number with
    | .ok (_, r') => r'
    | .error _ => r
  | .ensure d label =>
    match r.ensure d label with
    | .ok (_, r') => r'
    | .error _ => r

/-- The registry after some calls on a new one. -/
def after (calls : List Call) : Registry := calls.foldl call empty

variable {r r' : Registry} {d d' : DomainId} {n : Int} {l : String} {e : Entry}

theorem number_ne_next (he : e ∈ r.entries d) : e.1 ≠ r.next d := Int.ne_of_lt (lt_next he)

/-- A label without a number gets the next one. -/
theorem ensure_cases (r : Registry) (d : DomainId) (l : String) :
    (∃ n, r.ensure d l = .ok (n, r) ∧ (n, l) ∈ r.entries d) ∨
      (r.ensure d l = .ok (r.next d, r.insert d (r.next d, l)) ∧
        ∀ e ∈ r.entries d, e.2 ≠ l) := by
  unfold ensure
  cases hl : r.number? d l with
  | some n => exact Or.inl ⟨n, rfl, mem_of_number? hl⟩
  | none =>
    have hfree := number?_eq_none_iff.mp hl
    refine Or.inr ⟨?_, hfree⟩
    dsimp only
    rw [add_fresh (fun _ he => number_ne_next he) hfree]
    rfl

/-- The registry itself, or the registry with one more instance, which shares neither number nor
label. -/
inductive Grown (r : Registry) : Registry → Prop
  | same : Grown r r
  | insert {d : DomainId} {n : Int} {l : String} (hn : ∀ e ∈ r.entries d, e.1 ≠ n)
      (hl : ∀ e ∈ r.entries d, e.2 ≠ l) :
      Grown r (r.insert d (n, l))

theorem grown_call (hw : r.WellFormed) (c : Call) : Grown r (r.call c) := by
  cases c with
  | add d l n =>
    rcases add_cases hw d l n with ⟨hadd, -⟩ | ⟨hadd, hn, hl⟩ | ⟨cause, hadd, -⟩ <;>
      simp only [call, hadd]
    · exact .same
    · exact .insert hn hl
    · exact .same
  | ensure d l =>
    rcases ensure_cases r d l with ⟨n, hensure, -⟩ | ⟨hensure, hl⟩ <;>
      simp only [call, hensure]
    · exact .same
    · exact .insert (fun _ he => number_ne_next he) hl

theorem inUse_insert (r : Registry) (d : DomainId) (e : Entry) :
    (r.insert d e).inUse = if d ∈ r.inUse then r.inUse else r.inUse ++ [d] := by
  obtain ⟨ds⟩ := r
  simp only [insert, inUse]
  induction ds with
  | nil => rfl
  | cons x ds ih =>
    obtain ⟨d₀, es⟩ := x
    by_cases h : d₀ = d
    · simp [append, h]
    · by_cases hm : d ∈ ds.map (·.1)
      · simpa [append, h, hm] using ih
      · simpa [append, h, hm, Ne.symm h] using ih

/-- Numbers and labels determine each other, and the domains in use are those with instances. -/
structure Tidy (r : Registry) : Prop where
  wellFormed : r.WellFormed
  nodup : r.inUse.Nodup
  mem_inUse : ∀ d, d ∈ r.inUse ↔ r.entries d ≠ []

theorem tidy_empty : empty.Tidy :=
  ⟨wellFormed_empty, List.nodup_nil, fun d => by simp [inUse, empty, entries]⟩

theorem Tidy.insert (h : r.Tidy) (hn : ∀ e ∈ r.entries d, e.1 ≠ n)
    (hl : ∀ e ∈ r.entries d, e.2 ≠ l) : (r.insert d (n, l)).Tidy := by
  refine ⟨wellFormed_insert h.wellFormed hn hl, ?_, fun d' => ?_⟩
  · rw [inUse_insert]
    split
    · exact h.nodup
    · rename_i hd
      exact List.nodup_append.mpr ⟨h.nodup, by simp,
        fun x hx y hy => by rw [List.mem_singleton.mp hy]; exact fun hxd => hd (hxd ▸ hx)⟩
  · have hmem : d' ∈ (r.insert d (n, l)).inUse ↔ d' ∈ r.inUse ∨ d' = d := by
      rw [inUse_insert]
      by_cases hd : d ∈ r.inUse
      · rw [if_pos hd]
        exact ⟨Or.inl, fun hx => hx.elim id fun hx => hx ▸ hd⟩
      · rw [if_neg hd, List.mem_append, List.mem_singleton]
    rw [hmem, h.mem_inUse, entries_insert]
    by_cases hd : d' = d <;> simp [hd]

theorem Tidy.grown (h : r.Tidy) (hr : Grown r r') : r'.Tidy := by
  cases hr with
  | same => exact h
  | insert hn hl => exact h.insert hn hl

theorem Tidy.call (h : r.Tidy) (c : Call) : (r.call c).Tidy := h.grown (grown_call h.wellFormed c)

theorem tidy_after (calls : List Call) : (after calls).Tidy := by
  have key : ∀ r : Registry, r.Tidy → (calls.foldl Registry.call r).Tidy := by
    induction calls with
    | nil => exact fun _ h => h
    | cons c calls ih => exact fun r h => ih _ (h.call c)
  exact key empty tidy_empty

end ActivityArchive.Registry
