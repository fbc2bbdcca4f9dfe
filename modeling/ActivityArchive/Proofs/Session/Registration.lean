import ActivityArchive.Proofs.Instance.Numbering
import ActivityArchive.Session.Encoding

/-!
Registration on a bench whose registry is well-formed and whose store is open and holds the same
instances. A request either ends well, with both registries still the same, or its explicit number
does not fit and nothing changes (`register_outcome`). `Registered` sums up a series of requests.
-/
namespace ActivityArchive

namespace Registry

variable {r r' r'' : Registry} {d : DomainId} {n : Int} {l : String}

/-- What a series of requests does to a registry. -/
structure Registered (qs : List Request) (r r' : Registry) : Prop where
  kept : ∀ d, ∀ e ∈ r.entries d, e ∈ r'.entries d
  registered : ∀ d l num, (d, l, num) ∈ qs →
    ∃ n, (n, l) ∈ r'.entries d ∧ (num = none ∨ num = some n)
  /-- A number that is taken already is not given a second time. -/
  conforms : ∀ N : Numbering, r.Conforms N →
    (∀ d l num, (d, l, num) ∈ qs →
      N.Admits d l num ∨ ∃ n k, num = some n ∧ (n, k) ∈ r.entries d) →
    r'.Conforms N

theorem Registered.nil (r : Registry) : Registered [] r r where
  kept _ _ h := h
  registered := by simp
  conforms _ h _ := h

theorem Registered.append {qs qs' : List Request} (h : Registered qs r r')
    (h' : Registered qs' r' r'') : Registered (qs ++ qs') r r'' where
  kept d e he := h'.kept d e (h.kept d e he)
  registered d l num hq := by
    rcases List.mem_append.mp hq with hq | hq
    · obtain ⟨n, hn, hnum⟩ := h.registered d l num hq
      exact ⟨n, h'.kept d _ hn, hnum⟩
    · exact h'.registered d l num hq
  conforms N hN ha := by
    refine h'.conforms N (h.conforms N hN fun d l num hq => ?_) fun d l num hq => ?_
    · exact ha d l num (List.mem_append_left _ hq)
    · rcases ha d l num (List.mem_append_right _ hq) with had | ⟨n, k, hnum, hk⟩
      · exact Or.inl had
      · exact Or.inr ⟨n, k, hnum, h.kept d _ hk⟩

theorem Registered.known {num : Option Int} (hm : (n, l) ∈ r.entries d)
    (hnum : num = none ∨ num = some n) : Registered [(d, l, num)] r r where
  kept _ _ h := h
  registered d' l' num' hq := by
    obtain ⟨rfl, rfl, rfl⟩ : d' = d ∧ l' = l ∧ num' = num := by simpa using hq
    exact ⟨n, hm, hnum⟩
  conforms _ h _ := h

theorem Registered.fresh {num : Option Int} (hn : ∀ e ∈ r.entries d, e.1 ≠ n)
    (hnum : num = none ∨ num = some n) : Registered [(d, l, num)] r (r.insert d (n, l)) where
  kept _ _ h := mem_entries_insert_of_mem h
  registered d' l' num' hq := by
    obtain ⟨rfl, rfl, rfl⟩ : d' = d ∧ l' = l ∧ num' = num := by simpa using hq
    exact ⟨n, mem_insert_self, hnum⟩
  conforms N hN ha := by
    refine conforms_insert hN ?_
    rcases ha d l num (by simp) with had | ⟨m, k, hm, hk⟩
    · rcases hnum with rfl | rfl
      · exact had n
      · exact had
    · obtain rfl : n = m := by simpa [hm, eq_comm] using hnum
      exact absurd rfl (hn _ hk)

end Registry

namespace Bench

variable {b b' : Bench} {d : DomainId} {l : String} {n : Int}

structure Sound (b : Bench) : Prop where
  wellFormed : b.registry.WellFormed
  inStep : b.store.instances = b.registry
  unsealed : b.store.isSealed = false

/-- The bench with the same registry in both places. -/
def adopt (b : Bench) (r : Registry) : Bench := ⟨r, { b.store with instances := r }⟩

theorem Sound.adopt_self (hb : b.Sound) : b.adopt b.registry = b := by
  obtain ⟨r, s⟩ := b
  obtain rfl : s.instances = r := hb.inStep
  rfl

theorem register_known {num : Option Int} (hb : b.Sound) (g : String)
    (hm : (n, l) ∈ b.registry.entries d) (hn : num = none ∨ num = some n) :
    b.register g d l num = (.ok (), b) := by
  have hk := (Registry.number?_eq_some_iff hb.wellFormed).mpr hm
  rcases hn with rfl | rfl <;> simp [register, hk]

/-- Only an explicit number can be refused. -/
theorem register_outcome (hb : b.Sound) (g : String) (d : DomainId) (l : String)
    (num : Option Int) :
    (∃ r, b.register g d l num = (.ok (), b.adopt r) ∧ (b.adopt r).Sound ∧
        Registry.Registered [(d, l, num)] b.registry r) ∨
      (∃ n cause, b.register g d l num = (.error (.registry cause), b) ∧ cause.domain = d ∧
        num = some n ∧ ¬ b.registry.Fits d n l) := by
  by_cases hk : ∃ n, (n, l) ∈ b.registry.entries d ∧ (num = none ∨ num = some n)
  · obtain ⟨n, hm, hn⟩ := hk
    refine Or.inl ⟨b.registry, ?_, ?_, .known hm hn⟩
    · rw [hb.adopt_self]
      exact register_known hb g hm hn
    · rw [hb.adopt_self]
      exact hb
  have hno : ¬ ((b.registry.number? d l).isSome ∧
      (num = none ∨ num = b.registry.number? d l)) := by
    rintro ⟨hs, hnum⟩
    obtain ⟨n, hn⟩ := Option.isSome_iff_exists.mp hs
    rw [hn] at hnum
    exact hk ⟨n, Registry.mem_of_number? hn, hnum⟩
  have hnum : num = none ∨ num = some (num.getD (b.registry.next d)) := by
    cases num <;> simp
  rcases Registry.add_cases hb.wellFormed d l (num.getD (b.registry.next d)) with
    ⟨_, hm⟩ | ⟨ha, hn, hl⟩ | ⟨cause, ha, hd, hf⟩
  · exact absurd ⟨_, hm, hnum⟩ hk
  · refine Or.inl ⟨b.registry.insert d (num.getD (b.registry.next d), l), ?_,
      ⟨Registry.wellFormed_insert hb.wellFormed hn hl, rfl, hb.unsealed⟩, .fresh hn hnum⟩
    simp only [register, if_neg hno, ha]
    simp [Store.addInstance, hb.unsealed, hb.inStep, ha, adopt]
  · refine Or.inr ⟨_, cause, by simp only [register, if_neg hno, ha], hd, ?_, hf⟩
    rcases hnum with hnone | hsome
    · rw [hnone] at hf
      refine absurd (Registry.Fits.of_fresh (fun e he => ?_) fun e he hx => ?_) hf
      · exact Int.ne_of_lt (Registry.lt_next he)
      · exact hk ⟨e.1, hx ▸ he, Or.inl hnone⟩
    · exact hsome

end Bench

end ActivityArchive
