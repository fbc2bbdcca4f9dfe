import ActivityArchive.Proofs.Instance.Bijection
import ActivityArchive.Instance.Domains

/-!
Which numbers the instances of a domain may have. A domain is either free, and numbers its labels in
the order in which they come, or it is numbered by a rule that determines label and number from each
other.
-/
namespace ActivityArchive

/-- A domain, a label, and a number where one is asked for. -/
abbrev Request := DomainId × String × Option Int

/-- The pairs of number and label that each domain may hold. -/
abbrev Numbering := DomainId → Int → String → Prop

namespace Numbering

/-- Numbers and labels determine each other. -/
def OneToOne (R : Int → String → Prop) : Prop :=
  ∀ n l, R n l → ∀ m k, R m k → (n = m ↔ l = k)

/-- Whether an instance may be asked for under a number, or under whatever number comes next. -/
def Admits (N : Numbering) (d : DomainId) (l : String) : Option Int → Prop
  | some n => N d n l
  | none => ∀ n, N d n l

/-- Domains without a rule are free. -/
def ofRules (rules : List (DomainId × (Int → String → Prop))) : Numbering :=
  fun d n l => ∀ rule ∈ rules, rule.1 = d → rule.2 n l

theorem free_ofRules {rules : List (DomainId × (Int → String → Prop))} {d : DomainId}
    (h : d ∉ rules.map (·.1)) (n : Int) (l : String) : ofRules rules d n l := by
  intro rule hr hd
  exact absurd (List.mem_map_of_mem hr) (hd ▸ h)

theorem ofRules_eq {rules : List (DomainId × (Int → String → Prop))} {d : DomainId}
    {R : Int → String → Prop} (hnd : (rules.map (·.1)).Nodup) (hr : (d, R) ∈ rules) :
    ofRules rules d = R := by
  funext n l
  apply propext
  constructor
  · intro h
    exact h (d, R) hr rfl
  · intro h rule hrule hd
    induction rules with
    | nil => simp at hr
    | cons x rules ih =>
      rw [List.map_cons, List.nodup_cons] at hnd
      rcases List.mem_cons.mp hr with rfl | hr' <;> rcases List.mem_cons.mp hrule with rfl | hrule'
      · exact h
      · exact absurd (List.mem_map_of_mem hrule') (hd ▸ hnd.1)
      · subst hd
        exact absurd (List.mem_map_of_mem (f := (·.1)) hr') hnd.1
      · exact ih hnd.2 hr' hrule'

end Numbering

namespace Registry

variable {r : Registry} {N : Numbering} {d : DomainId} {n : Int} {l : String}

def Conforms (r : Registry) (N : Numbering) : Prop := ∀ d, ∀ e ∈ r.entries d, N d e.1 e.2

theorem conforms_empty (N : Numbering) : empty.Conforms N := by
  intro d e he
  simp at he

theorem conforms_insert (h : r.Conforms N) (hn : N d n l) : (r.insert d (n, l)).Conforms N := by
  intro d' e he
  rcases mem_entries_insert.mp he with he | ⟨rfl, rfl⟩
  · exact h d' e he
  · exact hn

theorem Conforms.fits (h : r.Conforms N) (hn : N d n l) (h1 : Numbering.OneToOne (N d)) :
    r.Fits d n l := fun e he => h1 _ _ (h d e he) _ _ hn

end Registry

end ActivityArchive
