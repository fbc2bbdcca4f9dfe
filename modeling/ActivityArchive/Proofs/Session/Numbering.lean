import ActivityArchive.Proofs.Instance.InOrder
import ActivityArchive.Proofs.Session.Calls

/-!
The numbers of instances over a run. No group asks for a number in an ordered domain, so each of
these domains holds the labels asked for, under the numbers from zero on, in the order in which they
were first asked for, whatever became of the calls (`numbered_in_order`). Numbers once given are
never changed or taken back, in any domain.
-/
namespace ActivityArchive

open Numbering Registry

namespace Bench

variable {b : Bench} {d : DomainId} {l : String} {num : Option Int} {qs : List Request}

/-- Registration inserts the pair, or leaves the registry as it was. What the store says does not
matter for that. -/
theorem registry_register (b : Bench) (group : String) (d : DomainId) (l : String)
    (num : Option Int) :
    (b.register group d l num).2.registry = b.registry ∨
      (b.register group d l num).2.registry =
        b.registry.insert d (num.getD (b.registry.next d), l) := by
  unfold register
  dsimp only
  split
  · exact Or.inl rfl
  · rcases hadd : b.registry.add d l (num.getD (b.registry.next d)) with cause | ⟨_ | _, r⟩
    · exact Or.inl rfl
    · exact Or.inl rfl
    · refine Or.inr ?_
      have hr : r = b.registry.insert d (num.getD (b.registry.next d), l) := by
        unfold Registry.add at hadd
        split at hadd
        · split at hadd <;> simp at hadd
        · split at hadd
          · cases hadd
          · cases hadd
            rfl
      dsimp only
      rw [← hr]
      cases b.store.addInstance d l (num.getD (b.registry.next d)) <;> rfl

/-- A label without a number keeps its entry, or comes after all others. -/
theorem registry_register_none (b : Bench) (group : String) (d : DomainId) (l : String) :
    ((b.register group d l none).2.registry = b.registry ∧
      ∃ n, (n, l) ∈ b.registry.entries d) ∨
      ((b.register group d l none).2.registry = b.registry.insert d (b.registry.next d, l) ∧
        ¬ ∃ n, (n, l) ∈ b.registry.entries d) := by
  unfold register
  dsimp only
  by_cases hl : ∃ n, (n, l) ∈ b.registry.entries d
  · rw [if_pos ⟨number?_isSome_iff.mpr hl, Or.inl rfl⟩]
    exact Or.inl ⟨rfl, hl⟩
  · have hfree : ∀ e ∈ b.registry.entries d, e.2 ≠ l := fun e he hel =>
      hl ⟨e.1, hel ▸ he⟩
    have hadd : b.registry.add d l (b.registry.next d) =
        .ok (true, b.registry.insert d (b.registry.next d, l)) :=
      add_fresh (fun e he => Int.ne_of_lt (lt_next he)) hfree
    rw [if_neg fun hk => hl (number?_isSome_iff.mp hk.1), Option.getD_none, hadd]
    refine Or.inr ⟨?_, hl⟩
    dsimp only
    cases b.store.addInstance d l (b.registry.next d) <;> rfl

end Bench

namespace Registry

variable {r₀ r : Registry} {qs : List Request}

/-- A registry after some requests, since it was `r₀`. -/
structure Follows (r₀ : Registry) (qs : List Request) (r : Registry) : Prop where
  inOrder : InOrder qs r
  extended : r₀.Extends r

/-- A request that leaves the number open in an ordered domain. -/
theorem Follows.register {b : Bench} (h : Follows r₀ qs b.registry) (group : String)
    {d : DomainId} {num : Option Int} (hnum : d ∈ Domain.ordered → num = none) (l : String) :
    Follows r₀ (qs ++ [(d, l, num)]) (b.register group d l num).2.registry := by
  refine ⟨fun d' hd' => ?_, h.extended.trans ?_⟩
  · by_cases hd : d' = d
    · subst hd
      have hmem := h.inOrder.mem_firstCome (l := l) hd'
      rw [hnum hd']
      rcases b.registry_register_none group d' l with ⟨hr, hl⟩ | ⟨hr, hl⟩
      · rw [hr, firstCome_known (hmem.mpr hl)]
        exact h.inOrder d' hd'
      · rw [hr, firstCome_new (mt hmem.mp hl), numbered_concat, entries_insert, if_pos rfl,
          next_of_numbered (h.inOrder d' hd'), h.inOrder d' hd']
    · rw [firstCome_of_ne (Ne.symm hd)]
      rcases b.registry_register group d l num with hr | hr <;> rw [hr]
      · exact h.inOrder d' hd'
      · rw [entries_insert, if_neg hd]
        exact h.inOrder d' hd'
  · rcases b.registry_register group d l num with hr | hr <;> rw [hr]
    · exact .refl _
    · exact extends_insert _ _ _

end Registry

namespace Bench

variable {r₀ : Registry} {qs : List Request} {b : Bench} {c : Catalog}

theorem registry_put (b : Bench) (c : Catalog) (idx : Nat) (label : Option String) (v : Value) :
    (b.put c idx label v).2.registry = b.registry := by
  unfold put
  split
  · rfl
  · split
    · rfl
    · split <;> rfl

theorem follows_emit (h : Follows r₀ qs b.registry) (c : Catalog) {e : Emission}
    (he : ∀ d l num, e = .entry d l num → d ∈ Domain.ordered → num = none) :
    Follows r₀ (qs ++ e.request?.toList) (emit c e b).2.registry := by
  cases e with
  | entry d l num => exact h.register c.group (he d l num rfl) l
  | value idx label v =>
    rw [emit, registry_put]
    simpa [Emission.request?] using h
  | fault cause => simpa [Emission.request?, emit] using h

theorem registry_onCatalog (b : Bench) (out : Attempt CatalogError (Catalog × Store)) :
    (b.onCatalog out).2.2.registry = b.registry := by
  rcases out with ⟨_ | _, c, store⟩ <;> rfl

theorem follows_define (h : Follows r₀ qs b.registry) (c : Catalog) {step : Definition}
    (hstep : ∀ d l num, step = .entry d l num → d ∈ Domain.ordered → num = none) :
    Follows r₀ (qs ++ step.request?.toList) (define step (c, b)).2.2.registry := by
  cases step with
  | entry d l num => exact h.register c.group (hstep d l num rfl) l
  | table | metric idx =>
    simp only [define, registry_onCatalog]
    simpa [Definition.request?] using h

end Bench

/-- A number is asked for only where numbers and labels determine each other. -/
theorem none_of_accepts {B : Int → String → Prop} {d : DomainId} {l : String} {num : Option Int}
    (h : (withBatteries B).Accepts (d, l, num)) (hd : d ∈ Domain.ordered) : num = none := by
  cases num with
  | none => rfl
  | some n =>
    have hfree : ∀ n l, withBatteries B d n l :=
      fun n l => free_ofRules (map_rules B ▸ Domain.ordered_free hd) n l
    have hsame := h.2 rfl 0 "" (hfree 0 "") 1 "" (hfree 1 "")
    exact absurd (hsame.mpr rfl) (by decide)

namespace Group

theorem define_none {g : Group} {view : DefineView} {d : DomainId} {l : String} {num : Option Int}
    (he : .entry d l num ∈ g.spec.define view) (hd : d ∈ Domain.ordered) : num = none := by
  by_cases hg : g = .batteries
  · subst hg
    obtain ⟨x, -, he⟩ := List.mem_flatMap.mp (List.mem_of_ne_of_mem (by simp) he)
    obtain ⟨i, hi, he⟩ := List.mem_mapIdx.mp he
    cases he
    exact absurd hd (by decide)
  · exact none_of_accepts ((spec_keepsTo (fun _ _ => True) hg).define view d l num he) hd

theorem emit_none {g : Group} (view : ExportView) (hs : view.acts.irq.grid.Sized) {d : DomainId}
    {l : String} {num : Option Int} (he : .entry d l num ∈ (g.spec.emit view).2)
    (hd : d ∈ Domain.ordered) : num = none := by
  by_cases hg : g = .batteries
  · subst hg
    obtain ⟨es, hes, he⟩ := List.mem_flatten.mp he
    obtain ⟨i, hi, rfl⟩ := List.mem_mapIdx.mp hes
    rcases List.mem_cons.mp he with he | he
    · cases he
      exact absurd hd (by decide)
    · simp [GroupSpec.ofInstance, List.mem_mapIdx] at he
  · exact none_of_accepts ((spec_keepsTo (fun _ _ => True) hg).emit view hs d l num he) hd

end Group

namespace Session

open Record

variable {r₀ : Registry} {qs : List Request} {w : Session × Store} {s : Session}

/-- A session whose instances follow the requests. -/
structure Follows (r₀ : Registry) (qs : List Request) (s : Session) : Prop where
  registry : r₀.Follows qs s.registry
  sized : s.acts.irq.grid.Sized

theorem Follows.defineGroup (h : Follows r₀ qs w.1) (discovery : List Sample) (g : Group) :
    Follows r₀ (qs ++ groupDefined discovery g w) (Session.defineGroup discovery g w).2.1 := by
  obtain ⟨s, store⟩ := w
  by_cases ht : s.takes g
  · have hsteps : r₀.Follows (qs ++ groupDefined discovery g (s, store))
        (attemptAll Bench.define (g.spec.define ⟨s.acts, s.config, discovery⟩)
          (s.catalogOf g, ⟨s.registry, store⟩)).2.2.registry := by
      rw [groupDefined, if_pos ht]
      refine attemptAll_logged (P := fun qs (x : Catalog × Bench) => r₀.Follows qs x.2.registry)
        h.registry ?_
      rintro step hstep qs ⟨c, b⟩ hb
      exact Bench.follows_define hb c fun d l num he hd => Group.define_none (he ▸ hstep) hd
    rcases hrun : attemptAll Bench.define (g.spec.define ⟨s.acts, s.config, discovery⟩)
      (s.catalogOf g, ⟨s.registry, store⟩) with ⟨_ | _, c, b⟩ <;> rw [hrun] at hsteps <;>
    · simp only [Session.defineGroup, if_pos ht, hrun]
      exact ⟨hsteps, h.sized⟩
  · simpa [Session.defineGroup, groupDefined, ht] using h

theorem Follows.define (h : Follows r₀ qs s) (store : Store) (header : HostHeader)
    (discovery : List Sample) :
    Follows r₀ (qs ++ s.requested (.define store header discovery))
      (s.call (.define store header discovery)) := by
  simp only [requested, call, Session.define]
  rcases s.check .define with e | _
  · simpa using h
  · have hplan : Follows r₀ qs (s.planned header discovery) :=
      ⟨h.registry, Activities.sized_scan _ discovery h.sized⟩
    have hall : Follows r₀ (qs ++ logAll (Session.defineGroup discovery) (groupDefined discovery)
        Group.all (s.planned header discovery, store)) (attemptAll (Session.defineGroup discovery)
        Group.all (s.planned header discovery, store)).2.1 :=
      attemptAll_logged (P := fun qs (w : Session × Store) => Follows r₀ qs w.1) hplan
        fun g _ qs w hw => hw.defineGroup discovery g
    dsimp only
    split
    · rename_i s' store' hrun
      rw [show attemptAll (Session.defineGroup discovery) Group.all
        (s.planned header discovery, store) = (.ok (), s', store') from hrun] at hall
      exact ⟨hall.registry, hall.sized⟩
    · exact hall

theorem Follows.exportGroup (h : Follows r₀ qs w.1) (g : Group) :
    Follows r₀ (qs ++ groupExported g w) (Session.exportGroup g w).2.1 := by
  rw [exportGroup_eq]
  refine ⟨?_, ((Group.spec_selfContained g).later (w.1.view g) h.sized).irq.sized h.sized⟩
  refine attemptAll_logged (P := fun qs (b : Bench) => r₀.Follows qs b.registry) h.registry ?_
  intro e hmem qs b hb
  exact Bench.follows_emit hb _ fun d l num he hd =>
    Group.emit_none (w.1.view g) h.sized (he ▸ hmem) hd

theorem Follows.exportRecord (h : Follows r₀ qs s) (store : Store) (sample : Sample) :
    Follows r₀ (qs ++ s.requested (.exportRecord store sample))
      (s.call (.exportRecord store sample)) := by
  rcases hcheck : s.check .exportRecord with e | _
  · simpa [requested, call, Session.exportRecord, hcheck] using h
  · have hload : Follows r₀ qs (s.loaded sample) :=
      ⟨h.registry, (Activities.later_load s.acts s.slot sample).irq.sized h.sized⟩
    have hall : Follows r₀ (qs ++ logAll Session.exportGroup groupExported s.defined
        (s.loaded sample, store)) (attemptAll Session.exportGroup s.defined
        (s.loaded sample, store)).2.1 :=
      attemptAll_logged (P := fun qs (w : Session × Store) => Follows r₀ qs w.1) hload
        fun g _ qs w hw => hw.exportGroup g
    simp only [requested, call, hcheck]
    rw [exportRecord_eq hcheck]
    rcases hrun : attemptAll Session.exportGroup s.defined (s.loaded sample, store) with
      ⟨_ | _, s', store'⟩ <;> rw [hrun] at hall
    · exact hall
    · dsimp only
      cases store'.write sample.timestamp with
      | error cause => exact hall
      | ok store'' => exact ⟨hall.registry, hall.sized⟩

theorem Follows.call (h : Follows r₀ qs s) (c : Call) :
    Follows r₀ (qs ++ s.requested c) (s.call c) := by
  cases c with
  | define store header discovery => exact h.define store header discovery
  | exportRecord store sample => exact h.exportRecord store sample

theorem Follows.calls (h : Follows r₀ qs s) (calls : List Call) :
    Follows r₀ (qs ++ s.requestedByAll calls) (calls.foldl Session.call s) := by
  induction calls generalizing qs s with
  | nil => simpa [requestedByAll] using h
  | cons c calls ih =>
    rw [requestedByAll, ← List.append_assoc]
    exact ih (h.call c)

theorem follows_initial (config : Config) : Follows .empty [] (initial config) :=
  ⟨⟨inOrder_empty, .refl _⟩, GridBuffer.sized_empty⟩

theorem follows_after (config : Config) (calls : List Call) :
    Follows .empty ((initial config).requestedByAll calls) (after config calls) :=
  (follows_initial config).calls calls

/-- After any calls on a new session, and whatever their outcome, an ordered domain holds every
label that was asked for, with the numbers from zero on in the order of the first requests; and
further calls leave every label of any domain its number. -/
theorem numbered_in_order (config : Config) (calls more : List Call) :
    (∀ d ∈ Domain.ordered, (after config calls).registry.entries d =
        numbered (firstCome ((initial config).requestedByAll calls) d)) ∧
      ∀ d l n, (after config calls).registry.number? d l = some n →
        (after config (calls ++ more)).registry.number? d l = some n := by
  have h := follows_after config calls
  refine ⟨h.registry.inOrder, fun d l n hn => ?_⟩
  have hmore : Follows (after config calls).registry ((initial config).requestedByAll calls)
      (after config calls) := ⟨⟨h.registry.inOrder, .refl _⟩, h.sized⟩
  rw [after_append]
  exact (hmore.calls more).registry.extended.number? hn

end Session

end ActivityArchive
