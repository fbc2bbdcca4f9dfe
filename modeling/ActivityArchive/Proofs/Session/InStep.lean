import ActivityArchive.Proofs.Session.Reachability
import ActivityArchive.Proofs.Store.Calls

/-!
The registry of a session and the instances of its store. Every step of definition and of export
either changes neither or changes both in the same way, and a step that fails changes neither. So a
store that only its session writes to lists the instances of the session (`registries_in_step`).
-/
namespace ActivityArchive

namespace Store

variable {s s' : Store}

/-- A change that leaves the instances alone, and an open store open. -/
structure SameInstances (s s' : Store) : Prop where
  instances : s'.instances = s.instances
  isSealed : s'.isSealed = s.isSealed

theorem SameInstances.refl (s : Store) : SameInstances s s := ⟨rfl, rfl⟩

theorem sameInstances_addMetric {d : Descriptor} {handle : Handle}
    (h : s.addMetric d = .ok (handle, s')) : SameInstances s s' := by
  rcases addMetric_cases h with ⟨rfl, -⟩ | ⟨rfl, -⟩
  · exact .refl s'
  · exact ⟨rfl, rfl⟩

theorem sameInstances_put {handle : Handle} {label : Option String} {text : String}
    (h : s.put handle label text = .ok s') : SameInstances s s' := by
  obtain ⟨m, kept, -, -, rfl⟩ := put_cases h
  exact ⟨rfl, rfl⟩

theorem sameInstances_write {timestamp : Int} (h : s.write timestamp = .ok s') :
    SameInstances s s' := by
  rw [write_cases h]
  exact ⟨rfl, rfl⟩

end Store

namespace Bench

variable {b b' : Bench} {c : Catalog}

/-- An open store that holds the instances of the registry. -/
structure InStep (b : Bench) : Prop where
  instances : b.store.instances = b.registry
  unsealed : b.store.isSealed = false

theorem InStep.same {store : Store} (h : b.InStep) (hs : Store.SameInstances b.store store) :
    InStep { b with store } :=
  ⟨hs.instances.trans h.instances, hs.isSealed.trans h.unsealed⟩

/-- What the registry takes as new is new to the store as well, so the second copy is never
refused. -/
theorem InStep.addInstance (h : b.InStep) {d : DomainId} {l : String} {n : Int} {r : Registry}
    (hadd : b.registry.add d l n = .ok (true, r)) :
    b.store.addInstance d l n = .ok { b.store with instances := r } := by
  rw [Store.addInstance, if_neg (by simp [h.unsealed]), h.instances, hadd]

theorem InStep.register (h : b.InStep) (group : String) (d : DomainId) (l : String)
    (num : Option Int) : (b.register group d l num).2.InStep := by
  unfold Bench.register
  dsimp only
  split
  · exact h
  · rcases hadd : b.registry.add d l (num.getD (b.registry.next d)) with cause | ⟨_ | _, r⟩
    · exact h
    · exact h
    · dsimp only
      rw [h.addInstance hadd]
      exact ⟨rfl, h.unsealed⟩

theorem InStep.put (h : b.InStep) (c : Catalog) (idx : Nat) (label : Option String) (v : Value) :
    (b.put c idx label v).2.InStep := by
  unfold Bench.put
  split
  · exact h
  · split
    · exact h
    · rename_i handle _
      rcases hput : b.store.put handle label v.text with cause | store
      · exact h
      · exact h.same (Store.sameInstances_put hput)

theorem InStep.emit (h : b.InStep) (c : Catalog) (e : Emission) : (Bench.emit c e b).2.InStep := by
  cases e with
  | entry d label number => exact h.register c.group d label number
  | value idx label v => exact h.put c idx label v
  | fault cause => exact h

/-- Definition of metrics only adds metrics. -/
theorem sameInstances_defineStep (idx : Nat) (s : Catalog × Store) :
    Store.SameInstances s.2 (Catalog.defineStep idx s).2.2 := by
  rcases Catalog.defineStep_cases idx s with hsame | ⟨d, handle, store, -, hadd, hset⟩
  · rw [hsame]
    exact .refl s.2
  · rw [hset]
    exact Store.sameInstances_addMetric hadd

theorem sameInstances_define (c : Catalog) (store : Store) :
    Store.SameInstances store (c.define store).2.2 := by
  have hsteps : Store.SameInstances store
      (attemptAll Catalog.defineStep (List.range c.size) (c, store)).2.2 := by
    refine attemptAll_preserves (P := fun s : Catalog × Store => Store.SameInstances store s.2)
      (.refl store) ?_
    intro idx _ s hs
    have hstep := sameInstances_defineStep idx s
    exact ⟨hstep.instances.trans hs.instances, hstep.isSealed.trans hs.isSealed⟩
  unfold Catalog.define
  split
  · exact .refl store
  · rcases hrun : attemptAll Catalog.defineStep (List.range c.size) (c, store) with
      ⟨_ | _, c', store'⟩ <;> rw [hrun] at hsteps <;> exact hsteps

theorem onCatalog_snd (b : Bench) (out : Attempt CatalogError (Catalog × Store)) :
    (b.onCatalog out).2.2 = { b with store := out.2.2 } := by
  rcases out with ⟨_ | _, c, store⟩ <;> rfl

theorem InStep.define (h : b.InStep) (step : Definition) (c : Catalog) :
    (Bench.define step (c, b)).2.2.InStep := by
  cases step with
  | table =>
    show (b.onCatalog (c.define b.store)).2.2.InStep
    rw [onCatalog_snd]
    exact h.same (sameInstances_define c b.store)
  | metric idx =>
    show (b.onCatalog (Catalog.defineStep idx (c, b.store))).2.2.InStep
    rw [onCatalog_snd]
    exact h.same (sameInstances_defineStep idx (c, b.store))
  | entry d label number => exact h.register c.group d label number

end Bench

namespace Session

variable {config : Config} {w : Session × Store}

/-- A session and a store that list the same instances. -/
def InStep (w : Session × Store) : Prop := Bench.InStep ⟨w.1.registry, w.2⟩

theorem InStep.defineGroup (h : InStep w) (discovery : List Sample) (g : Group) :
    InStep (Session.defineGroup discovery g w).2 := by
  obtain ⟨s, store⟩ := w
  have hsteps : (attemptAll Bench.define (g.spec.define ⟨s.acts, s.config, discovery⟩)
      (s.catalogOf g, ⟨s.registry, store⟩)).2.2.InStep := by
    refine attemptAll_preserves (P := fun x : Catalog × Bench => x.2.InStep) h ?_
    intro step _ x hx
    exact hx.define step x.1
  by_cases ht : s.takes g
  · rcases hrun : attemptAll Bench.define (g.spec.define ⟨s.acts, s.config, discovery⟩)
      (s.catalogOf g, ⟨s.registry, store⟩) with ⟨_ | _, c, b⟩ <;> rw [hrun] at hsteps <;>
    · simp only [Session.defineGroup, if_pos ht, hrun]
      exact hsteps
  · simp only [Session.defineGroup, if_neg ht]
    exact h

theorem InStep.define (h : InStep w) (header : Record.HostHeader) (discovery : List Sample) :
    InStep (w.1.define w.2 header discovery).2 := by
  unfold Session.define
  rcases w.1.check .define with cause | _
  · exact h
  · have hgroups : InStep (attemptAll (Session.defineGroup discovery) Group.all
        (w.1.planned header discovery, w.2)).2 :=
      attemptAll_preserves (P := InStep) h fun g _ _ hw => hw.defineGroup discovery g
    dsimp only
    split
    · rename_i s store hrun
      have hrun : attemptAll (Session.defineGroup discovery) Group.all
        (w.1.planned header discovery, w.2) = (.ok (), s, store) := hrun
      rw [hrun] at hgroups
      exact hgroups
    · exact hgroups

theorem InStep.exportGroup (h : InStep w) (g : Group) : InStep (Session.exportGroup g w).2 := by
  rw [exportGroup_eq]
  exact attemptAll_preserves (P := Bench.InStep) h fun e _ _ hb => hb.emit (w.1.catalogOf g) e

theorem InStep.exportRecord (h : InStep w) (x : Sample) :
    InStep (w.1.exportRecord w.2 x).2 := by
  rcases hcheck : w.1.check .exportRecord with cause | _
  · rw [Session.exportRecord, hcheck]
    exact h
  · have hgroups : InStep (attemptAll Session.exportGroup w.1.defined (w.1.loaded x, w.2)).2 :=
      attemptAll_preserves (P := InStep) h fun g _ _ hw => hw.exportGroup g
    rw [exportRecord_eq hcheck]
    rcases hrun : attemptAll Session.exportGroup w.1.defined (w.1.loaded x, w.2) with
      ⟨_ | _, s, store⟩ <;> rw [hrun] at hgroups
    · exact hgroups
    · dsimp only
      rcases hwrite : store.write x.timestamp with cause | store'
      · exact hgroups
      · exact Bench.InStep.same hgroups (Store.sameInstances_write hwrite)

theorem Reachable.inStep (h : Reachable config w) : InStep w := by
  induction h with
  | new hs =>
    rw [new_eq] at hs
    cases hs
    exact ⟨rfl, rfl⟩
  | define header discovery _ ih => exact ih.define header discovery
  | exportRecord sample _ ih => exact ih.exportRecord sample

/-- Whatever a session defined and exported, and whichever of its calls failed, it knows the domains
and the instances of its store, in the same order. -/
theorem registries_in_step (config : Config) (w : Session × Store) (h : Reachable config w) :
    w.1.registry.inUse = w.2.instances.inUse ∧
      ∀ d, w.1.registry.entries d = w.2.instances.entries d := by
  have hsame : w.2.instances = w.1.registry := h.inStep.instances
  rw [hsame]
  exact ⟨rfl, fun _ => rfl⟩

/-- A session that knows a disk and a battery, after an export of one more disk that failed at
another battery. -/
def plugged : Session × Store :=
  let seen : Sample := { Sample.blank with
    disk := [{ major := 8 }, { major := 8 }], bat := [{ batId := 0 }] }
  let next : Sample := { Sample.blank with
    disk := [{ major := 8 }, { major := 9 }], bat := [{ batId := 1 }] }
  let w := ((initial {}).define .empty {} [seen]).2
  (w.1.exportRecord w.2 next).2

/-- The disk that came before the export failed is in both places. -/
theorem plugged_in_step :
    Reachable {} plugged ∧ plugged.2.pending ≠ [] ∧
      plugged.1.registry.entries Domain.disk = [(0, "dev8-0"), (1, "dev9-0")] ∧
      plugged.1.registry.inUse = plugged.2.instances.inUse ∧
      ∀ d, plugged.1.registry.entries d = plugged.2.instances.entries d := by
  have hreach : Reachable {} plugged := .exportRecord _ (.define _ _ (.new (new_eq {})))
  exact ⟨hreach, by decide, by decide, registries_in_step {} plugged hreach⟩

end Session

end ActivityArchive
