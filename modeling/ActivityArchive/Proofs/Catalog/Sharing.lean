import ActivityArchive.Proofs.Catalog.Handles
import ActivityArchive.Proofs.Store.Calls

/-!
Catalogs that share one store. A store keeps every metric in its place and no two under one
identifier, and a catalog keeps every handle that it holds; so a handle leads to the metric it was
given for however the calls on the catalogs and on the store come after each other, and whichever of
them fail. Two entries hold one handle where their metrics are the same, and nowhere else.
-/
namespace ActivityArchive

namespace Store

variable {s s' : Store} {c : Call}

theorem Sound.metrics_grow (h : s.Sound) (hc : s.attempt c = .ok s') :
    s.metrics <+: s'.metrics := by
  cases c with
  | addMetric d =>
    rcases hadd : s.addMetric d with _ | ⟨handle, s₁⟩ <;> rw [Store.attempt, hadd] at hc <;>
      cases hc
    rcases addMetric_cases hadd with ⟨rfl, -⟩ | ⟨rfl, -, -⟩
    · exact List.prefix_refl _
    · exact List.prefix_append _ _
  | addInstance domain label number =>
    rcases addInstance_cases h.wellFormed hc with rfl | ⟨rfl, -, -⟩ <;> exact List.prefix_refl _
  | put handle label text =>
    obtain ⟨m, kept, -, -, rfl⟩ := put_cases hc
    exact List.prefix_refl _
  | write timestamp =>
    obtain rfl := write_cases hc
    exact List.prefix_refl _
  | close =>
    cases hc
    exact List.prefix_refl _

theorem Sound.call (h : s.Sound) (c : Call) :
    (s.call c).Sound ∧ s.metrics <+: (s.call c).metrics := by
  rw [Store.call]
  split
  · rename_i s' hc
    exact ⟨(h.attempt hc).1, h.metrics_grow hc⟩
  · exact ⟨h, List.prefix_refl _⟩

/-- An identifier stands for one handle. -/
theorem Sound.handle_unique (h : s.Sound) {i j : Handle} {d d' : Descriptor}
    (hi : s.metrics[i]? = some d) (hj : s.metrics[j]? = some d') (hid : d.id = d'.id) : i = j := by
  have hi' : (s.metrics.map (·.id))[i]? = some d.id := by rw [List.getElem?_map, hi]; rfl
  have hj' : (s.metrics.map (·.id))[j]? = some d.id := by rw [List.getElem?_map, hj, hid]; rfl
  obtain ⟨hlt, -⟩ := List.getElem?_eq_some_iff.mp hi'
  exact (List.getElem?_inj hlt h.nodup).mp (hi'.trans hj'.symm)

/-- A metric is taken while the store is open and knows no other one under its identifier. -/
theorem Sound.addMetric_ok_iff (h : s.Sound) (d : Descriptor) :
    (∃ r, s.addMetric d = .ok r) ↔ s.isSealed = false ∧ ∀ m ∈ s.metrics, m.id = d.id →
    m = d := by
  constructor
  · rintro ⟨⟨handle, s'⟩, hadd⟩
    have hopen : s.isSealed = false := by
      cases hs : s.isSealed with
      | false => rfl
      | true => simp [addMetric, hs] at hadd
    refine ⟨hopen, fun m hm hid => ?_⟩
    rcases addMetric_cases hadd with ⟨-, hknown⟩ | ⟨-, -, hfresh⟩
    · obtain ⟨i, hi⟩ := List.mem_iff_getElem?.mp hm
      obtain rfl := h.handle_unique hi hknown hid
      exact Option.some.inj (hi.symm.trans hknown)
    · exact absurd (List.mem_map.mpr ⟨m, hm, hid⟩) hfresh
  · rintro ⟨hopen, hid⟩
    obtain ⟨handle, s', hadd, -⟩ := addMetric_ok hopen hid
    exact ⟨_, hadd⟩

end Store

theorem getElem?_of_initial {A : Type} {xs ys : List A} {i : Nat} {x : A} (h : xs <+: ys)
    (hx : xs[i]? = some x) : ys[i]? = some x := by
  obtain ⟨hi, rfl⟩ := List.getElem?_eq_some_iff.mp hx
  exact List.prefix_iff_getElem?.mp h i hi

namespace Catalog

variable {c : Catalog} {w w' w'' : Catalog × Store} {idx : Nat} {h : Handle}

/-- Handles that lead to their metrics, in a store with one metric for an identifier. -/
structure Faithful (w : Catalog × Store) : Prop where
  truthful : w.1.Truthful w.2.metrics
  sound : w.2.Sound

/-- Every handle is still held, and every metric is in its place. -/
structure Advances (w w' : Catalog × Store) : Prop where
  descriptors : w'.1.descriptors = w.1.descriptors
  handles : ∀ i h, w.1.handle? i = some h → w'.1.handle? i = some h
  metrics : w.2.metrics <+: w'.2.metrics

theorem Advances.refl (w : Catalog × Store) : Advances w w :=
  ⟨rfl, fun _ _ h => h, List.prefix_refl _⟩

theorem Advances.trans (h : Advances w w') (h' : Advances w' w'') : Advances w w'' where
  descriptors := h'.descriptors.trans h.descriptors
  handles i j hj := h'.handles i j (h.handles i j hj)
  metrics := h.metrics.trans h'.metrics

theorem Truthful.of_longer {ms ms' : List Descriptor} (hc : c.Truthful ms) (hms : ms <+: ms') :
    c.Truthful ms' where
  length := hc.length
  lookup i j hj := by
    obtain ⟨d, hd, hmet⟩ := hc.lookup i j hj
    exact ⟨d, hd, getElem?_of_initial hms hmet⟩

theorem defineStep_of_handle (hh : w.1.handle? idx = some h) : (defineStep idx w).2 = w := by
  rcases defineStep_cases idx w with hsame | ⟨d, handle, store, hd, -, -⟩
  · exact hsame
  · rw [Catalog.defineStep, defineMetric_of_handle hd hh]

/-- A metric that is registered gets a handle where there was none. -/
theorem Faithful.defineStep (hw : Faithful w) (idx : Nat) :
    Faithful (Catalog.defineStep idx w).2 ∧ Advances w (Catalog.defineStep idx w).2 := by
  rcases defineStep_cases idx w with hsame | ⟨d, handle, store, hd, hadd, hnext⟩
  · rw [hsame]
    exact ⟨hw, .refl w⟩
  cases hheld : w.1.handle? idx with
  | some h =>
    rw [defineStep_of_handle hheld]
    exact ⟨hw, .refl w⟩
  | none =>
    have hcall : w.2.attempt (.addMetric d) = .ok store := by rw [Store.attempt, hadd]; rfl
    have hmetrics := hw.sound.metrics_grow hcall
    have hmetric : store.metrics[handle]? = some d := by
      rcases Store.addMetric_cases hadd with ⟨rfl, hknown⟩ | ⟨rfl, rfl, -⟩
      · exact hknown
      · simp
    have hidx : idx < w.1.handles.length := by
      rw [hw.truthful.length]
      exact (List.getElem?_eq_some_iff.mp hd).1
    have hset := handle?_set (h := handle) hidx
    rw [hnext]
    refine ⟨⟨⟨?_, fun i j hj => ?_⟩, (hw.sound.attempt hcall).1⟩, rfl,
      fun i j hj => ?_, hmetrics⟩
    · rw [List.length_set]
      exact hw.truthful.length
    · rw [hset] at hj
      split at hj
      · rename_i hi
        cases hj
        exact ⟨d, hi ▸ hd, hmetric⟩
      · exact (hw.truthful.of_longer hmetrics).lookup i j hj
    · have hne : idx ≠ i := by
        rintro rfl
        rw [hheld] at hj
        cases hj
      rw [hset, if_neg hne, hj]

theorem Faithful.close (hw : Faithful w) :
    Faithful (w.1.close, w.2) ∧ Advances w (w.1.close, w.2) :=
  ⟨⟨⟨hw.truthful.length, hw.truthful.lookup⟩, hw.sound⟩, rfl, fun _ _ h => h,
    List.prefix_refl _⟩

/-- A single metric is defined where it has its handle already or the catalog and the store take it.
-/
theorem Faithful.defineMetric_ok_iff (hw : Faithful w) (idx : Nat) :
    (∃ r, w.1.defineMetric idx w.2 = .ok r) ↔ ∃ d, w.1.descriptors[idx]? = some d ∧
      ((w.1.handle? idx).isSome ∨ w.1.isClosed = false ∧ w.2.isSealed = false ∧
        ∀ m ∈ w.2.metrics, m.id = d.id → m = d) := by
  constructor
  · rintro ⟨⟨h, c', s'⟩, hdef⟩
    obtain ⟨d, hd, ⟨hheld, -⟩ | ⟨-, hopen, -, hadd, -⟩⟩ := defineMetric_cases hdef
    · exact ⟨d, hd, Or.inl (by rw [hheld]; rfl)⟩
    · exact ⟨d, hd, Or.inr ⟨hopen, (hw.sound.addMetric_ok_iff d).mp ⟨_, hadd⟩⟩⟩
  · rintro ⟨d, hd, htaken⟩
    cases hh : w.1.handle? idx with
    | some h => exact ⟨_, defineMetric_of_handle hd hh⟩
    | none =>
      obtain ⟨hclosed, hsealed, hid⟩ := htaken.resolve_left (by simp [hh])
      obtain ⟨⟨h, s'⟩, hadd⟩ := (hw.sound.addMetric_ok_iff d).mpr ⟨hsealed, hid⟩
      exact ⟨_, defineMetric_of_addMetric hd hh hclosed hsealed hadd⟩

/-- A handle that is given out is held. -/
theorem Truthful.handle_given {s s' : Store} {c' : Catalog} {ms : List Descriptor}
    (hc : c.Truthful ms)
    (hdef : c.defineMetric idx s = .ok (h, c', s')) : c'.handle? idx = some h := by
  obtain ⟨d, hd, ⟨hheld, rfl, -⟩ | ⟨-, -, -, -, rfl⟩⟩ := defineMetric_cases hdef
  · exact hheld
  · have hidx : idx < c.handles.length := by
      rw [hc.length]
      exact (List.getElem?_eq_some_iff.mp hd).1
    exact (handle?_set hidx idx).trans (if_pos rfl)

theorem Truthful.handle_of_defineStep {ms : List Descriptor} (hc : w.1.Truthful ms) (idx : Nat)
    (hok : (Catalog.defineStep idx w).1 = .ok ()) :
    ((Catalog.defineStep idx w).2.1.handle? idx).isSome := by
  unfold Catalog.defineStep at hok ⊢
  rcases hdef : w.1.defineMetric idx w.2 with e | ⟨h, c', s'⟩ <;> rw [hdef] at hok
  · cases hok
  · rw [hc.handle_given hdef]
    rfl

theorem Faithful.defineAll (hw : Faithful w) (is : List Nat) :
    Faithful (attemptAll Catalog.defineStep is w).2 ∧
      Advances w (attemptAll Catalog.defineStep is w).2 := by
  refine attemptAll_preserves (P := fun v => Faithful v ∧ Advances w v) ⟨hw, .refl w⟩ ?_
  intro idx _ v hv
  obtain ⟨hfaithful, hadvances⟩ := hv.1.defineStep idx
  exact ⟨hfaithful, hv.2.trans hadvances⟩

/-- Definition as a whole, also where it ends early. -/
theorem Faithful.define (hw : Faithful w) :
    Faithful (w.1.define w.2).2 ∧ Advances w (w.1.define w.2).2 := by
  have hrun := hw.defineAll (List.range w.1.size)
  unfold Catalog.define
  split
  · exact ⟨hw, .refl w⟩
  · split
    · rename_i c store hall
      rw [hall] at hrun
      obtain ⟨hclose, hadvances⟩ := hrun.1.close
      exact ⟨hclose, hrun.2.trans hadvances⟩
    · exact hrun

/-- Where all steps succeed, each leaves its handle, and none of the later ones takes it away. -/
theorem Faithful.handles_of_defineAll (hw : Faithful w) (is : List Nat)
    (hok : (attemptAll Catalog.defineStep is w).1 = .ok ()) :
    ∀ idx ∈ is, ((attemptAll Catalog.defineStep is w).2.1.handle? idx).isSome := by
  induction is generalizing w with
  | nil => simp
  | cons i is ih =>
    obtain ⟨hfaithful, -⟩ := hw.defineStep i
    have hheld := hw.truthful.handle_of_defineStep i
    rcases hstep : Catalog.defineStep i w with ⟨_ | _, v⟩ <;> rw [hstep] at hfaithful hheld
    · rw [attemptAll_cons_error hstep] at hok
      cases hok
    · rw [attemptAll_cons_ok hstep] at hok ⊢
      intro idx hidx
      rcases List.mem_cons.mp hidx with rfl | hidx
      · obtain ⟨h, hh⟩ := Option.isSome_iff_exists.mp (hheld rfl)
        exact Option.isSome_iff_exists.mpr ⟨h, (hfaithful.defineAll is).2.handles idx h hh⟩
      · exact ih hfaithful hok idx hidx

theorem Faithful.handles_of_define (hw : Faithful w) (hok : (w.1.define w.2).1 = .ok ()) (idx : Nat)
    (hidx : idx < w.1.size) : ((w.1.define w.2).2.1.handle? idx).isSome := by
  have hall := hw.handles_of_defineAll (List.range w.1.size)
  unfold Catalog.define at hok ⊢
  split at hok
  · cases hok
  · rename_i hopen
    rw [if_neg hopen]
    rcases hrun : attemptAll Catalog.defineStep (List.range w.1.size)
      w with ⟨_ | _, c, store⟩ <;>
      simp only [hrun] at hok hall ⊢
    · cases hok
    · exact hall trivial idx (List.mem_range.mpr hidx)

end Catalog

/-- Catalogs that define their metrics in one store. -/
structure Sharing where
  catalogs : List Catalog
  store : Store

namespace Sharing

/-- A call on one of the catalogs, by its position, or on the store itself. -/
inductive Action
  | define (k : Nat)
  | defineMetric (k idx : Nat)
  | close (k : Nat)
  | call (c : Store.Call)

/-- Catalogs over tables of any descriptors, and a new store. -/
def initial (tables : List (String × List Descriptor)) : Sharing :=
  ⟨tables.map fun (group, ds) => .new group ds, .empty⟩

def onCatalog (w : Sharing) (k : Nat) (f : Catalog × Store → Catalog × Store) : Sharing :=
  match w.catalogs[k]? with
  | some c => ⟨w.catalogs.set k (f (c, w.store)).1, (f (c, w.store)).2⟩
  | none => w

/-- What an action leaves behind, whether it succeeds or not. -/
def perform (w : Sharing) : Action → Sharing
  | .define k => w.onCatalog k fun v => (v.1.define v.2).2
  | .defineMetric k idx => w.onCatalog k fun v => (Catalog.defineStep idx v).2
  | .close k => w.onCatalog k fun v => (v.1.close, v.2)
  | .call c => { w with store := w.store.call c }

def after (tables : List (String × List Descriptor)) (actions : List Action) : Sharing :=
  actions.foldl perform (initial tables)

/-- The handle that a catalog holds at an index. -/
def handle? (w : Sharing) (k i : Nat) : Option Handle := w.catalogs[k]?.bind (·.handle? i)

/-- The descriptor at an index of a table. -/
def descriptor? (tables : List (String × List Descriptor)) (k i : Nat) : Option Descriptor :=
  tables[k]?.bind (·.2[i]?)

variable {tables : List (String × List Descriptor)} {w w' w'' : Sharing} {k i : Nat} {h : Handle}

structure Faithful (tables : List (String × List Descriptor)) (w : Sharing) : Prop where
  tables : w.catalogs.map (·.descriptors) = tables.map (·.2)
  truthful : ∀ c ∈ w.catalogs, c.Truthful w.store.metrics
  sound : w.store.Sound

structure Advances (w w' : Sharing) : Prop where
  handles : ∀ k i h, w.handle? k i = some h → w'.handle? k i = some h
  metrics : w.store.metrics <+: w'.store.metrics

theorem Advances.refl (w : Sharing) : Advances w w := ⟨fun _ _ _ h => h, List.prefix_refl _⟩

theorem Advances.trans (h : Advances w w') (h' : Advances w' w'') : Advances w w'' :=
  ⟨fun k i j hj => h'.handles k i j (h.handles k i j hj), h.metrics.trans h'.metrics⟩

theorem faithful_initial (tables : List (String × List Descriptor)) :
    Faithful tables (initial tables) where
  tables := by rw [initial, List.map_map]; rfl
  truthful c hc := by
    obtain ⟨⟨group, ds⟩, -, rfl⟩ := List.mem_map.mp hc
    exact Catalog.truthful_new group ds _
  sound := Store.sound_empty

/-- What one catalog does to itself and the store is felt by the others only as more metrics. -/
theorem Faithful.onCatalog (hw : Faithful tables w) (k : Nat)
    {f : Catalog × Store → Catalog × Store}
    (hf : ∀ v, Catalog.Faithful v → Catalog.Faithful (f v) ∧ Catalog.Advances v (f v)) :
    Faithful tables (w.onCatalog k f) ∧ Advances w (w.onCatalog k f) := by
  unfold Sharing.onCatalog
  cases hc : w.catalogs[k]? with
  | none => exact ⟨hw, .refl w⟩
  | some c =>
    obtain ⟨hk, rfl⟩ := List.getElem?_eq_some_iff.mp hc
    obtain ⟨hfaithful, hadvances⟩ :=
      hf (w.catalogs[k], w.store) ⟨hw.truthful _ (List.getElem_mem hk), hw.sound⟩
    refine ⟨⟨?_, fun c' hc' => ?_, hfaithful.sound⟩, fun j i h hj => ?_, hadvances.metrics⟩
    · have hk' : k < (w.catalogs.map (·.descriptors)).length := by rwa [List.length_map]
      have hsame : (f (w.catalogs[k], w.store)).1.descriptors =
          (w.catalogs.map (·.descriptors))[k] := by
        rw [hadvances.descriptors, List.getElem_map]
      rw [← hw.tables, List.map_set, hsame, List.set_getElem_self]
    · rcases List.mem_or_eq_of_mem_set hc' with hc' | rfl
      · exact (hw.truthful c' hc').of_longer hadvances.metrics
      · exact hfaithful.truthful
    · unfold Sharing.handle? at hj ⊢
      rw [List.getElem?_set]
      by_cases hjk : k = j
      · subst hjk
        rw [hc] at hj
        rw [if_pos rfl, if_pos hk]
        exact hadvances.handles i h hj
      · rw [if_neg hjk, hj]

theorem Faithful.perform (hw : Faithful tables w) (a : Action) :
    Faithful tables (w.perform a) ∧ Advances w (w.perform a) := by
  cases a with
  | define k => exact hw.onCatalog k fun v hv => hv.define
  | defineMetric k idx => exact hw.onCatalog k fun v hv => hv.defineStep idx
  | close k => exact hw.onCatalog k fun v hv => hv.close
  | call c =>
    obtain ⟨hsound, hmetrics⟩ := hw.sound.call c
    exact ⟨⟨hw.tables, fun c hc => (hw.truthful c hc).of_longer hmetrics, hsound⟩,
      fun _ _ _ h => h, hmetrics⟩

theorem Faithful.performAll (hw : Faithful tables w) (actions : List Action) :
    Faithful tables (actions.foldl Sharing.perform w) ∧
    Advances w (actions.foldl Sharing.perform w) :=
  List.foldlRecOn (motive := fun v => Faithful tables v ∧ Advances w v) actions Sharing.perform
    ⟨hw, .refl w⟩ fun _ hv a _ => ⟨(hv.1.perform a).1, hv.2.trans (hv.1.perform a).2⟩

/-- A catalog keeps the table that it was made from. -/
theorem Faithful.descriptor (hw : Faithful tables w) {c : Catalog} (hc : w.catalogs[k]? = some c)
    (i : Nat) : descriptor? tables k i = c.descriptors[i]? := by
  have htable : (tables.map (·.2))[k]? = some c.descriptors := by
    rw [← hw.tables, List.getElem?_map, hc]
    rfl
  rw [List.getElem?_map] at htable
  obtain ⟨table, hk, hds⟩ := Option.map_eq_some_iff.mp htable
  rw [descriptor?, hk, Option.bind_some, hds]

theorem Faithful.lookup (hw : Faithful tables w) (hh : w.handle? k i = some h) :
    ∃ d, descriptor? tables k i = some d ∧ w.store.metrics[h]? = some d := by
  obtain ⟨c, hc, hi⟩ := Option.bind_eq_some_iff.mp hh
  obtain ⟨d, hd, hmetric⟩ := (hw.truthful c (List.mem_of_getElem? hc)).lookup i h hi
  exact ⟨d, (hw.descriptor hc i).trans hd, hmetric⟩

theorem Faithful.catalog (hw : Faithful tables w) {c : Catalog} (hc : w.catalogs[k]? = some c) :
    Catalog.Faithful (c, w.store) :=
  ⟨hw.truthful c (List.mem_of_getElem? hc), hw.sound⟩

theorem handle?_onCatalog {c : Catalog} (hc : w.catalogs[k]? = some c)
    (f : Catalog × Store → Catalog × Store) (i : Nat) :
    (w.onCatalog k f).handle? k i = (f (c, w.store)).1.handle? i := by
  obtain ⟨hk, -⟩ := List.getElem?_eq_some_iff.mp hc
  simp only [Sharing.onCatalog, hc, Sharing.handle?, List.getElem?_set_self hk, Option.bind_some]

theorem Faithful.handle_given (hw : Faithful tables w) {c c' : Catalog} {s' : Store}
    (hc : w.catalogs[k]? = some c) (hdef : c.defineMetric i w.store = .ok (h, c', s')) :
    (w.perform (.defineMetric k i)).handle? k i = some h := by
  have hstep : Catalog.defineStep i (c, w.store) = (.ok (), c', s') := by
    rw [Catalog.defineStep, hdef]
  rw [Sharing.perform, handle?_onCatalog hc, hstep]
  exact (hw.catalog hc).truthful.handle_given hdef

/-- Handles that stand for what the tables say: each leads to a metric equal to its descriptor, no
two metrics share an identifier, and a handle is shared exactly by the entries of one metric. Which
metrics get a handle is told by the catalog and the store, and a definition that succeeds leaves
none out. -/
structure Agrees (tables : List (String × List Descriptor)) (w : Sharing) : Prop where
  ids : (w.store.metrics.map (·.id)).Nodup
  leads : ∀ k i h, w.handle? k i = some h →
    ∃ d, descriptor? tables k i = some d ∧ w.store.metrics[h]? = some d
  shared_iff : ∀ k i k' i', (∃ h, w.handle? k i = some h ∧ w.handle? k' i' = some h) ↔
    (w.handle? k i).isSome ∧ (w.handle? k' i').isSome ∧
    descriptor? tables k i = descriptor? tables k' i'
  accepts_iff : ∀ k c, w.catalogs[k]? = some c →
    ∀ i, (∃ r, c.defineMetric i w.store = .ok r) ↔
    ∃ d, descriptor? tables k i = some d ∧ ((w.handle? k i).isSome ∨
      c.isClosed = false ∧ w.store.isSealed = false ∧ ∀ m ∈ w.store.metrics, m.id = d.id →
      m = d)
  gives : ∀ k c, w.catalogs[k]? = some c →
    ∀ i h c' s', c.defineMetric i w.store = .ok (h, c', s') →
    (w.perform (.defineMetric k i)).handle? k i = some h
  defines : ∀ k c, w.catalogs[k]? = some c → (c.define w.store).1 = .ok () →
    ∀ i, (descriptor? tables k i).isSome → ((w.perform (.define k)).handle? k i).isSome

theorem Faithful.agrees (hw : Faithful tables w) : Agrees tables w := by
  refine ⟨hw.sound.nodup, fun k i h hh => hw.lookup hh, fun k i k' i' => ⟨?_, ?_⟩,
    fun k c hc i => ?_, fun k c hc i h c' s' hdef =>
      hw.handle_given hc hdef, fun k c hc hok i hi => ?_⟩
  · rintro ⟨h, hh, hh'⟩
    obtain ⟨d, hd, hmetric⟩ := hw.lookup hh
    obtain ⟨d', hd', hmetric'⟩ := hw.lookup hh'
    exact ⟨by rw [hh]; rfl, by rw [hh']; rfl, by rw [hd, hd', ← hmetric, hmetric']⟩
  · rintro ⟨hheld, hheld', hentry⟩
    obtain ⟨h, hh⟩ := Option.isSome_iff_exists.mp hheld
    obtain ⟨h', hh'⟩ := Option.isSome_iff_exists.mp hheld'
    obtain ⟨d, hd, hmetric⟩ := hw.lookup hh
    obtain ⟨d', hd', hmetric'⟩ := hw.lookup hh'
    have hsame : d = d' := by
      rw [hd, hd'] at hentry
      exact Option.some.inj hentry
    have heq : h = h' := hw.sound.handle_unique hmetric hmetric' (congrArg Descriptor.id hsame)
    exact ⟨h, hh, heq ▸ hh'⟩
  · have hhandle : w.handle? k i = c.handle? i := by rw [Sharing.handle?, hc, Option.bind_some]
    rw [hw.descriptor hc, hhandle]
    exact (hw.catalog hc).defineMetric_ok_iff i
  · rw [hw.descriptor hc] at hi
    obtain ⟨d, hd⟩ := Option.isSome_iff_exists.mp hi
    rw [Sharing.perform, handle?_onCatalog hc]
    exact (hw.catalog hc).handles_of_define hok i (List.getElem?_eq_some_iff.mp hd).1

/-- After any actions the handles stand for what the tables say, and whatever is done next, they are
held as they are and lead to the same metrics. -/
theorem handles_stay_truthful (tables : List (String × List Descriptor))
    (actions later : List Action) :
    Agrees tables (after tables actions) ∧
      Advances (after tables actions) (after tables (actions ++ later)) := by
  have hfaithful := ((faithful_initial tables).performAll actions).1
  refine ⟨hfaithful.agrees, ?_⟩
  rw [after, after, List.foldl_append]
  exact (hfaithful.performAll later).2

end Sharing

end ActivityArchive
