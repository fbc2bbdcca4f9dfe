import ActivityArchive.Proofs.Activity.Reordering
import ActivityArchive.Proofs.Group.Locality
import Mathlib.Logic.Function.Conjugate

/-!
The metrics of a group commute. Readings of different metrics change different fields, different
records or different counts, so that what is built of them is the same up to order
(`GroupSpec.Commutes`). Only the total of a line named like the sum would meet the sum of all lines.
-/
namespace ActivityArchive

open Activities Record

/-- No interrupt line is named like the sum of all of them. -/
def Registry.Unsummed (r : Registry) : Prop :=
  ∀ e ∈ r.entries Domain.interrupt, e.2 ≠ GroupSpec.sumLine

structure GroupSpec.Commutes (g : GroupSpec) : Prop where
  absorb : ∀ view idx readings a b, Rearranged view.slot a b →
    Rearranged view.slot (g.absorb view idx readings a) (g.absorb view idx readings b)
  comm : ∀ registry s i j xs ys a, Registry.Unsummed registry → i < g.metrics.length →
    j < g.metrics.length → i ≠ j → Rearranged s a a →
    Rearranged s (g.absorb ⟨g.metrics, registry, s⟩ j ys
      (g.absorb ⟨g.metrics, registry, s⟩ i xs a))
      (g.absorb ⟨g.metrics, registry, s⟩ i xs (g.absorb ⟨g.metrics, registry, s⟩ j ys a))
  finish : ∀ s a b, Rearranged s a b → Rearranged s (g.finish s a) (g.finish s b)

namespace GroupSpec

variable {a b : Activities} {s : Slot} {g : GroupSpec}

/-- Changes one after the other, of what a reading changes. -/
def changeAll (change : Reading → Option (Activities → Activities)) (readings : List Reading)
    (acts : Activities) : Activities :=
  readings.foldl (fun acts r => (change r).getD id acts) acts

section ChangeAll

variable {change : Reading → Option (Activities → Activities)} {r : Reading}
  {readings before after : List Reading}

theorem changeAll_of_none (h : ∀ r ∈ readings, change r = none) :
    changeAll change readings = id := by
  funext acts
  induction readings generalizing acts with
  | nil => rfl
  | cons r readings ih =>
    have hr := h r List.mem_cons_self
    have hrest := ih (fun x hx => h x (List.mem_cons_of_mem r hx)) acts
    simpa only [changeAll, List.foldl_cons, hr, Option.getD_none, id] using hrest

theorem changeAll_without (h : change r = none) :
    changeAll change (before ++ r :: after) = changeAll change (before ++ after) := by
  funext acts
  simp only [changeAll, List.foldl_append, List.foldl_cons, h, Option.getD_none, id]

end ChangeAll

/-- A group that takes readings one by one. -/
theorem commutes_of_changes
    (change : ImportView → Nat → Reading → Option (Activities → Activities))
    (habsorb : ∀ view idx readings, ∃ xs,
      g.absorb view idx readings = changeAll (change view idx) xs)
    (hchange : ∀ view idx x f, change view idx x = some f →
      ∀ a b, Rearranged view.slot a b → Rearranged view.slot (f a) (f b))
    (hcomm : ∀ registry s i j x y f f' a, Registry.Unsummed registry → i < g.metrics.length →
      j < g.metrics.length → i ≠ j → change ⟨g.metrics, registry, s⟩ i x = some f →
      change ⟨g.metrics, registry, s⟩ j y = some f' → Rearranged s a a →
      Rearranged s (f' (f a)) (f (f' a)))
    (hfinish : ∀ s a b, Rearranged s a b → Rearranged s (g.finish s a) (g.finish s b)) :
    g.Commutes := by
  have hstep : ∀ view idx x a b, Rearranged view.slot a b →
      Rearranged view.slot ((change view idx x).getD id a) ((change view idx x).getD id b) := by
    intro view idx x a b h
    cases hx : change view idx x with
    | none => exact h
    | some f => exact hchange view idx x f hx a b h
  refine ⟨fun view idx readings a b h => ?_, fun registry s i j xs ys a hsum hi hj hne h => ?_,
    hfinish⟩
  · obtain ⟨xs, hxs⟩ := habsorb view idx readings
    rw [hxs]
    exact foldl_related h fun x _ => hstep view idx x
  · obtain ⟨xs', hxs⟩ := habsorb ⟨g.metrics, registry, s⟩ i xs
    obtain ⟨ys', hys⟩ := habsorb ⟨g.metrics, registry, s⟩ j ys
    rw [hxs, hys]
    refine foldl_comm_related (R := Rearranged s) Rearranged.trans
      (fun x _ => hstep ⟨g.metrics, registry, s⟩ i x)
        (fun y _ => hstep ⟨g.metrics, registry, s⟩ j y)
      (fun x _ y _ a ha => ?_) h
    cases hx : change ⟨g.metrics, registry, s⟩ i x with
    | none => exact hstep ⟨g.metrics, registry, s⟩ j y a a ha
    | some f =>
      cases hy : change ⟨g.metrics, registry, s⟩ j y with
      | none => exact hchange _ i x f hx a a ha
      | some f' => exact hcomm registry s i j x y f f' a hsum hi hj hne hx hy ha

section Single

variable {k : Single}

theorem absorbSingle_eq_changeAll (k : Single) (s : Slot)
    (change : Reading → Option (k.Rec → k.Rec)) (readings : List Reading) :
    absorbSingle k s change readings =
      changeAll (fun r => (change r).map (updateSingle s k)) readings := by
  funext acts
  refine foldl_related (R := Eq) rfl ?_
  rintro r - acts _ rfl
  dsimp only
  cases change r <;> rfl

/-- A group of one record, of which different metrics change different fields. -/
theorem commutes_single (change : ImportView → Nat → Reading → Option (k.Rec → k.Rec))
    (habsorb : ∀ view idx readings, ∃ xs,
      g.absorb view idx readings = absorbSingle k view.slot (change view idx) xs)
    (hcomm : ∀ view i j x y f f', i < g.metrics.length → j < g.metrics.length → i ≠ j →
      change view i x = some f → change view j y = some f' → Function.Commute f f')
    (hfinish : ∀ s, g.finish s = id) : g.Commutes := by
  refine commutes_of_changes
    (fun view idx r => (change view idx r).map (updateSingle view.slot k))
    (fun view idx readings => ?_) (fun view idx x F hF a b h => ?_)
    (fun registry s i j x y F F' a _ hi hj hne hF hF' h => ?_) fun s a b h => hfinish s ▸ h
  · obtain ⟨xs, hxs⟩ := habsorb view idx readings
    exact ⟨xs, hxs.trans (absorbSingle_eq_changeAll k view.slot _ xs)⟩
  · obtain ⟨f, -, rfl⟩ := Option.map_eq_some_iff.mp hF
    exact h.setPart (t := .single k) (Activity.Alike.update (h (.single k)) 0 f)
  · obtain ⟨f, hf, rfl⟩ := Option.map_eq_some_iff.mp hF
    obtain ⟨f', hf', rfl⟩ := Option.map_eq_some_iff.mp hF'
    have hswap := hcomm _ i j x y f f' hi hj hne hf hf'
    exact h.comm (t := .single k) (F := fun x => Activity.update x s 0 f')
      (G := fun x => Activity.update x s 0 f) (fun _ => rfl) (fun _ => rfl)
      (Activity.alike_update_comm (a.single k) s fun _ => hswap.symm)

end Single

section Position

variable {k : Multi}

/-- The change of the record at a position. -/
def changeRecord (k : Multi) (s : Slot) (c : Nat × (k.Rec → k.Rec)) :
    Activities → Activities :=
  updateMulti s k c.1 c.2

/-- A group of records by position. A metric gives the position and the change of a reading, and
different metrics change different fields of one record. -/
theorem commutes_position (hk : k.itemKey? = none)
    (place : ImportView → Nat → Reading → Option (Nat × (k.Rec → k.Rec)))
    (habsorb : ∀ view idx readings, ∃ xs, g.absorb view idx readings =
      changeAll (fun r => (place view idx r).map (changeRecord k view.slot)) xs)
    (hcomm : ∀ view i j x y n f f', view.metrics = g.metrics → i < g.metrics.length →
      j < g.metrics.length → i ≠ j → place view i x = some (n, f) →
      place view j y = some (n, f') → Function.Commute f f')
    (hfinish : ∀ s a b, Rearranged s a b → Rearranged s (g.finish s a) (g.finish s b)) :
    g.Commutes := by
  refine commutes_of_changes
    (fun view idx r => (place view idx r).map (changeRecord k view.slot)) habsorb
    (fun view idx x F hF a b h => ?_)
      (fun registry s i j x y F F' a _ hi hj hne hF hF' h => ?_) hfinish
  · obtain ⟨⟨n, f⟩, -, rfl⟩ := Option.map_eq_some_iff.mp hF
    have hmulti : Activity.Alike view.slot (a.multi k) (b.multi k) :=
      (Multi.rearranged_of_position hk).mp (h (.multi k))
    have hchanged : Multi.Rearranged view.slot k ((a.multi k).update view.slot n f)
      ((b.multi k).update view.slot n f) :=
      (Multi.rearranged_of_position hk).mpr (hmulti.update n f)
    exact h.setPart (t := .multi k) hchanged
  · obtain ⟨⟨n, f⟩, hf, rfl⟩ := Option.map_eq_some_iff.mp hF
    obtain ⟨⟨n', f'⟩, hf', rfl⟩ := Option.map_eq_some_iff.mp hF'
    refine h.comm (t := .multi k) (F := fun x => Activity.update x s n' f')
      (G := fun x => Activity.update x s n f) (fun _ => rfl) (fun _ => rfl)
      ((Multi.rearranged_of_position hk).mpr
        (Activity.alike_update_comm (a.multi k) s fun hn => ?_))
    subst hn
    exact (hcomm _ i j x y _ f f' rfl hi hj hne hf hf').symm

end Position

/-- A group of items whose labels lead to a key, and whose metrics change different fields, none of
them the key. -/
structure Keyed.Orderless {k : Multi} {T : Type} (g : Keyed k) (key : k.Rec → T)
    (rename : T → k.Rec → k.Rec) : Prop where
  owner : ∀ label owns claim, g.owner? label = some (owns, claim) →
    ∃ t, claim = rename t ∧ ∀ r, owns r = true ↔ key r = t
  key_rename : ∀ t r, key (rename t r) = t
  key_assign : ∀ i f, g.assign? i = some f → ∀ x r, key (f x r) = key r
  rename_assign : ∀ i f, g.assign? i = some f → ∀ t x, Function.Commute (rename t) (f x)
  assign : ∀ i j f f', i ≠ j → g.assign? i = some f → g.assign? j = some f' →
    ∀ x y, Function.Commute (f x) (f' y)

section Keyed

variable {k : Multi} {g : Keyed k} {T : Type} {key : k.Rec → T} {rename : T → k.Rec → k.Rec}
  {view : ImportView} {r : Reading}

/-- Which record a reading goes to, and what it changes there. -/
def Keyed.change? (g : Keyed k) (view : ImportView) (idx : Nat) (r : Reading) :
    Option ((k.Rec → Bool) × (k.Rec → k.Rec)) :=
  match g.assign? idx, (view.label? idx r.1).bind g.owner?, view.word64? idx r.2 with
  | some assign, some (owns, claim), some x => some (owns, fun r => assign x (claim r))
  | _, _, _ => none

/-- The change of the record that a reading goes to. -/
def Keyed.change (s : Slot) (c : (k.Rec → Bool) × (k.Rec → k.Rec)) (acts : Activities) :
    Activities :=
  acts.updateMulti k fun a => a.updateBy s c.1 c.2

theorem Keyed.absorb_eq (g : Keyed k) (view : ImportView) (idx : Nat) (readings : List Reading) :
    g.spec.absorb view idx readings =
      changeAll (fun r => (g.change? view idx r).map (Keyed.change view.slot)) readings := by
  cases hassign : g.assign? idx with
  | none =>
    rw [Keyed.absorb_of_skip hassign, changeAll_of_none]
    intro r _
    simp only [Keyed.change?, hassign, Option.map_none]
  | some assign =>
    rw [Keyed.absorb_of_assign hassign]
    funext acts
    refine foldl_related (R := Eq) rfl ?_
    rintro r - acts _ rfl
    simp only [Keyed.absorbReading, Keyed.change?, hassign]
    cases (view.label? idx r.1).bind g.owner? with
    | none => rfl
    | some c => cases view.word64? idx r.2 <;> rfl

theorem Keyed.Orderless.change? (h : g.Orderless key rename) {idx : Nat}
    {c : (k.Rec → Bool) × (k.Rec → k.Rec)} (hc : g.change? view idx r = some c) :
    ∃ f t x, g.assign? idx = some f ∧ (∀ r, c.1 r = true ↔ key r = t) ∧
    c.2 = f x ∘ rename t := by
  unfold Keyed.change? at hc
  split at hc
  · rename_i f owns claim x hassign howner _
    cases hc
    obtain ⟨label, -, hlabel⟩ := Option.bind_eq_some_iff.mp howner
    obtain ⟨t, rfl, howns⟩ := h.owner label owns claim hlabel
    exact ⟨f, t, x, hassign, howns, rfl⟩
  · cases hc

theorem Keyed.Orderless.key_change (h : g.Orderless key rename) {idx : Nat}
    {f : UInt64 → k.Rec → k.Rec} (hf : g.assign? idx = some f) (x : UInt64)
    (t : T) (r : k.Rec) :
    key ((f x ∘ rename t) r) = t :=
  (h.key_assign idx f hf x _).trans (h.key_rename t r)

/-- Changes of the record of one key by different metrics. -/
theorem Keyed.Orderless.comm (h : g.Orderless key rename) {i j : Nat}
    {f f' : UInt64 → k.Rec → k.Rec}
    (hne : i ≠ j) (hf : g.assign? i = some f) (hf' : g.assign? j = some f')
    (x y : UInt64) (t : T) :
    Function.Commute (f x ∘ rename t) (f' y ∘ rename t) := by
  have hrename := h.rename_assign i f hf t x
  have hrename' := h.rename_assign j f' hf' t y
  have hassign := h.assign i j f f' hne hf hf' x y
  exact .comp_left (.comp_right hassign hrename.symm)
    (.comp_right hrename' (Function.Commute.refl (rename t)))

theorem commutes_keyed {tag : T → String ⊕ UInt32} (htag : Function.Injective tag)
    (hk : k.itemKey? = some fun r => tag (key r)) (h : g.Orderless key rename) :
    g.spec.Commutes := by
  -- What a reading changes, in terms of the tag of the key.
  have hplace :
    ∀ {view : ImportView} {idx : Nat} {r : Reading} {c : (k.Rec → Bool) × (k.Rec → k.Rec)},
      g.change? view idx r = some c → ∃ f t x, g.assign? idx = some f ∧
      c.2 = f x ∘ rename t ∧
        (∀ r, c.1 r = true ↔ tag (key r) = tag t) ∧ ∀ r, tag (key (c.2 r)) = tag t := by
    intro view idx r c hc
    obtain ⟨f, t, x, hf, howns, hchange⟩ := h.change? hc
    refine ⟨f, t, x, hf, hchange, fun r => (howns r).trans htag.eq_iff.symm, fun r => ?_⟩
    rw [hchange, h.key_change hf]
  refine commutes_of_changes
    (fun view idx r => (g.change? view idx r).map (Keyed.change view.slot))
    (fun view idx readings => ⟨readings, g.absorb_eq view idx readings⟩)
    (fun view idx x F hF a b hab => ?_) (fun registry s i j x y F F' a _ _ _ hne hF hF' ha => ?_)
    fun _ _ _ hab => hab
  · obtain ⟨c, hc, rfl⟩ := Option.map_eq_some_iff.mp hF
    obtain ⟨f, t, x, -, -, howns, hkey⟩ := hplace hc
    have hmulti := (Multi.rearranged_of_key hk).mp (hab (.multi k))
    exact hab.setPart (t := .multi k)
      ((Multi.rearranged_of_key hk).mpr (hmulti.updateBy howns hkey))
  · obtain ⟨c, hc, rfl⟩ := Option.map_eq_some_iff.mp hF
    obtain ⟨c', hc', rfl⟩ := Option.map_eq_some_iff.mp hF'
    obtain ⟨f, t, x, hf, hchange, howns, hkey⟩ := hplace hc
    obtain ⟨f', t', x', hf', hchange', howns', hkey'⟩ := hplace hc'
    have hmulti := (Multi.rearranged_of_key hk).mp (ha (.multi k))
    refine ha.comm (t := .multi k) (F := fun x => Activity.updateBy x s c'.1 c'.2)
      (G := fun x => Activity.updateBy x s c.1 c.2) (fun _ => rfl) (fun _ => rfl)
      ((Multi.rearranged_of_key hk).mpr
        (hmulti.listed.updateBy_comm howns' hkey' howns hkey fun ht => ?_))
    obtain rfl := htag ht
    rw [hchange, hchange']
    exact (h.comm hne hf hf' x x' t').symm

end Keyed

/-- The host is not part of any record. -/
theorem commutes_host : host.Commutes := by
  have hkeep : ∀ view idx readings a b, Rearranged view.slot a b →
      Rearranged view.slot (host.absorb view idx readings a) (host.absorb view idx readings b) := by
    intro view idx readings a b hab t
    by_cases ht : t = .header
    · subst ht
      trivial
    · have htouch := local_host.absorb view idx readings
      rw [htouch.part_ne ht, htouch.part_ne ht]
      exact hab t
  refine ⟨hkeep, fun registry s i j xs ys a _ _ _ _ ha t => ?_, fun _ _ _ hab => hab⟩
  by_cases ht : t = .header
  · subst ht
    trivial
  · have hfirst := local_host.absorb ⟨host.metrics, registry, s⟩ i xs
    have hsecond := local_host.absorb ⟨host.metrics, registry, s⟩ j ys
    rw [hsecond.part_ne ht, hfirst.part_ne ht, hfirst.part_ne ht, hsecond.part_ne ht]
    exact ha t

section Interrupts

variable {registry : Registry} {idx : Nat} {n : Int} {number : Option Int}
  {cell : Nat × String}

/-- Which metric a count comes from, by its row and its line. -/
def metricOf (cell : Nat × String) : Nat :=
  if cell.1 ≠ 0 then cpuLineMetric else if cell.2 = sumLine then sumMetric else lineMetric

theorem label?_of_unsummed (h : registry.Unsummed) {line : String}
    (hline : registry.label? Domain.interrupt n = some line) : line ≠ sumLine := by
  obtain ⟨e, he, rfl⟩ := Option.map_eq_some_iff.mp hline
  exact h e (List.mem_of_find?_eq_some he)

theorem metricOf_cellOf (h : registry.Unsummed) (hidx : idx < interruptMetrics.length)
    (hcell : cellOf? ⟨interruptMetrics, registry, s⟩ idx number = some cell) :
    metricOf cell = idx := by
  have hidx : idx = sumMetric ∨ idx = lineMetric ∨ idx = cpuLineMetric := by
    simp only [interruptMetrics, List.length_cons, List.length_nil] at hidx
    simp only [sumMetric, lineMetric, cpuLineMetric]
    omega
  rcases hidx with rfl | rfl | rfl
  · cases hcell
    rfl
  · obtain ⟨line, hline, rfl⟩ := Option.map_eq_some_iff.mp hcell
    have hne : line ≠ sumLine := by
      obtain ⟨n, -, hlabel⟩ := Option.bind_eq_some_iff.mp hline
      exact label?_of_unsummed h hlabel
    simp [metricOf, hne]
  · obtain ⟨c, -, rfl⟩ := Option.map_eq_some_iff.mp hcell
    simp [metricOf]

/-- The count that a reading gives, with its row and its line. -/
def countOf? (view : ImportView) (idx : Nat) (r : Reading) : Option ((Nat × String) × UInt64) :=
  match view.word64? idx r.2, cellOf? view idx r.1 with
  | some count, some cell => some (cell, count)
  | _, _ => none

def changeCount (s : Slot) (c : (Nat × String) × UInt64) (acts : Activities) : Activities :=
  { acts with irq := absorbCell acts.irq s c.1.1 c.1.2 c.2 }

theorem absorb_interrupts (view : ImportView) (idx : Nat) (readings : List Reading) :
    interrupts.absorb view idx readings =
      changeAll (fun r => (countOf? view idx r).map (changeCount view.slot)) readings := by
  funext acts
  refine foldl_related (R := Eq) rfl ?_
  rintro ⟨number, v⟩ - acts _ rfl
  simp only [countOf?]
  cases view.word64? idx v with
  | none => rfl
  | some count => cases cellOf? view idx number <;> rfl

theorem commutes_interrupts : interrupts.Commutes := by
  have hcell : ∀ {view idx r c}, countOf? view idx r = some c →
      cellOf? view idx r.1 = some c.1 := by
    intro view idx r c hc
    unfold countOf? at hc
    split at hc
    · cases hc
      assumption
    · cases hc
  refine commutes_of_changes (fun view idx r => (countOf? view idx r).map (changeCount view.slot))
    (fun view idx readings => ⟨readings, absorb_interrupts view idx readings⟩)
    (fun view idx x F hF a b h => ?_)
    (fun registry s i j x y F F' a hsum hi hj hne hF hF' h => ?_) fun _ _ _ h => h
  · obtain ⟨c, -, rfl⟩ := Option.map_eq_some_iff.mp hF
    have hirq : Interrupts.Rearranged view.slot a.irq b.irq := h .interrupts
    exact h.setPart (t := .interrupts) (hirq.absorbCell c.1.1 c.1.2 c.2)
  · obtain ⟨c, hc, rfl⟩ := Option.map_eq_some_iff.mp hF
    obtain ⟨c', hc', rfl⟩ := Option.map_eq_some_iff.mp hF'
    have hirq : Interrupts.Rearranged s a.irq a.irq := h .interrupts
    have hcells : c'.1 ≠ c.1 := by
      intro he
      have hi' := metricOf_cellOf hsum hi (hcell hc)
      have hj' := metricOf_cellOf hsum hj (hcell hc')
      exact hne (hi'.symm.trans (he ▸ hj'))
    exact h.comm (t := .interrupts) (F := fun x : Interrupts => absorbCell x s c'.1.1 c'.1.2 c'.2)
      (G := fun x : Interrupts => absorbCell x s c.1.1 c.1.2 c.2) (fun _ => rfl) (fun _ => rfl)
      (hirq.alike.showing.absorbCell_comm hcells)

end Interrupts

end GroupSpec

end ActivityArchive
