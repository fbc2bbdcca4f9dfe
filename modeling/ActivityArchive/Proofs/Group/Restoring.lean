import ActivityArchive.Proofs.Session.Transcript

/-!
Groups of one record that restore it. What such a group wrote of a record, taken in again by a blank
slot, is a record there, or nothing (`Restores`).
-/
namespace ActivityArchive

open Activities GroupSpec Record

namespace GroupSpec

variable {k : Single}

def applyAll (s : Slot) (fs : List (k.Rec → k.Rec)) (acts : Activities) : Activities :=
  fs.foldl (fun acts f => GroupSpec.updateSingle s k f acts) acts

/-- The changes of a record one after the other; the first finds a blank one. -/
def changed (fs : List (k.Rec → k.Rec)) : Option k.Rec :=
  fs.foldl (fun r f => some (f (r.getD default))) none

theorem absorbSingle_eq (s : Slot) (change : Reading → Option (k.Rec → k.Rec))
    (readings : List Reading) (acts : Activities) :
    absorbSingle k s change readings acts = applyAll s (readings.filterMap change) acts := by
  induction readings generalizing acts with
  | nil => rfl
  | cons r readings ih =>
    unfold absorbSingle at ih ⊢
    rw [List.foldl_cons, ih]
    cases hr : change r with
    | none => rw [List.filterMap_cons_none hr]
    | some f =>
      rw [List.filterMap_cons_some hr]
      rfl

theorem holds_applyAll {s : Slot} {acts : Activities} {fs : List (k.Rec → k.Rec)}
    {r : Option k.Rec} (h : (acts.single k).Holds s r.toList) :
    ((applyAll s fs acts).single k).Holds s
      (fs.foldl (fun r f => some (f (r.getD default))) r).toList := by
  induction fs generalizing acts r with
  | nil => exact h
  | cons f fs ih =>
    refine ih ?_
    have hstep : (GroupSpec.updateSingle s k f acts).single k = (acts.single k).update s 0 f :=
      Groups.single_setSingle _ _ _
    rw [hstep]
    exact h.update_zero f

theorem changed_cons (f : k.Rec → k.Rec) (fs : List (k.Rec → k.Rec)) :
    changed (f :: fs) = some (fs.foldl (fun r f => f r) (f default)) := by
  have key : ∀ (fs : List (k.Rec → k.Rec)) (r : k.Rec),
      fs.foldl (fun r f => some (f (r.getD default))) (some r) =
        some (fs.foldl (fun r f => f r) r) := by
    intro fs
    induction fs with
    | nil => intro r; rfl
    | cons f fs ih => intro r; exact ih (f r)
  exact key fs (f default)

theorem changed_eq (fs : List (k.Rec → k.Rec)) :
    changed fs = if fs.isEmpty then none else some (fs.foldl (fun r f => f r) default) := by
  cases fs with
  | nil => rfl
  | cons f fs => exact changed_cons f fs

end GroupSpec

theorem accepts_of_kind {view : ImportView} {idx : Nat} {v : Value}
    (h : view.metrics[idx]?.map (·.kind) = some v.kind) : view.accepts idx v = true := by
  obtain ⟨m, hm, hk⟩ := Option.map_eq_some_iff.mp h
  simp [ImportView.accepts, hm, hk]

/-- A group that restores what it wrote of a record, as far as `out` says. -/
structure Restores (g : Group) (k : Single) (F : Writer k) (defined : Nat → Bool)
    (fits : k.Rec → Prop) (out : k.Rec → Option k.Rec) : Prop where
  part : g.part = .single k
  writes : g.spec.Writes k F
  back : ∀ r, g.ReadsBack (fun _ => true) (F defined r)
  taken : ∀ {st r acts} registry, st.Carries g (F defined r) → fits r →
    (acts.single k).Holds .curr [] →
    ((Session.takeAll registry (Store.gather ((g.readings st (fun _ => true) (F defined r)).map
      fun x => (g.idOf x.1, x.2))) acts).single k).Holds .curr (out r).toList

variable {g : Group} {k : Single} {F : Writer k} {defined : Nat → Bool} {fits : k.Rec → Prop}
  {out : k.Rec → Option k.Rec}

theorem Restores.imp {fits' : k.Rec → Prop} (h : Restores g k F defined fits out)
    (hfits : ∀ r, fits' r → fits r) : Restores g k F defined fits' out :=
  ⟨h.part, h.writes, h.back, fun registry hcarries hr => h.taken registry hcarries (hfits _ hr)⟩

/-- A group whose readings come in columns, and which takes in every column as some changes. -/
theorem restores_of_columns (columns : k.Rec → List (Nat × List Reading))
    (change : ImportView → Nat × List Reading → List (k.Rec → k.Rec))
    (hpart : g.part = .single k) (hwrites : g.spec.Writes k F)
    (hback : ∀ r, g.ReadsBack (fun _ => true) (F defined r))
    (hcols : ∀ {st r}, st.Carries g (F defined r) → g.readings st (fun _ => true)
      (F defined r) =
      (columns r).flatMap fun c => c.2.map fun x => (c.1, x))
    (hshape : ∀ r, g.Columnar (columnShape (columns r)))
    (habsorb : ∀ view c acts, g.spec.absorb view c.1 c.2 acts =
      applyAll view.slot (change view c) acts)
    (hout : ∀ registry r, fits r →
      changed ((columns r).flatMap (change ⟨g.metrics, registry, .curr⟩)) = out r) :
    Restores g k F defined fits out where
  part := hpart
  writes := hwrites
  back := hback
  taken := by
    intro st r acts registry hcarries hfits hblank
    have happly : ∀ (cs : List (Nat × List Reading)) acts,
        cs.foldl (fun acts c => g.spec.absorb ⟨g.metrics, registry, .curr⟩ c.1 c.2 acts) acts =
          applyAll .curr (cs.flatMap (change ⟨g.metrics, registry, .curr⟩)) acts := by
      intro cs
      induction cs with
      | nil => intro acts; rfl
      | cons c cs ih =>
        intro acts
        rw [List.foldl_cons, ih, habsorb, List.flatMap_cons, applyAll, applyAll, applyAll,
          List.foldl_append]
    rw [hcols hcarries, Session.takeAll_gather (hshape r), happly, ← hout registry r hfits]
    exact holds_applyAll (r := none) hblank

/-- Values of some metrics are read as columns of one reading each. -/
theorem readings_values {C : Type} (g : Group) (st : Store) (value : C → Value)
    (xs : List (C × Nat)) :
    g.readings st (fun _ => true) (xs.map fun x => .value x.2 none (value x.1)) =
      (xs.map fun x => (x.2, [((none : Option Int), value x.1)])).flatMap fun c =>
        c.2.map fun x => (c.1, x) := by
  rw [Group.readings, List.filterMap_map, List.flatMap_map, List.filterMap_eq_flatMap_toList]
  refine List.flatMap_congr fun x _ => ?_
  simp

theorem columnar_values {C : Type} {xs : List (C × Nat)} (value : C → Value)
    (hnd : (xs.map (·.2)).Nodup) (hlt : ∀ x ∈ xs, x.2 < g.metrics.length) :
    g.Columnar (columnShape (xs.map fun x => (x.2, [((none : Option Int), value x.1)]))) := by
  have hshape : columnShape (xs.map fun x => (x.2, [((none : Option Int), value x.1)])) =
      xs.map fun x => (x.2, 1) := by
    rw [columnShape, List.map_map]
    rfl
  rw [hshape]
  refine ⟨?_, fun c hc => ?_⟩
  · rw [List.map_map]
    exact hnd
  · obtain ⟨x, hx, rfl⟩ := List.mem_map.mp hc
    exact ⟨hlt x hx, Nat.one_ne_zero⟩

theorem Activities.single_of_part {t : Part} {a b : Activities} (ht : t = .single k)
    (h : a.part t = b.part t) : a.single k = b.single k := by
  subst ht
  exact h

theorem Activities.multi_of_part {t : Part} {k : Multi} {a b : Activities} (ht : t = .multi k)
    (h : a.part t = b.part t) : a.multi k = b.multi k := by
  subst ht
  exact h

/-- What a record restores of the record that a group wrote into it. -/
theorem Transcript.holds_single {st : Store} {groups : List Group} {es : Group → List Emission}
    {record : StoredRecord} {acts : Activities} {r : Option k.Rec}
    (h : Transcript st groups es record) (registry : Registry)
    (hres : Restores g k F defined fits out) (hes : es g = (r.map (F defined)).getD [])
    (hfits : ∀ x, r = some x → fits x) (hdef : r.isSome → g ∈ groups)
    (hblank : (acts.single k).Holds .curr []) :
    ((Session.finish (Session.takeAll registry (st.decode record).sets acts)).single k).Holds .curr
      (r.bind out).toList := by
  have hback : g.ReadsBack (fun _ => true) (es g) := by
    cases r with
    | none =>
      intro idx label v he
      simp [hes] at he
    | some x =>
      rw [hes]
      exact hres.back x
  have hpart : (Session.takeAll registry (st.decode record).sets acts).part g.part = _ :=
    h.part_takeAll_decode hback fun _ _ _ _ => nofun
  rw [Activities.single_of_part hres.part (Session.part_finish (hres.writes.finish .curr)),
    Activities.single_of_part hres.part hpart]
  cases r with
  | none =>
    have hnone : g.readings st (fun _ => true) (es g) = [] := by
      rw [hes]
      rfl
    rw [hnone]
    simp only [List.map_nil, ite_self]
    exact hblank
  | some x =>
    have hg : g ∈ groups := hdef rfl
    have hcarries := h.carries g hg
    rw [hes] at hcarries
    rw [if_pos hg, hes]
    exact hres.taken registry hcarries (hfits x rfl) hblank

end ActivityArchive
