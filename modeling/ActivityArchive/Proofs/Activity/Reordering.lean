import ActivityArchive.Proofs.Activity.Alike

/-!
Activities that are the same up to order. Items are told apart by a key and interrupt lines by their
name, so that neither the order of the records of items nor that of the lines matters. A change has
its place: a position, a key, or a row and a name. Two changes commute when they have different
places, or when they commute as changes of what is there (`changeAt_comm`).
-/
namespace ActivityArchive

open Record

section Places

variable {L V : Type} [DecidableEq L]

/-- A change of what is found at one place. -/
def changeAt (p : L) (f : V → V) (look : L → V) (q : L) : V :=
  if q = p then f (look q) else look q

theorem changeAt_comm {p p' : L} {f g : V → V} (h : p = p' → ∀ v, f (g v) = g (f v))
    (look : L → V) : changeAt p f (changeAt p' g look) = changeAt p' g (changeAt p f look) := by
  funext q
  unfold changeAt
  by_cases hp : q = p
  · by_cases hp' : q = p'
    · simp only [if_pos hp, if_pos hp']
      exact h (hp.symm.trans hp') _
    · simp only [if_pos hp, if_neg hp']
  · simp only [if_neg hp]

end Places

namespace Activity

variable {R T : Type} [Inhabited R] [DecidableEq T] {a b c : Activity R} {s : Slot} {key : R → T}

theorem recordAt_update_eq (a : Activity R) (s : Slot) (i : Nat) (f : R → R) :
    (a.update s i f).recordAt s = changeAt i f (a.recordAt s) := funext (recordAt_update a s i f)

theorem alike_update_comm (a : Activity R) (s : Slot) {i j : Nat} {f g : R → R}
    (h : i = j → ∀ r, f (g r) = g (f r)) :
    Alike s ((a.update s j g).update s i f) ((a.update s i f).update s j g) where
  observed := by
    simp only [observed_update]
    omega
  recordAt := by
    simp only [recordAt_update_eq]
    exact congrFun (changeAt_comm h _)
  room := room_update _ s i f
  room' := room_update _ s j g

/-- The record that has a key. -/
def found (a : Activity R) (s : Slot) (key : R → T) (t : T) : Option R :=
  (a.records s).find? fun r => key r = t

/-- Records of different keys, and nothing behind them. -/
structure Listed (a : Activity R) (s : Slot) (key : R → T) : Prop where
  holds : a.Holds s (a.records s)
  nodup : ((a.records s).map key).Nodup

omit [DecidableEq T] in
theorem listed_of_holds {rs : List R} (h : a.Holds s rs) (hnd : (rs.map key).Nodup) :
    a.Listed s key := by
  obtain rfl := h.records
  exact ⟨h, hnd⟩

omit [Inhabited R] in
theorem key_of_found {t : T} {r : R} (h : a.found s key t = some r) :
    r ∈ a.records s ∧ key r = t := by
  have hkey := List.find?_some h
  exact ⟨List.mem_of_find?_eq_some h, of_decide_eq_true hkey⟩

theorem Listed.mem_records (h : a.Listed s key) (r : R) :
    r ∈ a.records s ↔ a.found s key (key r) = some r := by
  constructor
  · intro hr
    have hsome : (a.found s key (key r)).isSome := List.find?_isSome.mpr ⟨r, hr, by simp⟩
    obtain ⟨r', hr'⟩ := Option.isSome_iff_exists.mp hsome
    obtain ⟨hmem, hkey⟩ := key_of_found hr'
    rw [hr', List.inj_on_of_nodup_map h.nodup hmem hr hkey]
  · exact fun hfound => (key_of_found hfound).1

/-- A change of the record of a key, which is added where it is missing. -/
theorem Listed.updateBy (h : a.Listed s key) {owns : R → Bool} {f : R → R} {t : T}
    (howns : ∀ r, owns r = true ↔ key r = t) (hf : ∀ r, key (f r) = t) :
    (a.updateBy s owns f).Listed s key ∧ (a.updateBy s owns f).found s key =
      changeAt t (fun r => some (f (r.getD default))) (a.found s key) := by
  cases hfound : a.found s key t with
  | none =>
    have hnone : ∀ r ∈ a.records s, key r ≠ t := by simpa [found] using hfound
    have hfresh : ∀ r ∈ a.records s, owns r = false := by
      intro r hr
      rw [← Bool.not_eq_true, howns]
      exact hnone r hr
    have hholds := h.holds.updateBy_fresh hfresh f
    refine ⟨listed_of_holds hholds ?_, funext fun t' => ?_⟩
    · rw [List.map_append, List.map_singleton, hf]
      refine List.Nodup.append h.nodup (List.nodup_singleton t) ?_
      simpa using hnone
    · rw [found, hholds.records, List.find?_append, changeAt]
      by_cases ht : t' = t
      · subst ht
        rw [if_pos rfl, hfound]
        have hmiss : (a.records s).find? (fun r => decide (key r = t')) = none := hfound
        simp [hmiss, hf]
      · rw [if_neg ht]
        simp [found, hf, Ne.symm ht]
  | some r =>
    obtain ⟨hr, before, after, hrecords, hbefore⟩ := List.find?_eq_some_iff_append.mp hfound
    have hr : key r = t := of_decide_eq_true hr
    have hbefore : ∀ x ∈ before, key x ≠ t := by simpa using hbefore
    have hskip : ∀ x ∈ before, owns x = false := by
      intro x hx
      rw [← Bool.not_eq_true, howns]
      exact hbefore x hx
    have hholds := h.holds.updateBy_known hrecords hskip ((howns r).mpr hr) f
    refine ⟨listed_of_holds hholds ?_, funext fun t' => ?_⟩
    · have hnd := h.nodup
      rw [hrecords, List.map_append, List.map_cons, hr] at hnd
      rw [List.map_append, List.map_cons, hf]
      exact hnd
    · rw [changeAt, found, hholds.records]
      by_cases ht : t' = t
      · subst ht
        have hskip : before.find? (fun r => decide (key r = t')) = none :=
          List.find?_eq_none.mpr (by simpa using hbefore)
        rw [if_pos rfl, hfound, List.find?_append, hskip,
          List.find?_cons_of_pos (by simpa using hf r)]
        rfl
      · rw [if_neg ht, found, hrecords, List.find?_append, List.find?_append,
          List.find?_cons_of_neg (by simpa [hf] using Ne.symm ht),
          List.find?_cons_of_neg (by simpa [hr] using Ne.symm ht)]

/-- The same record under every key. -/
structure Matched (s : Slot) (key : R → T) (a b : Activity R) : Prop where
  listed : a.Listed s key
  listed' : b.Listed s key
  found : a.found s key = b.found s key

theorem Matched.symm (h : a.Matched s key b) : b.Matched s key a :=
  ⟨h.listed', h.listed, h.found.symm⟩

theorem Matched.trans (h : a.Matched s key b) (h' : b.Matched s key c) : a.Matched s key c :=
  ⟨h.listed, h'.listed', h.found.trans h'.found⟩

theorem Matched.perm (h : a.Matched s key b) : (a.records s).Perm (b.records s) := by
  refine (List.perm_ext_iff_of_nodup h.listed.nodup.of_map h.listed'.nodup.of_map).mpr fun r => ?_
  rw [h.listed.mem_records, h.listed'.mem_records, h.found]

section Changes

variable {owns owns' : R → Bool} {f f' : R → R} {t t' : T}

theorem Matched.updateBy (h : a.Matched s key b) (howns : ∀ r, owns r = true ↔ key r = t)
    (hf : ∀ r, key (f r) = t) : (a.updateBy s owns f).Matched s key (b.updateBy s owns f) := by
  obtain ⟨hlisted, hfound⟩ := h.listed.updateBy howns hf
  obtain ⟨hlisted', hfound'⟩ := h.listed'.updateBy howns hf
  exact ⟨hlisted, hlisted', by rw [hfound, hfound', h.found]⟩

theorem Listed.updateBy_comm (h : a.Listed s key) (howns : ∀ r, owns r = true ↔ key r = t)
    (hf : ∀ r, key (f r) = t) (howns' : ∀ r, owns' r = true ↔ key r = t')
    (hf' : ∀ r, key (f' r) = t') (hcomm : t = t' → ∀ r, f (f' r) = f' (f r)) :
    Matched s key ((a.updateBy s owns' f').updateBy s owns f)
      ((a.updateBy s owns f).updateBy s owns' f') := by
  obtain ⟨hfirst, hfound⟩ := h.updateBy howns hf
  obtain ⟨hfirst', hfound'⟩ := h.updateBy howns' hf'
  obtain ⟨hboth, hlast⟩ := hfirst'.updateBy howns hf
  obtain ⟨hboth', hlast'⟩ := hfirst.updateBy howns' hf'
  refine ⟨hboth, hboth', ?_⟩
  rw [hlast, hlast', hfound, hfound']
  exact changeAt_comm (fun ht r => congrArg some (hcomm ht _)) _

end Changes

end Activity

namespace Interrupts

variable {a b c : Interrupts} {s : Slot} {row row' : Nat} {name name' : String}
  {count count' : UInt64}

theorem mem_addLine (a : Interrupts) (name other : String) :
    other ∈ (a.addLine name).lines ↔ other ∈ a.lines ∨ other = name := by
  unfold addLine
  split
  · rename_i hname
    exact ⟨Or.inl, fun h => h.elim id fun he => he ▸ hname⟩
  · simp

theorem mem_absorbCell (a : Interrupts) (s : Slot) (row : Nat) (name : String) (count : UInt64)
    (other : String) : other ∈ (GroupSpec.absorbCell a s row name count).lines ↔
      (other ∈ a.lines ∨ other = GroupSpec.sumLine) ∨ other = name := by
  rw [← mem_addLine, ← mem_addLine]
  rfl

/-- The same counts under the same lines, in whatever order those became known. -/
structure Rearranged (s : Slot) (a b : Interrupts) : Prop where
  alike : a.Alike s b
  lines : ∀ name, name ∈ a.lines ↔ name ∈ b.lines

theorem Rearranged.symm (h : a.Rearranged s b) : b.Rearranged s a :=
  ⟨h.alike.symm, fun name => (h.lines name).symm⟩

theorem Rearranged.trans (h : a.Rearranged s b) (h' : b.Rearranged s c) : a.Rearranged s c :=
  ⟨h.alike.trans h'.alike, fun name => (h.lines name).trans (h'.lines name)⟩

theorem Showing.rearranged (h : a.Showing s) : a.Rearranged s a :=
  ⟨⟨h, h, rfl, fun _ _ => rfl⟩, fun _ => Iff.rfl⟩

theorem Rearranged.absorbCell (h : a.Rearranged s b) (row : Nat) (name : String) (count : UInt64) :
    Rearranged s (GroupSpec.absorbCell a s row name count)
      (GroupSpec.absorbCell b s row name count) := by
  refine ⟨h.alike.absorbCell row name count, fun other => ?_⟩
  rw [mem_absorbCell, mem_absorbCell, h.lines]

/-- A count that is taken in, by what is counted afterwards. -/
theorem Showing.countAt_absorbCell (h : a.Showing s) (row : Nat) (name : String) (count : UInt64) :
    (fun p => (GroupSpec.absorbCell a s row name count).countAt s p.1 p.2) =
      changeAt (row, name) (fun _ => count) fun p => a.countAt s p.1 p.2 := by
  obtain ⟨-, -, hputs⟩ := h.absorbCell (f := fun _ _ => count) row name rfl
  funext p
  rw [hputs.countAt, changeAt]
  simp only [List.mem_singleton]

theorem Showing.absorbCell_comm (h : a.Showing s) (hne : (row, name) ≠ (row', name')) :
    Rearranged s (GroupSpec.absorbCell (GroupSpec.absorbCell a s row' name' count') s
      row name count)
      (GroupSpec.absorbCell (GroupSpec.absorbCell a s row name count) s row' name' count') := by
  obtain ⟨hshow, hrows, -⟩ := h.absorbCell (f := fun _ _ => count) row name rfl
  obtain ⟨hshow', hrows', -⟩ := h.absorbCell (f := fun _ _ => count') row' name' rfl
  obtain ⟨hboth, hlast, -⟩ := hshow'.absorbCell (f := fun _ _ => count) row name rfl
  obtain ⟨hboth', hlast', -⟩ := hshow.absorbCell (f := fun _ _ => count') row' name' rfl
  refine ⟨⟨hboth, hboth', ?_, fun r other => ?_⟩, fun other => ?_⟩
  · rw [hlast, hlast', hrows, hrows']
    omega
  · have hcounts := changeAt_comm (f := fun _ => count) (g := fun _ => count')
      (fun he => absurd he hne) fun p => a.countAt s p.1 p.2
    rw [← h.countAt_absorbCell, ← h.countAt_absorbCell, ← hshow.countAt_absorbCell,
      ← hshow'.countAt_absorbCell] at hcounts
    exact congrFun hcounts (r, other)
  · simp only [mem_absorbCell]
    tauto

/-- What is rearranged is unloaded as tables with the same columns, or as none. -/
theorem Rearranged.unload (h : a.Rearranged s b) :
    ∃ x y, a.unload s = .ok x ∧ b.unload s = .ok y ∧
    Option.Rel InterruptTable.Rearranged x y := by
  by_cases hrows : (a.grid.observed.get s).1 = 0
  · exact ⟨none, none, if_pos hrows, if_pos (h.alike.rows ▸ hrows), .none⟩
  · have hshow := h.alike.showing
    have hshow' := h.alike.showing'
    obtain ⟨x, hx, hlines, hcounts⟩ := hshow.unload hrows
    obtain ⟨y, hy, hlines', hcounts'⟩ := hshow'.unload (h.alike.rows ▸ hrows)
    have hlength : x.counts.length = y.counts.length := by
      rw [length_unload hshow.named.sized hx, length_unload hshow'.named.sized hy, h.alike.rows]
    have hwidth := width_unload hshow.named.sized hx
    have hwidth' := width_unload hshow'.named.sized hy
    have hnd : x.lines.Nodup := hlines ▸ hshow.named.nodup
    have hnd' : y.lines.Nodup := hlines' ▸ hshow'.named.nodup
    refine ⟨some x, some y, hx, hy, .some ⟨hlength, hwidth, hwidth', ?_⟩⟩
    have hperm : x.lines.Perm y.lines := by
      refine (List.perm_ext_iff_of_nodup hnd hnd').mpr fun name => ?_
      rw [hlines, hlines', h.lines]
    have hcolumn : x.column = y.column := by
      funext name
      rw [InterruptTable.column, InterruptTable.column, hlength]
      refine List.map_congr_left fun row _ => ?_
      rw [hcounts, hcounts', h.alike.countAt]
    rw [InterruptTable.columns_eq hnd hwidth, InterruptTable.columns_eq hnd' hwidth', hcolumn]
    exact hperm.map _

end Interrupts

/-- The kinds of records whose items have a key, in whatever order they come. -/
def Multi.keyed : List Multi := [.disk, .netDev, .netEdev, .serial, .filesystem, .fchost]

/-- What tells an item from the others of its kind; other kinds of records go by position. -/
def Multi.itemKey? : (k : Multi) → Option (k.Rec → String ⊕ UInt32)
  | .disk => some fun d => .inl d.name
  | .netDev => some fun n => .inl n.interface
  | .netEdev => some fun n => .inl n.interface
  | .serial => some fun l => .inr l.line
  | .filesystem => some fun f => .inl f.fsName
  | .fchost => some fun f => .inl f.name
  | _ => none

theorem Multi.itemKey?_eq_none {k : Multi} (h : k ∉ Multi.keyed) : k.itemKey? = none := by
  cases k <;> first | rfl | exact absurd (by decide) h

/-- The same records by position, or by key. -/
def Multi.Rearranged (s : Slot) (k : Multi) (x y : Activity k.Rec) : Prop :=
  match k.itemKey? with
  | some key => Activity.Matched s key x y
  | none => Activity.Alike s x y

namespace Multi

variable {s : Slot} {k : Multi} {x y z : Activity k.Rec}

theorem rearranged_of_key {key : k.Rec → String ⊕ UInt32} (h : k.itemKey? = some key) :
    Multi.Rearranged s k x y ↔ Activity.Matched s key x y := by
  rw [Multi.Rearranged, h]

theorem rearranged_of_position (h : k.itemKey? = none) :
    Multi.Rearranged s k x y ↔ Activity.Alike s x y := by
  rw [Multi.Rearranged, h]

theorem Rearranged.symm (h : Multi.Rearranged s k x y) : Multi.Rearranged s k y x := by
  cases hkey : k.itemKey? with
  | none => exact (rearranged_of_position hkey).mpr ((rearranged_of_position hkey).mp h).symm
  | some key => exact (rearranged_of_key hkey).mpr ((rearranged_of_key hkey).mp h).symm

theorem Rearranged.trans (h : Multi.Rearranged s k x y) (h' : Multi.Rearranged s k y z) :
    Multi.Rearranged s k x z := by
  cases hkey : k.itemKey? with
  | none =>
    rw [rearranged_of_position hkey] at h h' ⊢
    exact h.trans h'
  | some key =>
    rw [rearranged_of_key hkey] at h h' ⊢
    exact h.trans h'

theorem Rearranged.perm (h : Multi.Rearranged s k x y) : (x.records s).Perm (y.records s) := by
  cases hkey : k.itemKey? with
  | none => exact .of_eq ((rearranged_of_position hkey).mp h).records
  | some key => exact ((rearranged_of_key hkey).mp h).perm

/-- Nothing is the same in any order. -/
theorem rearranged_of_holds_nil (hx : x.Holds s []) (hy : y.Holds s []) :
    Multi.Rearranged s k x y := by
  cases hkey : k.itemKey? with
  | none => exact (rearranged_of_position hkey).mpr (Activity.alike_of_holds_nil hx hy)
  | some key =>
    refine (rearranged_of_key hkey).mpr
      ⟨Activity.listed_of_holds hx List.nodup_nil,
        Activity.listed_of_holds hy List.nodup_nil, ?_⟩
    funext t
    rw [Activity.found, Activity.found, hx.records, hy.records]

end Multi

def Part.Rearranged (s : Slot) : (t : Part) → t.State → t.State → Prop
  | .header, _, _ => True
  | .single _, x, y => Activity.Alike s x y
  | .multi k, x, y => k.Rearranged s x y
  | .interrupts, x, y => Interrupts.Rearranged s x y

theorem Part.Rearranged.symm {s : Slot} {t : Part} {x y : t.State} (h : t.Rearranged s x y) :
    t.Rearranged s y x := by
  cases t with
  | header => trivial
  | single k => exact Activity.Alike.symm h
  | multi k => exact Multi.Rearranged.symm h
  | interrupts => exact Interrupts.Rearranged.symm h

theorem Part.Rearranged.trans {s : Slot} {t : Part} {x y z : t.State} (h : t.Rearranged s x y)
    (h' : t.Rearranged s y z) : t.Rearranged s x z := by
  cases t with
  | header => trivial
  | single k => exact Activity.Alike.trans h h'
  | multi k => exact Multi.Rearranged.trans h h'
  | interrupts => exact Interrupts.Rearranged.trans h h'

namespace Activities

variable {a b c : Activities} {s : Slot} {t t' : Part}

/-- Every part is the same up to order; the host is not looked at. -/
def Rearranged (s : Slot) (a b : Activities) : Prop :=
  ∀ t : Part, t.Rearranged s (a.part t) (b.part t)

theorem Rearranged.symm (h : Rearranged s a b) : Rearranged s b a := fun t => (h t).symm

theorem Rearranged.trans (h : Rearranged s a b) (h' : Rearranged s b c) : Rearranged s a c :=
  fun t => (h t).trans (h' t)

theorem Rearranged.setPart (h : Rearranged s a b) {x y : t.State} (hxy : t.Rearranged s x y) :
    Rearranged s (a.setPart t x) (b.setPart t y) := by
  intro t'
  by_cases ht : t' = t
  · subst ht
    rw [part_setPart, part_setPart]
    exact hxy
  · rw [part_setPart_ne ht, part_setPart_ne ht]
    exact h t'

/-- Two changes of one part. -/
theorem Rearranged.comm (h : Rearranged s a a) {f g : Activities → Activities}
    {F G : t.State → t.State}
    (hf : ∀ a, f a = a.setPart t (F (a.part t))) (hg : ∀ a, g a = a.setPart t (G (a.part t)))
    (hcomm : t.Rearranged s (F (G (a.part t))) (G (F (a.part t)))) :
    Rearranged s (f (g a)) (g (f a)) := by
  have hfg : f (g a) = a.setPart t (F (G (a.part t))) := by
    rw [hf, hg, part_setPart, setPart_setPart]
  have hgf : g (f a) = a.setPart t (G (F (a.part t))) := by
    rw [hg, hf, part_setPart, setPart_setPart]
  rw [hfg, hgf]
  exact h.setPart hcomm

/-- Changes of different parts do not meet. -/
theorem Touches.comm {f g : Activities → Activities} (hf : Touches t f) (hg : Touches t' g)
    (h : t ≠ t') (a : Activities) : f (g a) = g (f a) := by
  apply ext_parts
  intro u
  by_cases hu : u = t
  · subst hu
    rw [hg.part_ne h]
    exact hf.part_congr (hg.part_ne h a)
  · rw [hf.part_ne hu]
    by_cases hu' : u = t'
    · subst hu'
      exact (hg.part_congr (hf.part_ne h.symm a)).symm
    · rw [hg.part_ne hu', hg.part_ne hu', hf.part_ne hu]

end Activities

end ActivityArchive
