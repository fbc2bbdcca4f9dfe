import ActivityArchive.Proofs.Activity.Building
import ActivityArchive.Proofs.Activity.Named
import ActivityArchive.Proofs.Activity.Parts
import ActivityArchive.Proofs.Steps

/-!
Activities that look alike in a slot: the same records are observed and the same stand behind them,
whatever room there is and whatever the other slot holds. Interrupts look alike when they give the
same counts by row and name, in whatever columns. What is done to a slot record by record or count
by count keeps two activities alike, and they are unloaded as the same sample (`Alike.records`,
`Interrupts.Alike.unload`).
-/
namespace ActivityArchive

open Record

namespace Activity

variable {R : Type} [Inhabited R] {a b : Activity R} {s : Slot}

structure Alike (s : Slot) (a b : Activity R) : Prop where
  observed : a.buffer.observed.get s = b.buffer.observed.get s
  recordAt : ∀ i, a.recordAt s i = b.recordAt s i
  room : a.buffer.observed.get s ≤ a.buffer.allocated
  room' : b.buffer.observed.get s ≤ b.buffer.allocated

theorem Alike.symm (h : a.Alike s b) : b.Alike s a :=
  ⟨h.observed.symm, fun i => (h.recordAt i).symm, h.room', h.room⟩

theorem Alike.trans {c : Activity R} (h : a.Alike s b) (h' : b.Alike s c) : a.Alike s c :=
  ⟨h.observed.trans h'.observed, fun i => (h.recordAt i).trans (h'.recordAt i),
    h.room, h'.room'⟩

theorem Alike.records (h : a.Alike s b) : a.records s = b.records s := by
  rw [records_eq_map h.room, records_eq_map h.room', h.observed]
  exact List.map_congr_left fun i _ => h.recordAt i

theorem Alike.position (h : a.Alike s b) (p : R → Bool) : a.position s p = b.position s p := by
  rw [Activity.position, Activity.position, h.records, h.observed]

theorem room_update (a : Activity R) (s : Slot) (i : Nat) (f : R → R) :
    (a.update s i f).buffer.observed.get s ≤ (a.update s i f).buffer.allocated := by
  have hroom : (a.update s i f).buffer.allocated =
      max a.buffer.allocated (max (i + 1) (a.buffer.observed.get s)) :=
    (List.length_modify ..).trans (SampleBuffer.allocated_ensure a.buffer s _)
  rw [observed_update, hroom]
  exact Nat.le_max_right _ _

theorem Alike.update (h : a.Alike s b) (i : Nat) (f : R → R) :
    (a.update s i f).Alike s (b.update s i f) where
  observed := by rw [observed_update, observed_update, h.observed]
  recordAt j := by rw [recordAt_update, recordAt_update, h.recordAt]
  room := room_update a s i f
  room' := room_update b s i f

theorem Alike.updateBy (h : a.Alike s b) (p : R → Bool) (f : R → R) :
    (a.updateBy s p f).Alike s (b.updateBy s p f) := by
  rw [Activity.updateBy, Activity.updateBy, h.position]
  exact h.update _ f

/-- A change of every record of the slot. -/
theorem Alike.fill (h : a.Alike s b) (f : R → R) :
    Alike s { a with buffer := a.buffer.fill s ((a.records s).map f) }
      { b with buffer := b.buffer.fill s ((b.records s).map f) } := by
  have hroom : ∀ {a : Activity R}, ((a.records s).map f).length ≤ a.buffer.allocated := by
    intro a
    rw [List.length_map, Activity.records, SampleBuffer.records, List.length_take,
      SampleBuffer.length_column]
    exact Nat.min_le_right _ _
  refine ⟨h.observed, fun i => ?_, ?_, ?_⟩
  · refine (SampleBuffer.recordAt_fill hroom s i).trans ?_
    refine .trans ?_ (SampleBuffer.recordAt_fill hroom s i).symm
    rw [h.records]
    split
    · rfl
    · exact h.recordAt i
  · exact (SampleBuffer.allocated_fill ..).symm ▸ h.room
  · exact (SampleBuffer.allocated_fill ..).symm ▸ h.room'

/-- Two slots that hold nothing. -/
theorem alike_of_holds_nil (ha : a.Holds s []) (hb : b.Holds s []) : a.Alike s b where
  observed := ha.observed.trans hb.observed.symm
  recordAt i := (ha.recordAt_nil i).trans (hb.recordAt_nil i).symm
  room := Nat.le_trans (Nat.le_of_eq ha.observed) (Nat.zero_le _)
  room' := Nat.le_trans (Nat.le_of_eq hb.observed) (Nat.zero_le _)

/-- A slot that looks like an empty one holds nothing. -/
theorem Alike.holds_nil (h : empty.Alike s a) : a.Holds s [] := by
  have hobserved : (empty : Activity R).buffer.observed.get s = 0 := Pair.get_both 0 s
  refine ⟨h.observed.symm.trans hobserved, (a.buffer.column s).length, ?_⟩
  refine List.eq_replicate_iff.mpr ⟨rfl, fun r hr => ?_⟩
  obtain ⟨i, hi, rfl⟩ := List.getElem_of_mem hr
  exact (getD_of_lt hi).symm.trans (h.recordAt i).symm

end Activity

/-- The same number of rows, and the same count in every row under every name. -/
structure Record.InterruptTable.Agrees (t u : InterruptTable) : Prop where
  rows : t.counts.length = u.counts.length
  countAt : ∀ row name, t.countAt row name = u.countAt row name

namespace Interrupts

variable {a b : Interrupts} {s : Slot}

structure Alike (s : Slot) (a b : Interrupts) : Prop where
  showing : a.Showing s
  showing' : b.Showing s
  rows : (a.grid.observed.get s).1 = (b.grid.observed.get s).1
  countAt : ∀ row name, a.countAt s row name = b.countAt s row name

theorem Alike.symm (h : a.Alike s b) : b.Alike s a :=
  ⟨h.showing', h.showing, h.rows.symm, fun row name => (h.countAt row name).symm⟩

theorem Alike.trans {c : Interrupts} (h : a.Alike s b) (h' : b.Alike s c) : a.Alike s c :=
  ⟨h.showing, h'.showing', h.rows.trans h'.rows,
    fun row name => (h.countAt row name).trans (h'.countAt row name)⟩

theorem Alike.absorbCell (h : a.Alike s b) (row : Nat) (name : String) (count : UInt64) :
    Alike s (GroupSpec.absorbCell a s row name count)
      (GroupSpec.absorbCell b s row name count) := by
  obtain ⟨hshow, hrows, hputs⟩ :=
    h.showing.absorbCell (f := fun _ _ => count) row name rfl
  obtain ⟨hshow', hrows', hputs'⟩ :=
    h.showing'.absorbCell (f := fun _ _ => count) row name rfl
  refine ⟨hshow, hshow', by rw [hrows, hrows', h.rows], fun r other => ?_⟩
  rw [hputs.countAt, hputs'.countAt, h.countAt]

/-- What looks alike is unloaded as tables that agree, or as none. -/
theorem Alike.unload (h : a.Alike s b) : ∃ x y, a.unload s = .ok x ∧ b.unload s = .ok y ∧
    Option.Rel InterruptTable.Agrees x y := by
  by_cases hrows : (a.grid.observed.get s).1 = 0
  · refine ⟨none, none, if_pos hrows, if_pos (h.rows ▸ hrows), .none⟩
  · obtain ⟨x, hx, -, hcounts⟩ := h.showing.unload hrows
    obtain ⟨y, hy, -, hcounts'⟩ := h.showing'.unload (h.rows ▸ hrows)
    refine ⟨some x, some y, hx, hy, .some ⟨?_, fun row name => ?_⟩⟩
    · rw [length_unload h.showing.named.sized hx, length_unload h.showing'.named.sized hy, h.rows]
    · rw [hcounts, hcounts', h.countAt]

theorem alike_of_blank (ha : a.Blank s) (hb : b.Blank s)
    (hrows : (a.grid.observed.get s).1 = (b.grid.observed.get s).1) : a.Alike s b :=
  ⟨ha.showing, hb.showing, hrows,
    fun row name => (ha.counts row name).trans (hb.counts row name).symm⟩

end Interrupts

def Part.Alike (s : Slot) : (t : Part) → t.State → t.State → Prop
  | .header, _, _ => True
  | .single _, x, y => Activity.Alike s x y
  | .multi _, x, y => Activity.Alike s x y
  | .interrupts, x, y => Interrupts.Alike s x y

theorem Part.Alike.symm {s : Slot} {t : Part} {x y : t.State} (h : t.Alike s x y) :
    t.Alike s y x := by
  cases t with
  | header => trivial
  | single k | multi k => exact Activity.Alike.symm h
  | interrupts => exact Interrupts.Alike.symm h

theorem Part.Alike.trans {s : Slot} {t : Part} {x y z : t.State} (h : t.Alike s x y)
    (h' : t.Alike s y z) : t.Alike s x z := by
  cases t with
  | header => trivial
  | single k | multi k => exact Activity.Alike.trans h h'
  | interrupts => exact Interrupts.Alike.trans h h'

namespace Activities

variable {a b : Activities} {s : Slot} {t : Part}

/-- Every part looks alike; the host is not looked at. -/
def Alike (s : Slot) (a b : Activities) : Prop := ∀ t : Part, t.Alike s (a.part t) (b.part t)

theorem Alike.symm (h : Alike s a b) : Alike s b a := fun t => (h t).symm

theorem Alike.trans {c : Activities} (h : Alike s a b) (h' : Alike s b c) : Alike s a c :=
  fun t => (h t).trans (h' t)

theorem Alike.setPart (h : a.Alike s b) {x y : t.State} (hxy : t.Alike s x y) :
    (a.setPart t x).Alike s (b.setPart t y) :=
  Related.setPart (Q := fun t => t.Alike s) h hxy

/-- Nothing is left in a slot that was cleared. -/
theorem alike_clear (h : a.irq.Named) (s : Slot) : Alike s empty (a.clear s) := by
  intro t
  cases t with
  | header => trivial
  | single k =>
    simp only [part, empty, clear, Groups.single_ofFun]
    exact Activity.alike_of_holds_nil (Activity.holds_empty s) (Activity.holds_clear _ s)
  | multi k =>
    simp only [part, empty, clear, Groups.multi_ofFun]
    exact Activity.alike_of_holds_nil (Activity.holds_empty s) (Activity.holds_clear _ s)
  | interrupts =>
    refine Interrupts.alike_of_blank (Interrupts.blank_empty s) (Interrupts.blank_clear h s) ?_
    show ((Pair.both (0, 0)).get s).1 = ((a.irq.grid.observed.set s (0, 0)).get s).1
    rw [Pair.get_both, Pair.get_set_same]

theorem alike_empty (s : Slot) : Alike s empty empty :=
  have hclear : Alike s empty (empty.clear s) := alike_clear Interrupts.named_empty s
  hclear.trans hclear.symm

/-- A plan changes nothing in any slot. -/
theorem alike_scan (h : Alike s empty a) (x : Sample) : Alike s empty (a.scan x) := by
  intro t
  cases t with
  | header => trivial
  | single k =>
    have hk : Activity.Alike s (empty.single k) (a.single k) := h (.single k)
    simp only [part, scan, Groups.single_ofFun]
    exact ⟨hk.observed, hk.recordAt, hk.room, hk.room'⟩
  | multi k =>
    have hk : Activity.Alike s (empty.multi k) (a.multi k) := h (.multi k)
    simp only [part, scan, Groups.multi_ofFun]
    exact ⟨hk.observed, hk.recordAt, hk.room, hk.room'⟩
  | interrupts =>
    have hirq : Interrupts.Alike s empty.irq a.irq := h .interrupts
    show Interrupts.Alike s empty.irq (a.scan x).irq
    simp only [scan]
    split
    · rename_i t _
      have hplan : (a.irq.plan t.counts.length).Named :=
        ⟨hirq.showing'.named.nodup, hirq.showing'.named.sized, hirq.showing'.named.columns⟩
      obtain ⟨hnamed, hputs⟩ := hplan.addLines s (fun _ _ => 0) t.lines
      have hcounts : ∀ row name,
          ((a.irq.plan t.counts.length).addLines t.lines).countAt s row name =
            a.irq.countAt s row name := fun row name =>
            (hputs.countAt row name).trans (if_neg (by simp))
      have hgrid : ((a.irq.plan t.counts.length).addLines t.lines).grid = a.irq.grid :=
        Interrupts.grid_addLines _ t.lines
      refine ⟨hirq.showing, ⟨hnamed, fun row hrow name => ?_⟩, by rw [hgrid, hirq.rows],
        fun row name => (hirq.countAt row name).trans (hcounts row name).symm⟩
      rw [hcounts]
      exact hirq.showing'.blank row (hgrid ▸ hrow) name
    · exact hirq

theorem Alike.foldl {A : Type} {f : Activities → A → Activities} (h : a.Alike s b) (xs : List A)
    (hf : ∀ x a b, Alike s a b → Alike s (f a x) (f b x)) :
    Alike s (xs.foldl f a) (xs.foldl f b) :=
  Related.foldl (Q := fun t => t.Alike s) h xs hf

end Activities

end ActivityArchive
