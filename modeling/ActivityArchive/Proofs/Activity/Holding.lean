import ActivityArchive.Activity.Activities

/-!
Slots in which records are built. Such a slot holds the records built so far, and behind them it is
blank: what was there before has left nothing. A change of a record that is there changes it, and a
change of the one behind them adds it, blank but for the change.
-/
namespace ActivityArchive

variable {R : Type}

namespace SampleBuffer

theorem column_modifyAt (b : SampleBuffer R) (s : Slot) (i : Nat) (f : R → R) :
    (b.modifyAt s i f).column s = (b.column s).modify i f := by
  apply List.ext_getElem?
  intro j
  simp only [column, modifyAt, List.getElem?_map, List.getElem?_modify]
  cases b.cells[j]? with
  | none => rfl
  | some c => by_cases hj : i = j <;> simp [hj]

theorem column_modifyAt_other (b : SampleBuffer R) (s : Slot) (i : Nat) (f : R → R) :
    (b.modifyAt s i f).column s.other = b.column s.other := by
  refine List.ext_getElem (by simp [column, modifyAt]) fun j hj hj' => ?_
  simp only [column, modifyAt, List.getElem_map, List.getElem_modify]
  split <;> simp

theorem length_column (b : SampleBuffer R) (s : Slot) : (b.column s).length = b.allocated :=
  List.length_map _

variable [Inhabited R]

theorem column_ensure (b : SampleBuffer R) (s : Slot) (count : Nat) :
    (b.ensure s count).column s =
      b.column s ++ List.replicate (count - b.allocated) default := by
  simp [column, ensure]

structure Holds (b : SampleBuffer R) (s : Slot) (rs : List R) : Prop where
  observed : b.observed.get s = rs.length
  column : ∃ blank, b.column s = rs ++ List.replicate blank default

variable {b : SampleBuffer R} {s : Slot} {rs : List R} {i : Nat} {f : R → R}

theorem holds_empty (s : Slot) : (empty : SampleBuffer R).Holds s [] :=
  ⟨Pair.get_both 0 s, 0, rfl⟩

theorem holds_clear (b : SampleBuffer R) (s : Slot) : (b.clear s).Holds s [] := by
  refine ⟨Pair.get_set_same _ s 0, b.cells.length, ?_⟩
  show (b.cells.map fun c => c.set s default).map (·.get s) = _
  rw [List.map_map, List.nil_append, List.eq_replicate_iff]
  simp

theorem Holds.records (h : b.Holds s rs) : b.records s = rs := by
  obtain ⟨blank, hcol⟩ := h.column
  rw [SampleBuffer.records, h.observed, hcol, List.take_left]

theorem Holds.modifyAt (h : b.Holds s rs) (hi : i < rs.length) :
    (b.modifyAt s i f).Holds s (rs.modify i f) := by
  obtain ⟨blank, hcol⟩ := h.column
  refine ⟨?_, blank, ?_⟩
  · rw [List.length_modify]
    exact h.observed
  · rw [column_modifyAt, hcol]
    apply List.ext_getElem?
    intro j
    simp only [List.getElem?_modify, List.getElem?_append, List.length_modify]
    by_cases hj : j < rs.length
    · simp [hj]
    · have hne : i ≠ j := by omega
      simp [hj, hne]

theorem Holds.allocated (h : b.Holds s rs) :
    ∃ blank, b.column s = rs ++ List.replicate blank default ∧
      b.allocated = rs.length + blank := by
  obtain ⟨blank, hcol⟩ := h.column
  refine ⟨blank, hcol, ?_⟩
  rw [← length_column b s, hcol, List.length_append, List.length_replicate]

/-- Observing one more record takes a blank one into the slot. -/
theorem Holds.observe_succ (h : b.Holds s rs) :
    (b.observe s (rs.length + 1)).Holds s (rs ++ [default]) := by
  obtain ⟨blank, hcol, hlen⟩ := h.allocated
  have hmax : max (rs.length + 1) (b.observed.get s) = rs.length + 1 := by
    rw [h.observed]
    omega
  rw [observe, hmax]
  refine ⟨by simp [ensure], blank + (rs.length + 1 - b.allocated) - 1, ?_⟩
  have hone : blank + (rs.length + 1 - b.allocated) =
      1 + (blank + (rs.length + 1 - b.allocated) - 1) := by omega
  rw [column_ensure, hcol, List.append_assoc, List.append_assoc, List.replicate_append_replicate,
    hone, ← List.replicate_append_replicate, ← hone]
  rfl

theorem Holds.observe_of_le (h : b.Holds s rs) {count : Nat} (hc : count ≤ rs.length) :
    (b.observe s count).Holds s rs := by
  obtain ⟨blank, hcol, hlen⟩ := h.allocated
  have hmax : max count (b.observed.get s) = rs.length := by
    rw [h.observed]
    omega
  have hnone : rs.length - b.allocated = 0 := by omega
  rw [observe, hmax]
  refine ⟨by simp [ensure], blank, ?_⟩
  rw [column_ensure, hnone, hcol, List.replicate_zero, List.append_nil]

end SampleBuffer

namespace Activity

variable [Inhabited R]

def Holds (a : Activity R) (s : Slot) (rs : List R) : Prop := a.buffer.Holds s rs

variable {a : Activity R} {s : Slot} {rs : List R} {f : R → R}

theorem holds_empty (s : Slot) : (empty : Activity R).Holds s [] := SampleBuffer.holds_empty s

theorem holds_clear (a : Activity R) (s : Slot) : (a.clear s).Holds s [] :=
  SampleBuffer.holds_clear a.buffer s

theorem Holds.records (h : a.Holds s rs) : a.records s = rs := SampleBuffer.Holds.records h

theorem Holds.update (h : a.Holds s rs) {i : Nat} (hi : i < rs.length) (f : R → R) :
    (a.update s i f).Holds s (rs.modify i f) :=
  (SampleBuffer.Holds.observe_of_le h hi).modifyAt hi

theorem Holds.add (h : a.Holds s rs) (f : R → R) :
    (a.update s rs.length f).Holds s (rs ++ [f default]) := by
  have hobs := (SampleBuffer.Holds.observe_succ h).modifyAt (i := rs.length) (f := f) (by simp)
  have hmod : (rs ++ [default]).modify rs.length f = rs ++ [f default] := by
    rw [List.modify_eq_take_cons_drop (by simp)]
    simp
  exact hmod ▸ hobs

theorem Holds.position (h : a.Holds s rs) (p : R → Bool) :
    a.position s p = (rs.findIdx? p).getD rs.length := by
  rw [Activity.position, h.records, SampleBuffer.Holds.observed h]

theorem Holds.updateBy_fresh (h : a.Holds s rs) {p : R → Bool} (hp : ∀ r ∈ rs, p r = false)
    (f : R → R) : (a.updateBy s p f).Holds s (rs ++ [f default]) := by
  have hfind : rs.findIdx? p = none := List.findIdx?_eq_none_iff.mpr hp
  rw [updateBy, h.position, hfind]
  exact h.add f

theorem Holds.updateBy_known (h : a.Holds s rs) {p : R → Bool} {before after : List R} {r : R}
    (hrs : rs = before ++ r :: after) (hbefore : ∀ x ∈ before, p x = false) (hr : p r = true)
    (f : R → R) : (a.updateBy s p f).Holds s (before ++ f r :: after) := by
  have hfind : rs.findIdx? p = some before.length := by
    rw [hrs, List.findIdx?_append, List.findIdx?_eq_none_iff.mpr hbefore]
    simp [List.findIdx?_cons, hr]
  have hi : before.length < rs.length := by simp [hrs]
  have hmod : rs.modify before.length f = before ++ f r :: after := by
    rw [hrs, List.modify_eq_take_cons_drop (by simp)]
    simp
  rw [updateBy, h.position, hfind]
  exact hmod ▸ h.update hi f

/-- The one record of a slot, or none. -/
theorem Holds.update_zero {r : Option R} (h : a.Holds s r.toList) (f : R → R) :
    (a.update s 0 f).Holds s [f (r.getD default)] := by
  cases r with
  | none => exact Holds.add h f
  | some r =>
    have h : a.Holds s [r] := h
    exact h.update Nat.zero_lt_one f

end Activity

end ActivityArchive
