import ActivityArchive.Proofs.Buffer.Records

/-!
Slots built record by record, in any order. A change of one record leaves every other one, and as
long as nothing stands behind the records of a slot they can be read by position, blank where there
is none (`Within.getD_records`).
-/
namespace ActivityArchive

variable {R : Type} [Inhabited R]

theorem SampleBuffer.recordAt_modifyAt {b : SampleBuffer R} {i : Nat} (hi : i < b.allocated)
    (s : Slot) (f : R → R) (j : Nat) :
    (b.modifyAt s i f).recordAt s j = if j = i then f (b.recordAt s j) else b.recordAt s j := by
  have hlen : i < (b.column s).length := by
    rw [length_column]
    exact hi
  simp only [recordAt, column_modifyAt, List.getD_eq_getElem?_getD, List.getElem?_modify]
  by_cases hj : j = i
  · subst hj
    simp [List.getElem?_eq_getElem hlen]
  · simp [hj, Ne.symm hj]

namespace Activity

variable {a b c : Activity R} {s : Slot} {n i : Nat} {f : R → R}

theorem recordAt_update (a : Activity R) (s : Slot) (i : Nat) (f : R → R) (j : Nat) :
    (a.update s i f).recordAt s j = if j = i then f (a.recordAt s j) else a.recordAt s j := by
  have hroom := (SampleBuffer.le_length_observe a.buffer s (i + 1)).2
  refine (SampleBuffer.recordAt_modifyAt (Nat.lt_of_succ_le hroom) s f j).trans ?_
  rw [SampleBuffer.recordAt_observe]
  rfl

theorem observed_update (a : Activity R) (s : Slot) (i : Nat) (f : R → R) :
    (a.update s i f).buffer.observed.get s = max (i + 1) (a.buffer.observed.get s) :=
  Pair.get_set_same _ s _

omit [Inhabited R] in
theorem length_records (a : Activity R) (s : Slot) :
    (a.records s).length = min (a.buffer.observed.get s) a.buffer.allocated := by
  rw [records, SampleBuffer.records, List.length_take, SampleBuffer.length_column]

/-- The record that is changed is there, and none goes away. -/
theorem length_records_update (a : Activity R) (s : Slot) (i : Nat) (f : R → R) :
    i < ((a.update s i f).records s).length ∧
      (a.records s).length ≤ ((a.update s i f).records s).length := by
  have hroom := SampleBuffer.le_length_observe a.buffer s (i + 1)
  have hcells : (a.update s i f).buffer.allocated =
      (a.buffer.observe s (i + 1)).cells.length := List.length_modify _ _ _
  have hallocated : a.buffer.allocated = a.buffer.cells.length := rfl
  rw [length_records, length_records, observed_update, hcells, hallocated]
  omega

/-- At most `n` records in a slot, and nothing behind them. -/
structure Within (a : Activity R) (s : Slot) (n : Nat) : Prop where
  observed : a.buffer.observed.get s ≤ n
  blank : ∀ i, a.buffer.observed.get s ≤ i → a.recordAt s i = default

theorem Holds.recordAt_nil (h : a.Holds s []) (i : Nat) : a.recordAt s i = default := by
  obtain ⟨blank, hcol⟩ := h.column
  rw [recordAt, SampleBuffer.recordAt, hcol, getD_append_replicate]
  rfl

theorem Holds.within_nil (h : a.Holds s []) (n : Nat) : a.Within s n :=
  ⟨h.observed ▸ Nat.zero_le n, fun i _ => h.recordAt_nil i⟩

theorem Within.update (h : a.Within s n) (hi : i < n) (f : R → R) :
    (a.update s i f).Within s n := by
  refine ⟨?_, fun j hj => ?_⟩
  · rw [observed_update]
    exact Nat.max_le.mpr ⟨hi, h.observed⟩
  · rw [observed_update] at hj
    have hne : j ≠ i := by omega
    rw [recordAt_update, if_neg hne]
    exact h.blank j (by omega)

theorem Within.length_records (h : a.Within s n) : (a.records s).length ≤ n :=
  Nat.le_trans (List.length_take_le _ _) h.observed

theorem Within.getD_records (h : a.Within s n) (i : Nat) :
    (a.records s).getD i default = a.recordAt s i := by
  by_cases hi : i < a.buffer.observed.get s
  · simp only [records, SampleBuffer.records, List.getD_eq_getElem?_getD,
      List.getElem?_take_of_lt hi]
    rw [← List.getD_eq_getElem?_getD]
    rfl
  · have hi := Nat.le_of_not_lt hi
    have hnone : (a.records s).length ≤ i := Nat.le_trans (List.length_take_le _ _) hi
    rw [h.blank i hi, getD_of_le hnone]

/-- What leads from one activity to another: a change at each position, with no record beyond `n`.
-/
structure Builds (s : Slot) (n : Nat) (change : Nat → R → R) (a b : Activity R) : Prop where
  within : a.Within s n → b.Within s n
  recordAt : ∀ i, b.recordAt s i = change i (a.recordAt s i)

theorem Builds.refl (s : Slot) (n : Nat) (a : Activity R) : Builds s n (fun _ r => r) a a :=
  ⟨id, fun _ => rfl⟩

theorem Builds.trans {change change' : Nat → R → R} (h : Builds s n change a b)
    (h' : Builds s n change' b c) : Builds s n (fun i r => change' i (change i r)) a c := by
  refine ⟨fun hw => h'.within (h.within hw), fun i => ?_⟩
  rw [h'.recordAt, h.recordAt]

theorem Builds.congr {change change' : Nat → R → R} (h : Builds s n change a b)
    (hchange : ∀ i r, change' i r = change i r) : Builds s n change' a b :=
  ⟨h.within, fun i => (h.recordAt i).trans (hchange i _).symm⟩

theorem builds_update (s : Slot) (hi : i < n) (f : R → R) (a : Activity R) :
    Builds s n (fun j r => if j = i then f r else r) a (a.update s i f) :=
  ⟨fun h => h.update hi f, recordAt_update a s i f⟩

/-- Changes one after the other, of something that has the activity in it. -/
theorem builds_foldl {A B : Type} (view : B → Activity R) {step : B → A → B}
    {change : A → Nat → R → R} {xs : List A}
    (h : ∀ x ∈ xs, ∀ b, Builds s n (change x) (view b) (view (step b x))) (b : B) :
    Builds s n (fun i r => xs.foldl (fun r x => change x i r) r) (view b)
      (view (xs.foldl step b)) := by
  induction xs generalizing b with
  | nil => exact .refl s n (view b)
  | cons x xs ih =>
    have hfirst := h x List.mem_cons_self b
    exact hfirst.trans (ih (fun y hy => h y (List.mem_cons_of_mem x hy)) _)

omit [Inhabited R] in
/-- A change of every record of a slot. -/
theorem records_fill_map (a : Activity R) (s : Slot) (f : R → R) :
    ({ a with buffer := a.buffer.fill s ((a.records s).map f) }).records s =
      (a.records s).map f := by
  have hlen := a.length_records s
  have hroom : ((a.records s).map f).length ≤ a.buffer.allocated := by
    rw [List.length_map, hlen]
    exact Nat.min_le_right _ _
  have hcol := SampleBuffer.length_column a.buffer s
  show ((a.buffer.fill s ((a.records s).map f)).column s).take (a.buffer.observed.get s) = _
  rw [SampleBuffer.column_fill hroom, List.take_append, List.length_map, hlen,
    List.take_of_length_le (by rw [List.length_map, hlen]; exact Nat.min_le_left _ _)]
  -- Behind the records there is either nothing to show or nothing at all.
  rcases Nat.le_total (a.buffer.observed.get s) a.buffer.allocated with hle | hle
  · rw [Nat.min_eq_left hle, Nat.sub_self, List.take_zero, List.append_nil]
  · rw [Nat.min_eq_right hle, List.drop_of_length_le (Nat.le_of_eq hcol), List.take_nil,
      List.append_nil]

end Activity

end ActivityArchive
