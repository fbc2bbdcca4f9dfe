import ActivityArchive.Proofs.Activity.Holding

/-!
Records that are built column by column. The first column adds a record for each row. Every later
one finds the record of its row again, since the rows have different keys and a change of a record
keeps its key. In the end there is a record for each row, in their order (`holds_columns`).
-/
namespace ActivityArchive.Activity

section Owners

variable {A R T : Type} {rows done : List A} {row : A} {owns : A → R → Bool} {key : R → T}
  {tag : A → T} {f : A → R}

/-- The records of other rows are not owned. -/
theorem not_owned (howns : ∀ row r, owns row r = true ↔ key r = tag row)
    (hf : ∀ row, key (f row) = tag row) (hnd : ((done ++ row :: rows).map tag).Nodup) :
    ∀ r ∈ done.map f, owns row r = false := by
  intro r hr
  obtain ⟨other, hother, rfl⟩ := List.mem_map.mp hr
  rw [← Bool.not_eq_true, howns, hf]
  rw [List.map_append, List.nodup_append] at hnd
  exact hnd.2.2 _ (List.mem_map_of_mem hother) _ (by simp)

end Owners

variable {A C R T : Type} [Inhabited R] {a : Activity R} {s : Slot} {rows done : List A}
  {owns : A → R → Bool} {key : R → T} {tag : A → T} {step : A → R → R} {f : A → R}

/-- One column: a change for every row, of the record that the row owns. -/
def column (s : Slot) (owns : A → R → Bool) (step : A → R → R) (rows : List A)
    (a : Activity R) :
    Activity R :=
  rows.foldl (fun a row => a.updateBy s (owns row) (step row)) a

theorem holds_first_column (h : a.Holds s (done.map fun row => step row default))
    (howns : ∀ row r, owns row r = true ↔ key r = tag row)
    (hstep : ∀ row r, key (step row r) = tag row) (hnd : ((done ++ rows).map tag).Nodup) :
    (column s owns step rows a).Holds s ((done ++ rows).map fun row => step row default) := by
  induction rows generalizing done a with
  | nil =>
    rw [List.append_nil]
    exact h
  | cons row rows ih =>
    have hadd := h.updateBy_fresh (not_owned howns (fun row => hstep row default) hnd) (step row)
    have hmove : done ++ row :: rows = (done ++ [row]) ++ rows := by simp
    rw [hmove] at hnd ⊢
    refine ih ?_ hnd
    rw [List.map_append]
    exact hadd

theorem holds_later_column
    (h : a.Holds s ((done.map fun row => step row (f row)) ++ rows.map f))
    (howns : ∀ row r, owns row r = true ↔ key r = tag row)
    (hstep : ∀ row r, key (step row r) = tag row) (hf : ∀ row, key (f row) = tag row)
    (hnd : ((done ++ rows).map tag).Nodup) :
    (column s owns step rows a).Holds s ((done ++ rows).map fun row => step row (f row)) := by
  induction rows generalizing done a with
  | nil =>
    rw [List.map_nil, List.append_nil] at h
    rw [List.append_nil]
    exact h
  | cons row rows ih =>
    have hown : owns row (f row) = true := (howns row (f row)).mpr (hf row)
    have hchange := h.updateBy_known (by rw [List.map_cons])
      (not_owned howns (fun row => hstep row (f row)) hnd) hown (step row)
    have hmove : done ++ row :: rows = (done ++ [row]) ++ rows := by simp
    rw [hmove] at hnd ⊢
    refine ih ?_ hnd
    rw [List.map_append, List.append_assoc]
    exact hchange

/-- What the columns make of the record of a row, one after the other. -/
def build (step : C → A → R → R) (cols : List C) (row : A) (r : R) : R :=
  cols.foldl (fun r c => step c row r) r

/-- Columns one after the other, each with a change for every row. -/
theorem holds_columns {cols : List C} {step : C → A → R → R} (h : a.Holds s [])
    (hne : cols ≠ []) (howns : ∀ row r, owns row r = true ↔ key r = tag row)
    (hstep : ∀ c ∈ cols, ∀ row r, key (step c row r) = tag row) (hnd : (rows.map tag).Nodup) :
    (cols.foldl (fun a c => column s owns (step c) rows a) a).Holds s
      (rows.map fun row => build step cols row default) := by
  have hlater : ∀ (cols : List C) (f : A → R) (a : Activity R),
      (∀ c ∈ cols, ∀ row r, key (step c row r) = tag row) →
      (∀ row, key (f row) = tag row) → a.Holds s (rows.map f) →
      (cols.foldl (fun a c => column s owns (step c) rows a) a).Holds s
        (rows.map fun row => build step cols row (f row)) := by
    intro cols
    induction cols with
    | nil =>
      intro f a _ _ ha
      exact ha
    | cons c cols ih =>
      intro f a hcols hf ha
      have hc := hcols c List.mem_cons_self
      have hstart : a.Holds s ((([] : List A).map fun row => step c row (f row)) ++
          rows.map f) := ha
      refine ih (fun row => step c row (f row)) _
        (fun c' hc' => hcols c' (List.mem_cons_of_mem c hc')) (fun row => hc row (f row)) ?_
      exact holds_later_column hstart howns hc hf hnd
  cases cols with
  | nil => exact absurd rfl hne
  | cons c cols =>
    have hc := hstep c List.mem_cons_self
    have hstart : a.Holds s (([] : List A).map fun row => step c row default) := h
    refine hlater cols (fun row => step c row default) _
      (fun c' hc' => hstep c' (List.mem_cons_of_mem c hc')) (fun row => hc row default) ?_
    exact holds_first_column hstart howns hc hnd

end ActivityArchive.Activity
