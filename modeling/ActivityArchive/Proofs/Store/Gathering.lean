import ActivityArchive.Store.Fetch

/-!
How the values of a record are gathered into sets. Sets can be filtered before or after; entries
that come metric by metric give their sets back (`gather_spread`), and so do entries that come row
by row (`gather_rows`).
-/
namespace ActivityArchive.Store

variable {sets : List ValueSet} {id : MetricId} {r : Reading}

def metricReading? (s : Store) (v : StoredValue) : Option (MetricId × Reading) :=
  (s.reading? v).map fun r => (v.metric, r)

def collectAll (sets : List ValueSet) (xs : List (MetricId × Reading)) : List ValueSet :=
  xs.foldl (fun sets x => collect sets x.1 x.2) sets

def gather (xs : List (MetricId × Reading)) : List ValueSet := collectAll [] xs

theorem collectAll_append (sets : List ValueSet) (xs ys : List (MetricId × Reading)) :
    collectAll sets (xs ++ ys) = collectAll (collectAll sets xs) ys := List.foldl_append

/-- What one stored value adds. -/
def add (s : Store) (sets : List ValueSet) (v : StoredValue) : List ValueSet :=
  match s.reading? v with
  | some r => collect sets v.metric r
  | none => sets

theorem sets_decode (s : Store) (record : StoredRecord) :
    (s.decode record).sets = gather (record.values.filterMap s.metricReading?) := by
  have key : ∀ (vs : List StoredValue) (sets : List ValueSet),
      vs.foldl s.add sets = collectAll sets (vs.filterMap s.metricReading?) := by
    intro vs
    induction vs with
    | nil => intro sets; rfl
    | cons v vs ih =>
      intro sets
      rw [List.foldl_cons, ih, add]
      cases hr : s.reading? v with
      | none =>
        have he : s.metricReading? v = none := by rw [metricReading?, hr]; rfl
        rw [List.filterMap_cons_none he]
      | some r =>
        have he : s.metricReading? v = some (v.metric, r) := by rw [metricReading?, hr]; rfl
        rw [List.filterMap_cons_some he]
        rfl
  exact key record.values []

theorem filter_collect (p : MetricId → Bool) (sets : List ValueSet) (id : MetricId)
    (r : Reading) :
    (collect sets id r).filter (p ·.id) =
      if p id then collect (sets.filter (p ·.id)) id r else sets.filter (p ·.id) := by
  induction sets with
  | nil => by_cases hp : p id <;> simp [collect, hp]
  | cons set sets ih =>
    by_cases hid : set.id = id
    · subst hid
      by_cases hp : p set.id <;> simp [collect, hp]
    · by_cases hset : p set.id <;> by_cases hp : p id <;>
        simp [collect, hid, hset, hp] at ih ⊢ <;> exact ih

theorem filter_gather (p : MetricId → Bool) (xs : List (MetricId × Reading)) :
    (gather xs).filter (p ·.id) = gather (xs.filter (p ·.1)) := by
  have key : ∀ sets : List ValueSet, (collectAll sets xs).filter (p ·.id) =
      collectAll (sets.filter (p ·.id)) (xs.filter (p ·.1)) := by
    induction xs with
    | nil => intro sets; rfl
    | cons x xs ih =>
      intro sets
      show (collectAll (collect sets x.1 x.2) xs).filter (p ·.id) = _
      rw [ih, filter_collect]
      by_cases hp : p x.1
      · rw [if_pos hp, List.filter_cons_of_pos (by exact hp)]
        rfl
      · rw [if_neg hp, List.filter_cons_of_neg (by exact hp)]
  exact key []

theorem collect_fresh (h : ∀ set ∈ sets, set.id ≠ id) :
    collect sets id r = sets ++ [⟨id, [r]⟩] := by
  induction sets with
  | nil => rfl
  | cons set sets ih =>
    have hset := h set List.mem_cons_self
    rw [collect, if_neg hset, ih fun x hx => h x (List.mem_cons_of_mem set hx), List.cons_append]

theorem collect_known {rest : List ValueSet} {rs : List Reading}
    (h : ∀ set ∈ sets, set.id ≠ id) :
    collect (sets ++ ⟨id, rs⟩ :: rest) id r = sets ++ ⟨id, rs ++ [r]⟩ :: rest := by
  induction sets with
  | nil => simp [collect]
  | cons set sets ih =>
    have hset := h set List.mem_cons_self
    rw [List.cons_append, collect, if_neg hset, ih fun x hx => h x (List.mem_cons_of_mem set hx),
      List.cons_append]

/-- The entries of some sets, set by set. -/
def spread (sets : List ValueSet) : List (MetricId × Reading) :=
  sets.flatMap fun set => set.readings.map fun r => (set.id, r)

theorem collectAll_set (h : ∀ set ∈ sets, set.id ≠ id) {rs : List Reading} (hrs : rs ≠ []) :
    collectAll sets (rs.map fun r => (id, r)) = sets ++ [⟨id, rs⟩] := by
  have hmore : ∀ done rs, collectAll (sets ++ [⟨id, done⟩]) (rs.map fun r => (id, r)) =
      sets ++ [⟨id, done ++ rs⟩] := by
    intro done rs
    induction rs generalizing done with
    | nil => simp [collectAll]
    | cons r rs ih =>
      show collectAll (collect _ id r) _ = _
      rw [collect_known h, ih, List.append_assoc, List.singleton_append]
  cases rs with
  | nil => exact absurd rfl hrs
  | cons r rs =>
    show collectAll (collect sets id r) _ = _
    rw [collect_fresh h]
    exact hmore [r] rs

theorem collectAll_spread {done : List ValueSet} (hnd : ((done ++ sets).map (·.id)).Nodup)
    (hne : ∀ set ∈ sets, set.readings ≠ []) :
    collectAll done (spread sets) = done ++ sets := by
  induction sets generalizing done with
  | nil => simp [spread, collectAll]
  | cons set sets ih =>
    have hfresh : ∀ x ∈ done, x.id ≠ set.id := by
      intro x hx hid
      rw [List.map_append, List.nodup_append] at hnd
      exact hnd.2.2 _ (List.mem_map_of_mem hx) _ (by simp) hid
    have hmove : done ++ set :: sets = (done ++ [set]) ++ sets := by simp
    rw [hmove] at hnd ⊢
    have hset := collectAll_set hfresh (hne set List.mem_cons_self)
    rw [spread, List.flatMap_cons, collectAll_append, hset]
    exact ih hnd fun x hx => hne x (List.mem_cons_of_mem set hx)

/-- Entries that come set by set. -/
theorem gather_spread (hnd : (sets.map (·.id)).Nodup)
    (hne : ∀ set ∈ sets, set.readings ≠ []) :
    gather (spread sets) = sets := collectAll_spread hnd hne

section Rows

variable {A B : Type} {ident : A → MetricId} {f : A → B → Reading} {cols : List A}

/-- One row adds a reading to the set of every column. -/
theorem collectAll_row {done : List ValueSet} {pre : List B} (b : B)
    (hnd : (done.map (·.id) ++ cols.map ident).Nodup) :
    collectAll (done ++ cols.map fun c => ⟨ident c, pre.map (f c)⟩)
        (cols.map fun c => (ident c, f c b)) =
      done ++ cols.map fun c => ⟨ident c, (pre ++ [b]).map (f c)⟩ := by
  induction cols generalizing done with
  | nil => simp [collectAll]
  | cons c cols ih =>
    have hfresh : ∀ x ∈ done, x.id ≠ ident c := by
      intro x hx hid
      exact (List.nodup_append.mp hnd).2.2 _ (List.mem_map_of_mem hx) _ (by simp) hid
    have hnd' : ((done ++ [ValueSet.mk (ident c) ((pre ++ [b]).map (f c))]).map ValueSet.id ++
        cols.map ident).Nodup := by simpa using hnd
    have hstep := ih hnd'
    show collectAll (collect _ (ident c) (f c b)) _ = _
    rw [List.map_cons, collect_known hfresh]
    simpa using hstep

/-- Entries that come row by row, each row with one entry for each column. -/
theorem gather_rows {rows : List B} (hnd : (cols.map ident).Nodup) (hne : rows ≠ []) :
    gather (rows.flatMap fun b => cols.map fun c => (ident c, f c b)) =
      cols.map fun c => ⟨ident c, rows.map (f c)⟩ := by
  have hmore : ∀ pre rest : List B,
      collectAll (cols.map fun c => ⟨ident c, pre.map (f c)⟩)
          (rest.flatMap fun b => cols.map fun c => (ident c, f c b)) =
        cols.map fun c => ⟨ident c, (pre ++ rest).map (f c)⟩ := by
    intro pre rest
    induction rest generalizing pre with
    | nil => simp [collectAll]
    | cons b rest ih =>
      have hrow : collectAll ([] ++ cols.map fun c => ⟨ident c, pre.map (f c)⟩)
          (cols.map fun c => (ident c, f c b)) = _ := collectAll_row b (by simpa using hnd)
      rw [List.nil_append, List.nil_append] at hrow
      rw [List.flatMap_cons, collectAll_append, hrow, ih]
      simp
  cases rows with
  | nil => exact absurd rfl hne
  | cons b rest =>
    have hfirst : gather (cols.map fun c => (ident c, f c b)) =
        cols.map fun c => ⟨ident c, [b].map (f c)⟩ := by
      have hspread : (cols.map fun c => (ident c, f c b)) =
          spread (cols.map fun c => ⟨ident c, [f c b]⟩) := by
        rw [spread, List.flatMap_map]
        exact List.map_eq_flatMap
      rw [hspread, gather_spread]
      · rfl
      · rw [List.map_map]
        exact hnd
      · simp
    rw [List.flatMap_cons, gather, collectAll_append]
    exact (congrArg (collectAll · _) hfirst).trans (hmore [b] rest)

end Rows

end ActivityArchive.Store
