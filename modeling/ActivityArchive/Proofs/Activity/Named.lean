import ActivityArchive.Proofs.Activity.Interrupts
import ActivityArchive.Proofs.Buffer.Cells
import ActivityArchive.Proofs.Record.InterruptTable

/-!
Interrupt counts by the name of their line. A line keeps its column once it has one, so whatever
becomes known later, and in whatever order samples name their lines, a count is found again under
the row and the name it was put under (`Puts`, `Showing.absorbCell`).
-/
namespace ActivityArchive.Interrupts

open GridBuffer Record

variable {a b c : Interrupts} {s : Slot} {f : Nat → String → UInt64}
  {keys keys' : List (Nat × String)}

/-- Different lines, and no column that belongs to none of them. -/
structure Named (a : Interrupts) : Prop where
  nodup : a.lines.Nodup
  sized : a.grid.Sized
  columns : a.grid.lines ≤ a.lines.length

def countAt (a : Interrupts) (s : Slot) (row : Nat) (name : String) : UInt64 :=
  a.grid.recordAt s row (a.lineIndex name)

theorem named_empty : empty.Named := ⟨List.nodup_nil, sized_empty, Nat.le_refl 0⟩

theorem Named.countAt_of_notMem (h : a.Named) {name : String} (hname : name ∉ a.lines) (s : Slot)
    (row : Nat) : a.countAt s row name = 0 := by
  have hbehind : a.grid.lines ≤ a.lineIndex name := by
    rw [lineIndex, List.idxOf_eq_length hname]
    exact h.columns
  exact recordAt_of_lines_le hbehind s row

/-- What leads from interrupts to interrupts: counts of a slot put under some rows and names, and
nothing else changed. -/
structure Puts (s : Slot) (f : Nat → String → UInt64) (keys : List (Nat × String))
    (a b : Interrupts) : Prop where
  lines : a.lines <+: b.lines
  countAt : ∀ row name, b.countAt s row name =
    if (row, name) ∈ keys then f row name else a.countAt s row name

theorem Puts.refl (s : Slot) (f : Nat → String → UInt64) (a : Interrupts) : Puts s f [] a a :=
  ⟨List.prefix_rfl, fun _ _ => rfl⟩

theorem Puts.trans (h : Puts s f keys a b) (h' : Puts s f keys' b c) :
    Puts s f (keys ++ keys') a c := by
  refine ⟨h.lines.trans h'.lines, fun row name => ?_⟩
  rw [h'.countAt, h.countAt]
  by_cases hlate : (row, name) ∈ keys'
  · simp [hlate]
  · simp [hlate]

/-- Steps one after the other, on something that has the interrupts in it. -/
theorem puts_foldl {A B : Type} (view : B → Interrupts) {P : B → Prop} {step : B → A → B}
    {keys : A → List (Nat × String)} {xs : List A}
    (h : ∀ x ∈ xs, ∀ b, P b → P (step b x) ∧ Puts s f (keys x) (view b) (view (step b x)))
    {b : B}
    (hb : P b) :
    P (xs.foldl step b) ∧ Puts s f (xs.flatMap keys) (view b) (view (xs.foldl step b)) := by
  induction xs generalizing b with
  | nil => exact ⟨hb, .refl s f (view b)⟩
  | cons x xs ih =>
    obtain ⟨hstep, hputs⟩ := h x List.mem_cons_self b hb
    obtain ⟨hlast, hrest⟩ := ih (fun y hy => h y (List.mem_cons_of_mem x hy)) hstep
    exact ⟨hlast, hputs.trans hrest⟩

theorem lines_addLine (a : Interrupts) (name : String) :
    a.lines <+: (a.addLine name).lines ∧ name ∈ (a.addLine name).lines := by
  unfold addLine
  split
  · exact ⟨List.prefix_rfl, ‹_›⟩
  · exact ⟨List.prefix_append _ _, List.mem_append_right _ List.mem_cons_self⟩

theorem lines_addLines (a : Interrupts) (names : List String) :
    a.lines <+: (a.addLines names).lines ∧
    ∀ name ∈ names, name ∈ (a.addLines names).lines := by
  induction names generalizing a with
  | nil => exact ⟨List.prefix_rfl, by simp⟩
  | cons name names ih =>
    obtain ⟨hfirst, hname⟩ := lines_addLine a name
    obtain ⟨hrest, hnames⟩ := ih (a.addLine name)
    refine ⟨hfirst.trans hrest, fun other hother => ?_⟩
    rcases List.mem_cons.mp hother with rfl | hother
    · exact hrest.subset hname
    · exact hnames other hother

theorem grid_addLine (a : Interrupts) (name : String) : (a.addLine name).grid = a.grid := by
  unfold addLine
  split <;> rfl

theorem grid_addLines (a : Interrupts) (names : List String) :
    (a.addLines names).grid = a.grid := by
  induction names generalizing a with
  | nil => rfl
  | cons name names ih => exact (ih (a.addLine name)).trans (grid_addLine a name)

theorem Named.addLine (h : a.Named) (name : String) : (a.addLine name).Named := by
  unfold Interrupts.addLine
  split
  · exact h
  · rename_i hname
    refine ⟨List.Nodup.append h.nodup (List.nodup_singleton name) (by simpa using hname), h.sized,
      ?_⟩
    · show a.grid.lines ≤ (a.lines ++ [name]).length
      rw [List.length_append]
      exact Nat.le_add_right_of_le h.columns

/-- A new line has no counts yet, and the others keep theirs. -/
theorem Named.puts_addLine (h : a.Named) (s : Slot) (f : Nat → String → UInt64)
    (name : String) :
    Puts s f [] a (a.addLine name) := by
  unfold Interrupts.addLine
  split
  · exact .refl s f a
  · refine ⟨List.prefix_append _ _, fun row other => ?_⟩
    by_cases hother : other ∈ a.lines
    · have hindex : (a.lines ++ [name]).idxOf other = a.lines.idxOf other := by
        rw [List.idxOf_append, if_pos hother]
      exact congrArg (a.grid.recordAt s row) hindex
    · have hbehind : a.grid.lines ≤ (a.lines ++ [name]).idxOf other := by
        rw [List.idxOf_append, if_neg hother]
        exact Nat.le_add_left_of_le h.columns
      exact (recordAt_of_lines_le hbehind s row).trans (h.countAt_of_notMem hother s row).symm

theorem Named.addLines (h : a.Named) (s : Slot) (f : Nat → String → UInt64)
    (names : List String) :
    (a.addLines names).Named ∧ Puts s f [] a (a.addLines names) := by
  have hall : (a.addLines names).Named ∧
      Puts s f (names.flatMap fun _ => []) a (a.addLines names) :=
    puts_foldl (fun a => a) (P := Named)
      (fun name _ a ha => ⟨ha.addLine name, ha.puts_addLine s f name⟩) h
  rw [List.flatMap_eq_nil_iff.mpr fun _ _ => rfl] at hall
  exact hall

/-- Room for some rows of all known lines. -/
structure Roomy (rows : Nat) (a : Interrupts) : Prop where
  named : a.Named
  rows : rows ≤ a.grid.cpus
  columns : a.grid.lines = a.lines.length

/-- The same interrupts with another grid. -/
def withGrid (a : Interrupts) (g : GridBuffer UInt64) : Interrupts := { a with grid := g }

theorem Named.observe (h : a.Named) (s : Slot) (f : Nat → String → UInt64) (rows : Nat) :
    Roomy rows (a.withGrid (a.grid.observe s rows a.lines.length)) ∧
      Puts s f [] a (a.withGrid (a.grid.observe s rows a.lines.length)) := by
  have hcolumns : (a.grid.observe s rows a.lines.length).lines = a.lines.length :=
    Nat.max_eq_right h.columns
  refine ⟨⟨⟨h.nodup, sized_observe h.sized s _ _, Nat.le_of_eq hcolumns⟩,
    Nat.le_max_right _ _, hcolumns⟩, List.prefix_rfl, fun row name => ?_⟩
  exact recordAt_observe h.sized s s rows a.lines.length row _

/-- A count that is written into a row there is room for. -/
theorem Roomy.put {rows row : Nat} {name : String} {v : UInt64} (h : a.Roomy rows)
    (hrow : row < rows) (hname : name ∈ a.lines) (hv : v = f row name) :
    Roomy rows (a.withGrid (write s row a.grid (a.lineIndex name, v))) ∧
      (write s row a.grid (a.lineIndex name, v)).observed = a.grid.observed ∧
      Puts s f [(row, name)] a (a.withGrid (write s row a.grid (a.lineIndex name, v))) := by
  have hline : a.lineIndex name < a.grid.lines := by
    rw [h.columns]
    exact List.idxOf_lt_length_of_mem hname
  obtain ⟨g, hset, hcpus, hlines, hobserved⟩ :=
    setAt_ok (Nat.lt_of_lt_of_le hrow h.rows) hline s v
  have hwrite : write s row a.grid (a.lineIndex name, v) = g := by rw [write, hset]
  rw [hwrite]
  refine ⟨⟨⟨h.named.nodup, sized_of_setAt h.named.sized hset, ?_⟩, ?_,
    hlines.trans h.columns⟩, hobserved, List.prefix_rfl, fun r other => ?_⟩
  · show g.lines ≤ a.lines.length
    rw [hlines]
    exact h.named.columns
  · show rows ≤ g.cpus
    rw [hcpus]
    exact h.rows
  · have hindex : a.lineIndex other = a.lineIndex name ↔ other = name := by
      rw [eq_comm, lineIndex, lineIndex, List.idxOf_inj hname, eq_comm]
    refine (recordAt_setAt h.named.sized hset r _).trans ?_
    simp only [List.mem_singleton, Prod.mk.injEq]
    by_cases hkey : r = row ∧ other = name
    · rw [if_pos hkey, if_pos ⟨hkey.1, hindex.mpr hkey.2⟩, hv, hkey.1, hkey.2]
    · rw [if_neg hkey, if_neg fun hcell => hkey ⟨hcell.1, hindex.mp hcell.2⟩]
      rfl

theorem named_clear (h : a.Named) (s : Slot) : (a.clear s).Named :=
  ⟨h.nodup, sized_clear h.sized s, h.columns⟩

theorem countAt_clear (a : Interrupts) (s : Slot) (row : Nat) (name : String) :
    (a.clear s).countAt s row name = 0 := recordAt_clear a.grid s row _

/-- The counts of a row, line by line. -/
theorem Named.row_eq (h : a.Named) (hcolumns : a.grid.lines = a.lines.length) (s : Slot) {row : Nat}
    (hrow : row < a.grid.cpus) :
    (a.grid.rowCells row).map (·.get s) = a.lines.map (a.countAt s row) := by
  have hwidth : ((a.grid.rowCells row).map (·.get s)).length = a.lines.length := by
    rw [List.length_map, h.sized.length_rowCells hrow, hcolumns]
  refine List.ext_getElem (by rw [hwidth, List.length_map]) fun i hi hline => ?_
  rw [List.length_map] at hline
  have hindex : a.lineIndex a.lines[i] = i := h.nodup.idxOf_getElem i hline
  rw [List.getElem_map (f := a.countAt s row), countAt, hindex, recordAt, getD_of_lt hi]

/-- Lines that begin with the sum. -/
structure Listed (a : Interrupts) : Prop where
  named : a.Named
  first : a.lines.head? = some GroupSpec.sumLine

theorem head?_of_isPrefix {xs ys : List String} {x : String} (h : xs <+: ys)
    (hx : xs.head? = some x) : ys.head? = some x := by
  obtain ⟨rest, rfl⟩ := h
  rw [List.head?_append, hx]
  rfl

/-- The first lines that become known begin with the sum. -/
theorem head?_addLines {t : InterruptTable} (ht : t.lines.head? = some GroupSpec.sumLine)
    (h : a.lines = [] ∨ a.lines.head? = some GroupSpec.sumLine) :
    (a.addLines t.lines).lines.head? = some GroupSpec.sumLine := by
  rcases h with hnone | hfirst
  · obtain ⟨rest, hlines⟩ := List.head?_eq_some_iff.mp ht
    have hstart : (a.addLine GroupSpec.sumLine).lines = [GroupSpec.sumLine] := by
      simp [addLine, hnone]
    rw [hlines]
    refine head?_of_isPrefix (lines_addLines (a.addLine GroupSpec.sumLine) rest).1 ?_
    rw [hstart]
    rfl
  · exact head?_of_isPrefix (lines_addLines a t.lines).1 hfirst

/-- What a slot shows: the rows that were observed, and nothing behind them. -/
structure Showing (a : Interrupts) (s : Slot) : Prop where
  named : a.Named
  blank : ∀ row, (a.grid.observed.get s).1 ≤ row → ∀ name, a.countAt s row name = 0

/-- A slot without counts. -/
structure Blank (a : Interrupts) (s : Slot) : Prop where
  named : a.Named
  counts : ∀ row name, a.countAt s row name = 0

theorem Blank.showing (h : a.Blank s) : a.Showing s := ⟨h.named, fun row _ => h.counts row⟩

theorem blank_clear (h : a.Named) (s : Slot) : (a.clear s).Blank s :=
  ⟨named_clear h s, countAt_clear a s⟩

theorem blank_empty (s : Slot) : empty.Blank s := ⟨named_empty, fun _ _ => rfl⟩

/-- A count that is taken in, with room for its row and its line. -/
theorem Named.absorbCell (h : a.Named) (row : Nat) (name : String) {count : UInt64}
    (hcount : count = f row name) :
    (GroupSpec.absorbCell a s row name count).Named ∧
      ((GroupSpec.absorbCell a s row name count).grid.observed.get s).1 =
        max (a.grid.observed.get s).1 (row + 1) ∧
      Puts s f [(row, name)] a (GroupSpec.absorbCell a s row name count) := by
  have hsum := h.puts_addLine s f GroupSpec.sumLine
  have hname := (h.addLine GroupSpec.sumLine).puts_addLine s f name
  obtain ⟨hroomy, hroom⟩ := ((h.addLine GroupSpec.sumLine).addLine name).observe s f (row + 1)
  obtain ⟨hlast, hobserved, hput⟩ := hroomy.put (s := s) (f := f) (Nat.lt_succ_self row)
    (lines_addLine (a.addLine GroupSpec.sumLine) name).2 hcount
  refine ⟨hlast.named, ?_, ((hsum.trans hname).trans hroom).trans hput⟩
  have hrows := congrArg (fun o : Pair (Nat × Nat) => (o.get s).1) hobserved
  refine hrows.trans ((congrArg Prod.fst (observed_observe _ s _ _)).trans ?_)
  rw [grid_addLine, grid_addLine]

/-- No row behind the one of the count comes to be shown. -/
theorem Showing.absorbCell (h : a.Showing s) (row : Nat) (name : String) {count : UInt64}
    (hcount : count = f row name) :
    (GroupSpec.absorbCell a s row name count).Showing s ∧
      ((GroupSpec.absorbCell a s row name count).grid.observed.get s).1 =
        max (a.grid.observed.get s).1 (row + 1) ∧
      Puts s f [(row, name)] a (GroupSpec.absorbCell a s row name count) := by
  obtain ⟨hnamed, hrows, hall⟩ := h.named.absorbCell (s := s) row name hcount
  refine ⟨⟨hnamed, fun r hr other => ?_⟩, hrows, hall⟩
  rw [hrows] at hr
  have hkey : (r, other) ∉ [(row, name)] := by
    simp only [List.mem_singleton, Prod.mk.injEq]
    omega
  rw [hall.countAt, if_neg hkey]
  exact h.blank r (by omega) other

/-- The rows that are unloaded, each filled up to the known lines. -/
theorem unload_eq (h : a.grid.Sized) (hrows : (a.grid.observed.get s).1 ≠ 0) :
    a.unload s = .ok (some ⟨a.lines, ((List.range (a.grid.observed.get s).1).map fun cpu =>
      (a.grid.rowCells cpu).map (·.get s)).map fun r =>
        r.take a.lines.length ++ List.replicate (a.lines.length - r.length) 0⟩) := by
  have hread : (List.range (a.grid.observed.get s).1).mapM (a.grid.row s) =
      .ok ((List.range (a.grid.observed.get s).1).map fun cpu =>
        (a.grid.rowCells cpu).map (·.get s)) :=
    mapM_ok fun cpu hcpu => h.row_ok s
      (Nat.lt_of_lt_of_le (List.mem_range.mp hcpu) (h.observed s))
  rw [Interrupts.unload, if_neg hrows, hread]
  rfl

theorem observed_of_unload {t : InterruptTable} (ht : a.unload s = .ok (some t)) :
    (a.grid.observed.get s).1 ≠ 0 := by
  intro hnone
  rw [Interrupts.unload, if_pos hnone] at ht
  cases ht

theorem length_unload (h : a.grid.Sized) {t : InterruptTable} (ht : a.unload s = .ok (some t)) :
    t.counts.length = (a.grid.observed.get s).1 := by
  rw [unload_eq h (observed_of_unload ht)] at ht
  cases ht
  simp

/-- Every row that is unloaded has a count for each line. -/
theorem width_unload (h : a.grid.Sized) {t : InterruptTable} (ht : a.unload s = .ok (some t)) :
    ∀ row ∈ t.counts, row.length = t.lines.length := by
  rw [unload_eq h (observed_of_unload ht)] at ht
  cases ht
  simp only [List.mem_map]
  rintro row ⟨cells, -, rfl⟩
  rw [List.length_append, List.length_take, List.length_replicate]
  omega

/-- A slot that shows a row is unloaded as a table with the same counts. -/
theorem Showing.unload (h : a.Showing s) (hrows : (a.grid.observed.get s).1 ≠ 0) :
    ∃ t, a.unload s = .ok (some t) ∧ t.lines = a.lines ∧
      ∀ row name, t.countAt row name = a.countAt s row name := by
  refine ⟨_, unload_eq h.named.sized hrows, rfl, fun row name => ?_⟩
  by_cases hrow : row < (a.grid.observed.get s).1
  · have hlen : ((a.grid.rowCells row).map (·.get s)).length ≤ a.lines.length := by
      rw [List.length_map]
      exact Nat.le_trans (a.grid.length_rowCells_le row) h.named.columns
    refine (InterruptTable.countAt_eq ?_ name).trans ?_
    · simp [hrow]
      omega
    · simp only [List.getD_eq_getElem?_getD, List.getElem?_map, List.getElem?_range hrow,
        Option.map_some, Option.getD_some, List.take_of_length_le hlen]
      rw [← List.getD_eq_getElem?_getD, getD_append_replicate]
      rfl
  · have hrow := Nat.le_of_not_lt hrow
    rw [h.blank row hrow]
    exact InterruptTable.countAt_of_length_le (by simpa using hrow) name

end ActivityArchive.Interrupts
