import ActivityArchive.Proofs.Activity.Named

/-!
Any interrupt table as it is loaded: rows may be longer or shorter than the list of lines, and a
line may be named twice, in which case its last count stands. The rows there is room for are those
of the largest table so far, and on them depends whether row 0 is worked out or kept.
-/
namespace ActivityArchive

open Record

theorem lookup_reverse {K V : Type} [BEq K] [LawfulBEq K] {xs : List (K × V)}
    (h : (xs.map (·.1)).Nodup) (k : K) : xs.reverse.lookup k = xs.lookup k := by
  induction xs with
  | nil => rfl
  | cons x xs ih =>
    obtain ⟨key, v⟩ := x
    obtain ⟨hnot, hnd⟩ := List.nodup_cons.mp h
    rw [List.reverse_cons, List.lookup_append, ih hnd]
    by_cases hk : k = key
    · have hnone : xs.lookup k = none :=
        List.lookup_eq_none_iff.mpr fun p hp => bne_iff_ne.mpr fun he =>
          hnot (List.mem_map.mpr ⟨p, hp, he.symm.trans hk⟩)
      rw [hnone, Option.none_or, hk, List.lookup_cons_self, List.lookup_cons_self]
    · have hmiss : (k == key) = false := beq_eq_false_iff_ne.mpr hk
      simp [List.lookup_cons, hmiss]

namespace Record.InterruptTable

/-- The count that stands for a line in a row when all counts of the row are written in order. -/
def lastAt (t : InterruptTable) (row : Nat) (name : String) : UInt64 :=
  ((t.lines.zip (t.counts.getD row [])).reverse.lookup name).getD 0

theorem lastAt_of_length_le {t : InterruptTable} {row : Nat} (h : t.counts.length ≤ row)
    (name : String) : t.lastAt row name = 0 := by
  rw [lastAt, getD_of_le h, List.zip_nil_right]
  rfl

theorem lastAt_of_notMem {t : InterruptTable} {row : Nat} {name : String}
    (h : ∀ c ∈ t.lines.zip (t.counts.getD row []), c.1 ≠ name) : t.lastAt row name = 0 := by
  have hnone : (t.lines.zip (t.counts.getD row [])).reverse.lookup name = none :=
    List.lookup_eq_none_iff.mpr fun c hc => bne_iff_ne.mpr (h c (List.mem_reverse.mp hc)).symm
  rw [lastAt, hnone]
  rfl

/-- Where lines are different it is the only one. -/
theorem lastAt_eq {t : InterruptTable} (hnd : t.lines.Nodup)
    (hwidth : ∀ row ∈ t.counts, row.length = t.lines.length) (row : Nat) (name : String) :
    t.lastAt row name = t.countAt row name := by
  by_cases hrow : row < t.counts.length
  · have hfit : t.lines.length ≤ (t.counts.getD row []).length := by
      rw [getD_of_lt hrow]
      exact Nat.le_of_eq (hwidth _ (List.getElem_mem hrow)).symm
    have hkeys : ((t.lines.zip (t.counts.getD row [])).map (·.1)).Nodup := by
      rw [List.map_fst_zip hfit]
      exact hnd
    rw [lastAt, countAt, lookup_reverse hkeys]
  · rw [lastAt_of_length_le (Nat.le_of_not_lt hrow), countAt_of_length_le (Nat.le_of_not_lt hrow)]

theorem Proper.lastAt_eq {t : InterruptTable} (h : t.Proper) (row : Nat) (name : String) :
    t.lastAt row name = t.countAt row name := InterruptTable.lastAt_eq h.nodup h.width row name

/-- The sum of a line over the rows of the CPUs among the first rows, within a word. -/
def sumAt (t : InterruptTable) (rows : Nat) (name : String) : UInt64 :=
  ((List.range' 1 (rows - 1)).map fun row => t.lastAt row name).foldl (· + ·) 0

/-- Rows that a table does not have add nothing. -/
theorem sumAt_of_length_le {t : InterruptTable} {rows : Nat} (hpos : 1 ≤ t.counts.length)
    (h : t.counts.length ≤ rows) (name : String) :
    t.sumAt rows name = t.sumAt t.counts.length name := by
  obtain ⟨more, rfl⟩ : ∃ more, rows = t.counts.length + more :=
    ⟨rows - t.counts.length, by omega⟩
  induction more with
  | zero => rfl
  | succ more ih =>
    have hsucc : t.counts.length + (more + 1) - 1 = t.counts.length + more - 1 + 1 := by omega
    have hlast : t.lastAt (1 + (t.counts.length + more - 1)) name = 0 :=
      lastAt_of_length_le (by omega) name
    rw [sumAt, hsucc, List.range'_1_concat, List.map_append, List.foldl_append, List.map_cons,
      List.map_nil, List.foldl_cons, List.foldl_nil, hlast, UInt64.add_zero]
    exact ih (by omega)

theorem sumAt_min {t : InterruptTable} {room : Nat} (hpos : 1 ≤ t.counts.length)
    (h : t.counts.length ≤ room) (rows : Nat) (name : String) :
    t.sumAt (min rows room) name = t.sumAt (min rows t.counts.length) name := by
  rcases Nat.le_total t.counts.length rows with hle | hle
  · rw [Nat.min_eq_right hle, sumAt_of_length_le hpos (Nat.le_min.mpr ⟨hle, h⟩)]
  · rw [Nat.min_eq_left hle, Nat.min_eq_left (Nat.le_trans hle h)]

end Record.InterruptTable

namespace Interrupts

open GridBuffer

variable {a : Interrupts} {s : Slot} {t : InterruptTable}

/-- Counts of one row, written in order under their lines. -/
theorem Roomy.putCells {rows i : Nat} {cells : List (String × UInt64)} (h : a.Roomy rows)
    (hi : i < rows) (hnames : ∀ c ∈ cells, c.1 ∈ a.lines) :
    let g := (cells.map fun c => (a.lineIndex c.1, c.2)).foldl (write s i) a.grid
    (Roomy rows (a.withGrid g) ∧ g.observed = a.grid.observed) ∧
      ∀ row name, (a.withGrid g).countAt s row name =
        if row = i then (cells.reverse.lookup name).getD (a.countAt s row name)
        else a.countAt s row name := by
  induction cells generalizing a with
  | nil => exact ⟨⟨h, rfl⟩, fun row name => by split <;> rfl⟩
  | cons c cells ih =>
    obtain ⟨name, v⟩ := c
    obtain ⟨hroomy, hobserved, hput⟩ := h.put (s := s) (f := fun _ _ => v) hi
      (hnames _ List.mem_cons_self) rfl
    obtain ⟨⟨hlast, hlater⟩, hcounts⟩ := ih hroomy fun c hc =>
      hnames c (List.mem_cons_of_mem _ hc)
    refine ⟨⟨hlast, hlater.trans hobserved⟩, fun row other => (hcounts row other).trans ?_⟩
    have hfirst := hput.countAt row other
    simp only [List.mem_singleton, Prod.mk.injEq] at hfirst
    rw [List.reverse_cons, List.lookup_append, Option.getD_or, hfirst]
    by_cases hrow : row = i
    · by_cases hother : other = name
      · simp [hrow, hother]
      · have hmiss : (other == name) = false := beq_eq_false_iff_ne.mpr hother
        simp [hrow, hother, List.lookup_cons, hmiss]
    · simp [hrow]

/-- The rows of a table, written one after the other. -/
theorem Roomy.putTable (h : a.Roomy t.counts.length)
    (hlines : ∀ name ∈ t.lines, name ∈ a.lines) (s : Slot) :
    let g := t.counts.zipIdx.foldl (writeRow s (t.lines.map a.lineIndex)) a.grid
    (Roomy t.counts.length (a.withGrid g) ∧ g.observed = a.grid.observed) ∧
      Puts s t.lastAt
        (t.counts.zipIdx.flatMap fun row => (t.lines.zip row.1).map fun c => (row.2, c.1))
        a (a.withGrid g) := by
  let P : GridBuffer UInt64 → Prop := fun g =>
    Roomy t.counts.length (a.withGrid g) ∧ g.observed = a.grid.observed
  refine puts_foldl a.withGrid (P := P) (fun row hrow g hg => ?_) ⟨h, rfl⟩
  obtain ⟨row, i⟩ := row
  obtain ⟨-, hi, hget⟩ := List.mem_zipIdx hrow
  have hi : i < t.counts.length := by omega
  have hrow : row = t.counts.getD i [] := by
    rw [getD_of_lt hi, hget]
    rfl
  have hzip : (t.lines.map a.lineIndex).zip row =
      (t.lines.zip row).map fun c => (a.lineIndex c.1, c.2) := by
    rw [List.zip_map_left]
    rfl
  have hknown : ∀ c ∈ t.lines.zip row, c.1 ∈ a.lines := fun c hc =>
    hlines _ (List.of_mem_zip hc).1
  have hcells := hg.1.putCells (s := s) hi hknown
  obtain ⟨⟨hroomy, hobserved⟩, hcounts⟩ := hcells
  rw [writeRow, hzip]
  refine ⟨⟨hroomy, hobserved.trans hg.2⟩, List.prefix_rfl,
    fun r name => (hcounts r name).trans ?_⟩
  by_cases hr : r = i
  · subst hr
    rw [if_pos rfl, InterruptTable.lastAt, ← hrow]
    cases hlook : (t.lines.zip row).reverse.lookup name with
    | none =>
      have hnot : (r, name) ∉ (t.lines.zip row).map fun c => (r, c.1) := by
        intro hmem
        obtain ⟨c, hc, hkey⟩ := List.mem_map.mp hmem
        have hne := List.lookup_eq_none_iff.mp hlook c (List.mem_reverse.mpr hc)
        simp only [Prod.mk.injEq, true_and] at hkey
        simp [hkey] at hne
      rw [if_neg hnot]
      rfl
    | some v =>
      obtain ⟨before, after, hsplit, -⟩ := List.lookup_eq_some_iff.mp hlook
      have hmem : (name, v) ∈ t.lines.zip row := by
        rw [← List.mem_reverse, hsplit]
        simp
      rw [if_pos (List.mem_map.mpr ⟨_, hmem, rfl⟩)]
      rfl
  · have hnot : (r, name) ∉ (t.lines.zip row).map fun c => (i, c.1) := by
      intro hmem
      obtain ⟨c, -, hkey⟩ := List.mem_map.mp hmem
      exact hr (congrArg Prod.fst hkey).symm
    rw [if_neg hr, if_neg hnot]

/-- A slot after some table was loaded into it. -/
structure Loaded (a : Interrupts) (s : Slot) (t : InterruptTable) : Prop where
  roomy : a.Roomy t.counts.length
  rows : (a.grid.observed.get s).1 = t.counts.length
  lines : ∀ name ∈ t.lines, name ∈ a.lines
  countAt : ∀ row name, a.countAt s row name = t.lastAt row name

theorem Named.loaded (h : a.Named) (t : InterruptTable) (s : Slot) :
    (a.load s (some t)).Loaded s t ∧ a.lines <+: (a.load s (some t)).lines := by
  obtain ⟨hnamed, hknown⟩ := (named_clear h s).addLines s t.lastAt t.lines
  obtain ⟨hroomy, hroom⟩ := hnamed.observe s t.lastAt t.counts.length
  have hlines := (lines_addLines (a.clear s) t.lines).2
  obtain ⟨⟨hlast, hobserved⟩, hrows⟩ := hroomy.putTable hlines s
  have hall := (hknown.trans hroom).trans hrows
  refine ⟨⟨hlast, ?_, hlines, fun row name => ?_⟩, hall.lines⟩
  · have hcleared : ((a.clear s).addLines t.lines).grid.observed.get s = (0, 0) := by
      rw [grid_addLines]
      exact Pair.get_set_same _ s _
    have hrows := congrArg (fun o : Pair (Nat × Nat) => (o.get s).1) hobserved
    refine hrows.trans ((congrArg Prod.fst (observed_observe _ s _ _)).trans ?_)
    rw [hcleared]
    exact Nat.zero_max _
  · refine (hall.countAt row name).trans ?_
    rw [countAt_clear]
    split
    · rfl
    · rename_i hkey
      by_cases hrow : row < t.counts.length
      · refine (InterruptTable.lastAt_of_notMem fun c hc hname => hkey ?_).symm
        have hmem := List.mk_mem_zipIdx_iff_getElem?.mpr (List.getElem?_eq_getElem hrow)
        rw [getD_of_lt hrow] at hc
        exact List.mem_append_right _ (List.mem_flatMap.mpr
          ⟨_, hmem, List.mem_map.mpr ⟨c, hc, Prod.ext rfl hname⟩⟩)
      · exact (InterruptTable.lastAt_of_length_le (Nat.le_of_not_lt hrow) name).symm

theorem Named.load (h : a.Named) (s : Slot) (sample : Option InterruptTable) :
    (a.load s sample).Named := by
  cases sample with
  | none => exact named_clear h s
  | some t => exact (h.loaded t s).1.roomy.named

/-- A sample that is loaded keeps the sum first. -/
theorem Listed.load (h : a.Listed) (s : Slot) (sample : Option InterruptTable) :
    (a.load s sample).Listed := by
  refine ⟨h.named.load s sample, ?_⟩
  cases sample with
  | none => exact h.first
  | some t => exact head?_of_isPrefix (h.named.loaded t s).2 h.first

theorem cpus_write (s : Slot) (row : Nat) (g : GridBuffer UInt64) (cell : Nat × UInt64) :
    (write s row g cell).cpus = g.cpus := by
  unfold write setAt
  cases g.offset? row cell.1 <;> rfl

/-- The rows that a grid has room for after a table was loaded. -/
theorem cpus_load (a : Interrupts) (s : Slot) (t : InterruptTable) :
    (a.load s (some t)).grid.cpus = max a.grid.cpus t.counts.length := by
  have hrow : ∀ (columns : List Nat) (row : List UInt64 × Nat) (g : GridBuffer UInt64),
      (writeRow s columns g row).cpus = g.cpus := by
    intro columns row g
    rw [writeRow]
    generalize columns.zip row.1 = cells
    induction cells generalizing g with
    | nil => rfl
    | cons cell cells ih => exact (ih _).trans (cpus_write s row.2 g cell)
  have hall : ∀ (columns : List Nat) (rows : List (List UInt64 × Nat)) (g : GridBuffer UInt64),
      (rows.foldl (writeRow s columns) g).cpus = g.cpus := by
    intro columns rows g
    induction rows generalizing g with
    | nil => rfl
    | cons row rows ih => exact (ih _).trans (hrow columns row g)
  refine (hall _ _ _).trans ?_
  show max ((a.clear s).addLines t.lines).grid.cpus t.counts.length = _
  rw [grid_addLines]
  rfl

end Interrupts

end ActivityArchive
