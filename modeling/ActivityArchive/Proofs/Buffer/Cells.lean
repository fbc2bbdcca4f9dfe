import ActivityArchive.Proofs.Buffer.Sized
import ActivityArchive.Proofs.Positions

/-!
The cells of a grid by row and line, blank outside of it. Laying the rows out anew moves no cell,
and a change of a cell or of a row is seen there and nowhere else.
-/
namespace ActivityArchive.GridBuffer

variable {R : Type} [Inhabited R] {g g' : GridBuffer R} {s : Slot} {cpu line : Nat}

def recordAt (g : GridBuffer R) (s : Slot) (cpu line : Nat) : R :=
  ((g.rowCells cpu).map (·.get s)).getD line default

omit [Inhabited R] in
theorem getElem?_rowCells (g : GridBuffer R) (cpu line : Nat) :
    (g.rowCells cpu)[line]? = if line < g.lines then g.cells[g.offset cpu line]? else none := by
  rw [rowCells, List.getElem?_take, List.getElem?_drop]
  rfl

theorem recordAt_eq (g : GridBuffer R) (s : Slot) (cpu line : Nat) :
    g.recordAt s cpu line =
      (((g.rowCells cpu)[line]?).map (·.get s)).getD default := by
  rw [recordAt, List.getD_eq_getElem?_getD, List.getElem?_map]

theorem recordAt_of_lines_le (h : g.lines ≤ line) (s : Slot) (cpu : Nat) :
    g.recordAt s cpu line = default := by
  rw [recordAt_eq, getElem?_rowCells, if_neg (Nat.not_lt.mpr h)]
  rfl

omit [Inhabited R] in
/-- Two cells of a grid lie at different positions. -/
theorem offset_inj {c l : Nat} (hl : l < g.lines) (hline : line < g.lines) :
    g.offset c l = g.offset cpu line ↔ c = cpu ∧ l = line := by
  refine ⟨fun h => ?_, fun h => by rw [h.1, h.2]⟩
  have hmod := congrArg (· % g.lines) h
  simp only [offset, Nat.mul_add_mod_self_right, Nat.mod_eq_of_lt hl,
    Nat.mod_eq_of_lt hline] at hmod
  have hmul : c * g.lines = cpu * g.lines := by
    simp only [offset] at h
    omega
  exact ⟨Nat.eq_of_mul_eq_mul_right (by omega) hmul, hmod⟩

omit [Inhabited R] in
theorem Sized.offset_lt (h : g.Sized) (hcpu : cpu < g.cpus) (hline : line < g.lines) :
    g.offset cpu line < g.cells.length := by
  have hrow : (cpu + 1) * g.lines ≤ g.cpus * g.lines := Nat.mul_le_mul_right _ hcpu
  rw [h.cells, offset]
  rw [Nat.succ_mul] at hrow
  omega

omit [Inhabited R] in
theorem Sized.length_rowCells (h : g.Sized) (hcpu : cpu < g.cpus) :
    (g.rowCells cpu).length = g.lines := by
  have hrow : (cpu + 1) * g.lines ≤ g.cpus * g.lines := Nat.mul_le_mul_right _ hcpu
  rw [Nat.succ_mul] at hrow
  rw [rowCells, List.length_take, List.length_drop, h.cells]
  omega

theorem Sized.recordAt_of_cpus_le (h : g.Sized) (hcpu : g.cpus ≤ cpu) (s : Slot) (line : Nat) :
    g.recordAt s cpu line = default := by
  have hrow : g.cells.length ≤ cpu * g.lines := by
    rw [h.cells]
    exact Nat.mul_le_mul_right _ hcpu
  have hnone : g.rowCells cpu = [] := by
    rw [rowCells, List.drop_of_length_le hrow, List.take_nil]
  rw [recordAt, hnone]
  rfl

theorem Sized.elementAt_eq (h : g.Sized) (s : Slot) (cpu line : Nat) :
    g.elementAt s cpu line =
      if cpu < g.cpus ∧ line < g.lines then .ok (g.recordAt s cpu line)
      else .error (.indexOutOfBounds (g.offset cpu line) (g.cpus * g.lines)) := by
  rw [elementAt, offset?]
  split
  · rename_i hin
    have hcell : g.cells[g.offset cpu line]? = some _ :=
      List.getElem?_eq_getElem (h.offset_lt hin.1 hin.2)
    simp only [bind, Except.bind, cellAt, recordAt_eq, getElem?_rowCells, if_pos hin.2, hcell]
    rfl
  · rfl

theorem recordAt_clear (g : GridBuffer R) (s : Slot) (cpu line : Nat) :
    (g.clear s).recordAt s cpu line = default := by
  have hrow : (g.clear s).rowCells cpu = (g.rowCells cpu).map fun c => c.set s default := by
    simp [rowCells, clear, List.map_take, List.map_drop]
  rw [recordAt_eq, hrow, List.getElem?_map]
  cases (g.rowCells cpu)[line]? <;> simp

/-- Rows of one length, one behind the other, cut at a row. -/
theorem take_drop_flatMap {A : Type} {f : Nat → List A} {width : Nat}
    (hf : ∀ i, (f i).length = width) {n i : Nat} (hi : i < n) :
    (((List.range n).flatMap f).drop (i * width)).take width = f i := by
  induction i generalizing f n with
  | zero =>
    obtain ⟨m, rfl⟩ : ∃ m, n = m + 1 := ⟨n - 1, by omega⟩
    rw [List.range_succ_eq_map, List.flatMap_cons, Nat.zero_mul, List.drop_zero,
      List.take_left' (hf 0)]
  | succ i ih =>
    obtain ⟨m, rfl⟩ : ∃ m, n = m + 1 := ⟨n - 1, by omega⟩
    have hskip : (i + 1) * width = width + i * width := by rw [Nat.succ_mul, Nat.add_comm]
    have hrest := ih (f := fun i => f (i + 1)) (fun i => hf (i + 1)) (Nat.lt_of_succ_lt_succ hi)
    rw [List.range_succ_eq_map, List.flatMap_cons, List.flatMap_map, hskip, ← List.drop_drop,
      List.drop_left' (hf 0)]
    exact hrest

theorem rowCells_relaid (g : GridBuffer R) {cpus lines : Nat} (hlines : g.lines ≤ lines)
    (hcpu : cpu < cpus) :
    ((g.relaid cpus lines).drop (cpu * lines)).take lines =
      g.rowCells cpu ++ List.replicate (lines - (g.rowCells cpu).length) (.both default) := by
  refine take_drop_flatMap (fun i => ?_) hcpu
  have hlen := g.length_rowCells_le i
  rw [List.length_append, List.length_replicate]
  omega

/-- Room made for one slot moves no cell of either. -/
theorem recordAt_observe (h : g.Sized) (t s : Slot) (cpus lines cpu line : Nat) :
    (g.observe t cpus lines).recordAt s cpu line = g.recordAt s cpu line := by
  have hsized := sized_observe h t cpus lines
  by_cases hcpu : cpu < max g.cpus cpus
  · by_cases hgrow : g.cpus < cpus ∨ g.lines < lines
    · have hrow : (g.observe t cpus lines).rowCells cpu = g.rowCells cpu ++
          List.replicate (max g.lines lines - (g.rowCells cpu).length) (.both default) := by
        have hcells : (g.observe t cpus lines).cells =
            g.relaid (max g.cpus cpus) (max g.lines lines) := if_pos hgrow
        rw [rowCells, hcells]
        exact rowCells_relaid g (Nat.le_max_left _ _) hcpu
      rw [recordAt, hrow, List.map_append, List.map_replicate, Pair.get_both,
        getD_append_replicate]
      rfl
    · have hcells : (g.observe t cpus lines).cells = g.cells := if_neg hgrow
      have hlines : (g.observe t cpus lines).lines = g.lines := by
        show max g.lines lines = g.lines
        omega
      rw [recordAt, rowCells, hcells, hlines]
      rfl
  · have hcpu := Nat.le_of_not_lt hcpu
    rw [hsized.recordAt_of_cpus_le hcpu, h.recordAt_of_cpus_le (by omega)]

theorem observed_observe (g : GridBuffer R) (s : Slot) (cpus lines : Nat) :
    (g.observe s cpus lines).observed.get s =
      (max (g.observed.get s).1 cpus, max (g.observed.get s).2 lines) := Pair.get_set_same _ s _

/-- A cell that is written. -/
theorem recordAt_setAt (h : g.Sized) {r : R} (hset : g.setAt s cpu line r = .ok g') (c l : Nat) :
    g'.recordAt s c l = if c = cpu ∧ l = line then r else g.recordAt s c l := by
  rw [setAt, offset?] at hset
  split at hset
  · rename_i hin
    obtain rfl := Except.ok.inj hset
    have hlt := h.offset_lt hin.1 hin.2
    simp only [recordAt_eq, getElem?_rowCells, offset, List.getElem?_modify] at hlt ⊢
    by_cases hl : l < g.lines
    · have hoff : g.offset c l = g.offset cpu line ↔ c = cpu ∧ l = line := offset_inj hl hin.2
      simp only [offset] at hoff
      rw [if_pos hl, if_pos hl]
      by_cases hcell : c = cpu ∧ l = line
      · obtain ⟨rfl, rfl⟩ := hcell
        simp [List.getElem?_eq_getElem hlt]
      · have hne : cpu * g.lines + line ≠ c * g.lines + l := fun he => hcell (hoff.mp he.symm)
        simp [hcell, hne]
    · have hcell : ¬ (c = cpu ∧ l = line) := by
        rintro ⟨-, rfl⟩
        exact hl hin.2
      rw [if_neg hl, if_neg hl, if_neg hcell]
  · cases hset

omit [Inhabited R] in
theorem setAt_ok (hcpu : cpu < g.cpus) (hline : line < g.lines) (s : Slot) (r : R) :
    ∃ g', g.setAt s cpu line r = .ok g' ∧ g'.cpus = g.cpus ∧ g'.lines = g.lines ∧
      g'.observed = g.observed := by
  rw [setAt, offset?, if_pos ⟨hcpu, hline⟩]
  exact ⟨_, rfl, rfl, rfl, rfl⟩

/-- A row that is written from its first line on, as far as the grid has it. -/
theorem recordAt_setRow_eq (h : g.Sized) (s : Slot) (cpu : Nat) (rs : List R) (c l : Nat) :
    (g.setRow s cpu rs).recordAt s c l =
      (if c = cpu ∧ cpu < g.cpus ∧ l < g.lines then rs[l]? else none).getD
        (g.recordAt s c l) := by
  simp only [recordAt_eq, getElem?_rowCells, setRow, offset, List.getElem?_mapIdx]
  by_cases hl : l < g.lines
  · rw [if_pos hl, if_pos hl]
    by_cases hc : c = cpu
    · subst hc
      by_cases hcpu : c < g.cpus
      · have hlt := h.offset_lt hcpu hl
        rw [offset] at hlt
        have hin : c * g.lines ≤ c * g.lines + l ∧
            c * g.lines + l < c * g.lines + g.lines := by omega
        cases hr : rs[l]? <;> simp [List.getElem?_eq_getElem hlt, hr, hl, hcpu]
      · have hrow : g.cpus * g.lines ≤ c * g.lines :=
          Nat.mul_le_mul_right _ (Nat.le_of_not_lt hcpu)
        have hnone : g.cells[c * g.lines + l]? = none :=
          List.getElem?_eq_none (by rw [h.cells]; omega)
        simp [hnone, hcpu]
    · -- Another row lies wholly before or wholly behind the one written.
      have hout : ¬ (cpu * g.lines ≤ c * g.lines + l ∧
          c * g.lines + l < cpu * g.lines + g.lines) := by
        rintro ⟨hle, hlt⟩
        rcases Nat.lt_or_gt_of_ne hc with hlow | hhigh
        · have hrow : (c + 1) * g.lines ≤ cpu * g.lines := Nat.mul_le_mul_right _ hlow
          rw [Nat.succ_mul] at hrow
          omega
        · have hrow : (cpu + 1) * g.lines ≤ c * g.lines := Nat.mul_le_mul_right _ hhigh
          rw [Nat.succ_mul] at hrow
          omega
      simp [hc, hout]
  · simp [hl]

/-- A row that is written over from end to end. -/
theorem recordAt_setRow (h : g.Sized) {rs : List R} (hlen : rs.length = g.lines)
    (hcpu : cpu < g.cpus) (c l : Nat) :
    (g.setRow s cpu rs).recordAt s c l =
      if c = cpu then rs.getD l default else g.recordAt s c l := by
  rw [recordAt_setRow_eq h]
  by_cases hc : c = cpu
  · by_cases hl : l < g.lines
    · have hr : rs[l]? = some rs[l] := List.getElem?_eq_getElem (hlen ▸ hl)
      rw [if_pos ⟨hc, hcpu, hl⟩, if_pos hc, List.getD_eq_getElem?_getD, hr]
      rfl
    · rw [if_neg fun hcell => hl hcell.2.2, if_pos hc, getD_of_le (by omega),
        recordAt_of_lines_le (Nat.le_of_not_lt hl)]
      rfl
  · rw [if_neg fun hcell => hc hcell.1, if_neg hc]
    rfl

end ActivityArchive.GridBuffer
