import ActivityArchive.Buffer.Grid

/-!
A sized grid has a cell for each of its rows and lines, and observes no row that it does not have.
Every change keeps it sized, so that the rows observed in a slot can be read.
-/
namespace ActivityArchive.GridBuffer

variable {R : Type} {g g' : GridBuffer R}

structure Sized (g : GridBuffer R) : Prop where
  cells : g.cells.length = g.cpus * g.lines
  observed : ∀ s, (g.observed.get s).1 ≤ g.cpus

theorem sized_empty : (empty : GridBuffer R).Sized :=
  ⟨rfl, fun s => by simp [empty]⟩

/-- Changing the records leaves the grid as large as it was. -/
theorem Sized.congr (h : g.Sized) (hcells : g'.cells.length = g.cells.length)
    (hcpus : g'.cpus = g.cpus) (hlines : g'.lines = g.lines) (hobs : g'.observed = g.observed) :
    g'.Sized where
  cells := by rw [hcells, hcpus, hlines, h.cells]
  observed s := by
    rw [hobs, hcpus]
    exact h.observed s

theorem length_rowCells_le (g : GridBuffer R) (cpu : Nat) :
    (g.rowCells cpu).length ≤ g.lines := by
  simp only [rowCells, List.length_take]
  omega

theorem Sized.row_ok (h : g.Sized) (s : Slot) {cpu : Nat} (hcpu : cpu < g.cpus) :
    g.row s cpu = .ok ((g.rowCells cpu).map (·.get s)) := by
  have hrow : (cpu + 1) * g.lines ≤ g.cpus * g.lines := Nat.mul_le_mul_right _ hcpu
  rw [row, h.cells, if_pos hrow]

theorem sized_setRow (h : g.Sized) (s : Slot) (cpu : Nat) (rs : List R) :
    (g.setRow s cpu rs).Sized :=
  h.congr (by simp [setRow]) rfl rfl rfl

theorem sized_of_setAt {s : Slot} {cpu line : Nat} {r : R} (h : g.Sized)
    (hset : g.setAt s cpu line r = .ok g') : g'.Sized := by
  unfold setAt offset? at hset
  split at hset
  · obtain rfl := Except.ok.inj hset
    exact h.congr (by simp) rfl rfl rfl
  · cases hset

/-- Whatever is observed of one slot, the other one keeps what it observes. -/
theorem fst_get_set_le {p : Pair (Nat × Nat)} {n cpus : Nat} {x : Nat × Nat} (s s' : Slot)
    (hp : ∀ s, (p.get s).1 ≤ n) (hn : n ≤ cpus) (hx : x.1 ≤ cpus) :
    ((p.set s x).get s').1 ≤ cpus := by
  have hs' := hp s'
  by_cases h : s' = s
  · rw [h, Pair.get_set_same]
    exact hx
  · have hother : s' = s.other := by
      cases s <;> cases s' <;> first | rfl | exact absurd rfl h
    subst hother
    rw [Pair.get_set_other]
    omega

variable [Inhabited R]

theorem sized_clear (h : g.Sized) (s : Slot) : (g.clear s).Sized where
  cells := by simpa [clear] using h.cells
  observed s' := fst_get_set_le s s' h.observed (Nat.le_refl _) (Nat.zero_le _)

theorem length_relaid (g : GridBuffer R) {cpus lines : Nat} (hlines : g.lines ≤ lines) :
    (g.relaid cpus lines).length = cpus * lines := by
  have hrow : ∀ cpu, (g.rowCells cpu ++
      List.replicate (lines - (g.rowCells cpu).length) (Pair.both (default : R))).length =
        lines := by
    intro cpu
    have := g.length_rowCells_le cpu
    rw [List.length_append, List.length_replicate]
    omega
  simp only [relaid, List.length_flatMap, hrow, List.map_const', List.sum_replicate_nat,
    List.length_range]

theorem cells_ensure (h : g.Sized) (s : Slot) (cpus lines : Nat) :
    (g.ensure s cpus lines).cells.length = max g.cpus cpus * max g.lines lines := by
  simp only [ensure]
  by_cases hgrow : g.cpus < cpus ∨ g.lines < lines
  · rw [if_pos hgrow]
    exact length_relaid g (by omega)
  · have hc : max g.cpus cpus = g.cpus := by omega
    have hl : max g.lines lines = g.lines := by omega
    rw [if_neg hgrow, h.cells, hc, hl]

theorem sized_observe (h : g.Sized) (s : Slot) (cpus lines : Nat) :
    (g.observe s cpus lines).Sized where
  cells := cells_ensure h s cpus lines
  observed s' := by
    have hs := h.observed s
    exact fst_get_set_le s s' h.observed (Nat.le_max_left _ _)
      (Nat.max_le.mpr ⟨Nat.le_trans hs (Nat.le_max_left _ _), Nat.le_max_right _ _⟩)

end ActivityArchive.GridBuffer
