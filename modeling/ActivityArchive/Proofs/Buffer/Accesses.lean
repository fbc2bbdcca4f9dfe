import ActivityArchive.Proofs.Buffer.Records
import ActivityArchive.Proofs.Buffer.Sized

/-!
Accesses that are made without asking first whether there is anything to access. Each is logged with
what it asks for and what there is. A buffer is asked for records it has made room for, and a sized
grid for rows and cells that it has, also while all its rows are laid out anew.
-/
namespace ActivityArchive

inductive Access where
  /-- A record of a buffer. -/
  | record (idx allocated : Nat)
  /-- The first records of a slot. -/
  | records (count allocated : Nat)
  /-- The cells of a grid from one position up to another one. -/
  | cells (start stop allocated : Nat)
  /-- Something written over something else that has to be as long. -/
  | copy (source target : Nat)
  | cell (pos allocated : Nat)
  /-- A name by the number of its line. -/
  | line (idx known : Nat)
  | catalog (idx catalogs : Nat)
  /-- A metric of a catalog, which has a list of descriptors and one of handles. -/
  | metric (idx descriptors handles : Nat)
  deriving DecidableEq

namespace Access

def InRange : Access → Prop
  | .record idx allocated => idx < allocated
  | .records count allocated => count ≤ allocated
  | .cells start stop allocated => start ≤ stop ∧ stop ≤ allocated
  | .copy source target => source = target
  | .cell pos allocated => pos < allocated
  | .line idx known => idx < known
  | .catalog idx catalogs => idx < catalogs
  | .metric idx descriptors handles => idx < descriptors ∧ idx < handles

instance : DecidablePred InRange
  | .record idx allocated => inferInstanceAs (Decidable (idx < allocated))
  | .records count allocated => inferInstanceAs (Decidable (count ≤ allocated))
  | .cells start stop allocated =>
    inferInstanceAs (Decidable (start ≤ stop ∧ stop ≤ allocated))
  | .copy source target => inferInstanceAs (Decidable (source = target))
  | .cell pos allocated => inferInstanceAs (Decidable (pos < allocated))
  | .line idx known => inferInstanceAs (Decidable (idx < known))
  | .catalog idx catalogs => inferInstanceAs (Decidable (idx < catalogs))
  | .metric idx descriptors handles =>
    inferInstanceAs (Decidable (idx < descriptors ∧ idx < handles))

end Access

namespace SampleBuffer

variable {R : Type} {b : SampleBuffer R}

/-- Both slots have the same room, so that it does not matter which one is asked. -/
def access (b : SampleBuffer R) (idx : Nat) : Access := .record idx b.allocated

/-- The records of the sample in a slot. -/
def readAccess (b : SampleBuffer R) (s : Slot) : Access := .records (b.observed.get s) b.allocated

/-- A record can be read exactly where the access is in range. -/
theorem elementAt_ok_iff (b : SampleBuffer R) (s : Slot) (idx : Nat) :
    (∃ r, b.elementAt s idx = .ok r) ↔ (b.access idx).InRange := by
  have hget : b.cells[idx]?.isSome ↔ idx < b.cells.length := by simp
  show _ ↔ idx < b.cells.length
  unfold elementAt
  rw [← hget]
  cases b.cells[idx]? with
  | none => simp
  | some c => simp

/-- No slot observes records that there is no room for. -/
def Roomy (b : SampleBuffer R) : Prop := ∀ s, b.observed.get s ≤ b.allocated

theorem roomy_empty : (empty : SampleBuffer R).Roomy := by
  intro s
  show (Pair.both 0).get s ≤ _
  rw [Pair.get_both]
  exact Nat.zero_le _

theorem get_set_le {p : Pair Nat} {n count : Nat} (s t : Slot) (h : p.get t ≤ n)
    (hcount : count ≤ n) :
    (p.set s count).get t ≤ n := by
  cases s <;> cases t <;> assumption

theorem Roomy.fill (h : b.Roomy) (s : Slot) (rs : List R) : (b.fill s rs).Roomy := by
  intro t
  rw [allocated_fill]
  exact h t

variable [Inhabited R]

/-- A sample that is copied into a slot. -/
def loadAccess (b : SampleBuffer R) (s : Slot) (count : Nat) : Access :=
  .records count (b.ensure s count).allocated

theorem inRange_loadAccess (b : SampleBuffer R) (s : Slot) (count : Nat) :
    (b.loadAccess s count).InRange := by
  show count ≤ (b.ensure s count).allocated
  rw [allocated_ensure]
  exact Nat.le_max_right _ _

theorem Roomy.clear (h : b.Roomy) (s : Slot) : (b.clear s).Roomy := by
  have hroom : (b.clear s).allocated = b.allocated := List.length_map _
  intro t
  rw [hroom]
  exact get_set_le s t (h t) (Nat.zero_le _)

theorem Roomy.ensure (h : b.Roomy) (s : Slot) (count : Nat) : (b.ensure s count).Roomy := by
  intro t
  rw [allocated_ensure]
  exact get_set_le s t (Nat.le_trans (h t) (Nat.le_max_left _ _)) (Nat.le_max_right _ _)

theorem Roomy.observe (h : b.Roomy) (s : Slot) (count : Nat) : (b.observe s count).Roomy :=
  h.ensure s _

end SampleBuffer

namespace GridBuffer

variable {R : Type} {g : GridBuffer R}

def rowAccess (g : GridBuffer R) (cpu : Nat) : Access :=
  .cells (cpu * g.lines) (cpu * g.lines + g.lines) g.cells.length

/-- A cell is looked up where its row and its line lie in the grid. -/
def cellAccesses (g : GridBuffer R) (cpu line : Nat) : List Access :=
  match g.offset? cpu line with
  | .ok pos => [.cell pos g.cells.length]
  | .error _ => []

def setRowAccesses (g : GridBuffer R) (cpu : Nat) (rs : List R) : List Access :=
  [g.rowAccess cpu, .copy rs.length g.lines]

/-- Every row goes from where it stands to where it will stand in a grid of `cpus` rows of `lines`
lines. -/
def relayAccesses (g : GridBuffer R) (cpus lines : Nat) : List Access :=
  (List.range g.cpus).flatMap fun cpu =>
    [ g.rowAccess cpu,
      .cells (cpu * lines) (cpu * lines + g.lines) (cpus * lines),
      .copy (g.rowCells cpu).length g.lines ]

/-- The rows are laid out anew where the grid has to grow. -/
def observeAccesses (g : GridBuffer R) (cpus lines : Nat) : List Access :=
  if g.cpus < cpus ∨ g.lines < lines then g.relayAccesses (max g.cpus cpus) (max g.lines lines)
  else []

/-- A row can be read exactly where the access is in range. -/
theorem row_ok_iff (g : GridBuffer R) (s : Slot) (cpu : Nat) :
    g.row s cpu = .ok ((g.rowCells cpu).map (·.get s)) ↔ (g.rowAccess cpu).InRange := by
  have hstop : cpu * g.lines + g.lines = (cpu + 1) * g.lines := (Nat.succ_mul cpu g.lines).symm
  show _ ↔ _ ≤ _ ∧ _ ≤ _
  rw [hstop, row]
  by_cases hroom : (cpu + 1) * g.lines ≤ g.cells.length
  · simp [hroom, Nat.mul_le_mul_right]
  · simp [hroom]

/-- A grid that has fewer cells than its rows need is out of range in its last one. -/
example :
    ¬ ((⟨[.both 0, .both 0], 2, 2, .both (2, 2)⟩ : GridBuffer Nat).rowAccess 1).InRange := by
  decide

theorem Sized.inRange_row (h : g.Sized) {cpu : Nat} (hcpu : cpu < g.cpus) :
    (g.rowAccess cpu).InRange :=
  (row_ok_iff g .curr cpu).mp (h.row_ok .curr hcpu)

theorem Sized.inRange_cell (h : g.Sized) (cpu line : Nat) :
    ∀ x ∈ g.cellAccesses cpu line, x.InRange := by
  intro x hx
  unfold cellAccesses offset? at hx
  by_cases hin : cpu < g.cpus ∧ line < g.lines
  · rw [if_pos hin] at hx
    obtain rfl := List.mem_singleton.mp hx
    have hrow : (cpu + 1) * g.lines ≤ g.cpus * g.lines := Nat.mul_le_mul_right _ hin.1
    rw [Nat.succ_mul] at hrow
    show cpu * g.lines + line < g.cells.length
    rw [h.cells]
    omega
  · rw [if_neg hin] at hx
    cases hx

theorem Sized.inRange_setRow (h : g.Sized) {cpu : Nat} (hcpu : cpu < g.cpus) {rs : List R}
    (hrs : rs.length = g.lines) : ∀ x ∈ g.setRowAccesses cpu rs, x.InRange := by
  intro x hx
  rcases List.mem_cons.mp hx with rfl | hx
  · exact h.inRange_row hcpu
  · obtain rfl := List.mem_singleton.mp hx
    exact hrs

theorem Sized.inRange_relay (h : g.Sized) {cpus lines : Nat} (hcpus : g.cpus ≤ cpus)
    (hlines : g.lines ≤ lines) : ∀ x ∈ g.relayAccesses cpus lines, x.InRange := by
  intro x hx
  obtain ⟨cpu, hcpu, hx⟩ := List.mem_flatMap.mp hx
  have hcpu : cpu < g.cpus := List.mem_range.mp hcpu
  have hrow := h.inRange_row hcpu
  simp only [List.mem_cons, List.not_mem_nil, or_false] at hx
  rcases hx with rfl | rfl | rfl
  · exact hrow
  · have hstop : (cpu + 1) * lines ≤ cpus * lines := Nat.mul_le_mul_right _ (by omega)
    rw [Nat.succ_mul] at hstop
    refine ⟨Nat.le_add_right _ _, ?_⟩
    omega
  · have hstop : cpu * g.lines + g.lines ≤ g.cells.length := hrow.2
    show (g.rowCells cpu).length = g.lines
    rw [rowCells, List.length_take, List.length_drop]
    omega

theorem Sized.inRange_observe (h : g.Sized) (cpus lines : Nat) :
    ∀ x ∈ g.observeAccesses cpus lines, x.InRange := by
  unfold observeAccesses
  split
  · exact h.inRange_relay (Nat.le_max_left _ _) (Nat.le_max_left _ _)
  · simp

end GridBuffer

end ActivityArchive
