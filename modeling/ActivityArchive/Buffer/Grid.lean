import ActivityArchive.Buffer.Slot

/-!
Records by CPU row and interrupt line, for both slots. Row 0 is the aggregate, line 0 the sum. The
record of a row and a line lies at `row * lines + line`; when the number of lines grows all rows are
laid out anew, and every record keeps its row and line.
-/
namespace ActivityArchive

/-- A cell outside the grid. -/
inductive GridError where
  | outOfBounds (cpu line cpus lines : Nat)
  deriving DecidableEq

def GridError.message : GridError → String
  | .outOfBounds cpu line cpus lines =>
    "grid index (" ++ Text.decimal cpu ++ ", " ++ Text.decimal line ++
      ") out of bounds (allocated " ++ Text.decimal cpus ++ "x" ++ Text.decimal lines ++ ")"

structure GridBuffer (R : Type) where
  cells : List (Pair R)
  cpus : Nat
  lines : Nat
  observed : Pair (Nat × Nat)

namespace GridBuffer

variable {R : Type}

def empty : GridBuffer R := ⟨[], 0, 0, .both (0, 0)⟩

def offset (g : GridBuffer R) (cpu line : Nat) : Nat := cpu * g.lines + line

def offset? (g : GridBuffer R) (cpu line : Nat) : Except BufferError Nat :=
  if cpu < g.cpus ∧ line < g.lines then .ok (g.offset cpu line)
  else .error (.indexOutOfBounds (g.offset cpu line) (g.cpus * g.lines))

def cellAt (g : GridBuffer R) (s : Slot) (pos : Nat) : Except BufferError R :=
  match g.cells[pos]? with
  | some c => .ok (c.get s)
  | none => .error (.indexOutOfBounds pos g.cells.length)

def elementAt (g : GridBuffer R) (s : Slot) (cpu line : Nat) : Except BufferError R := do
  g.cellAt s (← g.offset? cpu line)

def setAt (g : GridBuffer R) (s : Slot) (cpu line : Nat) (r : R) :
    Except BufferError (GridBuffer R) :=
  (g.offset? cpu line).map fun i => { g with cells := g.cells.modify i fun c => c.set s r }

/-- The record of a cell that is known to lie in the grid. -/
def index (g : GridBuffer R) (s : Slot) (cpu line : Nat) : Except GridError R :=
  match g.elementAt s cpu line with
  | .ok r => .ok r
  | .error _ => .error (.outOfBounds cpu line g.cpus g.lines)

/-- The cells of a row. -/
def rowCells (g : GridBuffer R) (cpu : Nat) : List (Pair R) :=
  (g.cells.drop (cpu * g.lines)).take g.lines

def row (g : GridBuffer R) (s : Slot) (cpu : Nat) : Except BufferError (List R) :=
  if (cpu + 1) * g.lines ≤ g.cells.length then .ok ((g.rowCells cpu).map (·.get s))
  else .error (.indexOutOfBounds ((cpu + 1) * g.lines) g.cells.length)

def rows (g : GridBuffer R) (s : Slot) : List (List R) :=
  (List.range g.cpus).map fun cpu => (g.rowCells cpu).map (·.get s)

/-- Records over a whole row, from its first line on. -/
def setRow (g : GridBuffer R) (s : Slot) (cpu : Nat) (rs : List R) : GridBuffer R :=
  let start := cpu * g.lines
  { g with cells := g.cells.mapIdx fun i c =>
      if start ≤ i ∧ i < start + g.lines then
        match rs[i - start]? with
        | some r => c.set s r
        | none => c
      else c }

def copy (g : GridBuffer R) (source : Slot) : GridBuffer R where
  cells := g.cells.map fun c => c.set source.other (c.get source)
  cpus := g.cpus
  lines := g.lines
  observed := g.observed.set source.other (g.observed.get source)

variable [Inhabited R]

/-- The cells laid out for `cpus` rows of `lines` lines, none fewer than there are. -/
def relaid (g : GridBuffer R) (cpus lines : Nat) : List (Pair R) :=
  (List.range cpus).flatMap fun cpu =>
    let old := g.rowCells cpu
    old ++ List.replicate (lines - old.length) (.both default)

/-- Makes room for `cpus` rows of `lines` lines and takes both as the observed counts of the
slot. -/
def ensure (g : GridBuffer R) (s : Slot) (cpus lines : Nat) : GridBuffer R where
  cells :=
    if g.cpus < cpus ∨ g.lines < lines then g.relaid (max g.cpus cpus) (max g.lines lines)
    else g.cells
  cpus := max g.cpus cpus
  lines := max g.lines lines
  observed := g.observed.set s (cpus, lines)

/-- Raises the observed counts of a slot, never lowers them. -/
def observe (g : GridBuffer R) (s : Slot) (cpus lines : Nat) : GridBuffer R :=
  let (c, l) := g.observed.get s
  { g.ensure s cpus lines with observed := g.observed.set s (max c cpus, max l lines) }

def clear (g : GridBuffer R) (s : Slot) : GridBuffer R where
  cells := g.cells.map fun c => c.set s default
  cpus := g.cpus
  lines := g.lines
  observed := g.observed.set s (0, 0)

end GridBuffer

end ActivityArchive
