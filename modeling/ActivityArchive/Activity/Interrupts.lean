import ActivityArchive.Buffer.Grid
import ActivityArchive.Record.System
import ActivityArchive.Selection.Bitmap

/-!
Interrupt counts of both slots in one grid. Both slots share one list of line names, which only
grows; samples may name other lines, or the same ones in another order.
-/
namespace ActivityArchive

open Record

structure Interrupts where
  grid : GridBuffer UInt64
  lines : List String
  planned : Option Nat
  selection : Bitmap
  offline : Bitmap

namespace Interrupts

def empty : Interrupts := ⟨.empty, [], none, .empty, .empty⟩

def count (a : Interrupts) : Nat := a.planned.getD 0

def plan (a : Interrupts) (count : Nat) : Interrupts :=
  { a with planned := some (max a.count count) }

/-- Registers a line behind the known ones, unless it is known. -/
def addLine (a : Interrupts) (name : String) : Interrupts :=
  if name ∈ a.lines then a else { a with lines := a.lines ++ [name] }

/-- Position of a line among the known ones. -/
def lineIndex (a : Interrupts) (name : String) : Nat := a.lines.idxOf name

def addLines (a : Interrupts) (names : List String) : Interrupts := names.foldl addLine a

def clear (a : Interrupts) (s : Slot) : Interrupts := { a with grid := a.grid.clear s }

/-- Writes a cell, unless it lies outside the grid. -/
def write (s : Slot) (cpu : Nat) (g : GridBuffer UInt64) (cell : Nat × UInt64) :
    GridBuffer UInt64 :=
  match g.setAt s cpu cell.1 cell.2 with
  | .ok g => g
  | .error _ => g

def writeRow (s : Slot) (columns : List Nat) (g : GridBuffer UInt64) (row : List UInt64 × Nat) :
    GridBuffer UInt64 :=
  (columns.zip row.1).foldl (write s row.2) g

def load (a : Interrupts) (s : Slot) (sample : Option InterruptTable) : Interrupts :=
  let a := a.clear s
  match sample with
  | none => a
  | some t =>
    let a := a.addLines t.lines
    let grid := a.grid.observe s t.counts.length a.lines.length
    { a with grid := t.counts.zipIdx.foldl (writeRow s (t.lines.map a.lineIndex)) grid }

/-- The rows observed in a slot, each with a count for every known line. -/
def unload (a : Interrupts) (s : Slot) : Except BufferError (Option InterruptTable) :=
  let cpus := (a.grid.observed.get s).1
  if cpus = 0 then .ok none
  else do
    let rows ← (List.range cpus).mapM (a.grid.row s)
    let width := a.lines.length
    return some ⟨a.lines, rows.map fun r => r.take width ++ List.replicate (width - r.length) 0⟩

end Interrupts

end ActivityArchive
