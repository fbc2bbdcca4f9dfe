import ActivityArchive.Buffer.Slot

/-!
The records of one group, by instance, for both slots. A buffer only grows, and both slots grow
together: an instance that could be addressed once can always be addressed, in either slot. The
observed count of a slot says how many of its records belong to the sample in it. `SlotVectors` has
the records of each slot in a vector of their own.
-/
namespace ActivityArchive

structure SampleBuffer (R : Type) where
  /-- The records of an instance in both slots. -/
  cells : List (Pair R)
  observed : Pair Nat

namespace SampleBuffer

variable {R : Type}

def empty : SampleBuffer R := ⟨[], .both 0⟩

def allocated (b : SampleBuffer R) : Nat := b.cells.length

/-- All records of a slot, observed or not. -/
def column (b : SampleBuffer R) (s : Slot) : List R := b.cells.map (·.get s)

/-- The records of the sample in a slot. -/
def records (b : SampleBuffer R) (s : Slot) : List R := (b.column s).take (b.observed.get s)

def elementAt (b : SampleBuffer R) (s : Slot) (idx : Nat) : Except BufferError R :=
  match b.cells[idx]? with
  | some c => .ok (c.get s)
  | none => .error (.indexOutOfBounds idx b.allocated)

def modifyAt (b : SampleBuffer R) (s : Slot) (idx : Nat) (f : R → R) : SampleBuffer R :=
  { b with cells := b.cells.modify idx fun c => c.set s (f (c.get s)) }

def setAt (b : SampleBuffer R) (s : Slot) (idx : Nat) (r : R) :
    Except BufferError (SampleBuffer R) :=
  if idx < b.allocated then .ok (b.modifyAt s idx fun _ => r)
  else .error (.indexOutOfBounds idx b.allocated)

/-- Records over the first ones of a slot; those behind them stay. -/
def overwrite (s : Slot) : List R → List (Pair R) → List (Pair R)
  | r :: rs, c :: cs => c.set s r :: overwrite s rs cs
  | _, cs => cs

def fill (b : SampleBuffer R) (s : Slot) (rs : List R) : SampleBuffer R :=
  { b with cells := overwrite s rs b.cells }

/-- Copies every record of a slot, and its observed count, to the other one. -/
def copy (b : SampleBuffer R) (source : Slot) : SampleBuffer R where
  cells := b.cells.map fun c => c.set source.other (c.get source)
  observed := b.observed.set source.other (b.observed.get source)

variable [Inhabited R]

/-- Makes room for `count` instances and takes `count` as the observed count of the slot. -/
def ensure (b : SampleBuffer R) (s : Slot) (count : Nat) : SampleBuffer R where
  cells := b.cells ++ List.replicate (count - b.allocated) (.both default)
  observed := b.observed.set s count

/-- Raises the observed count of a slot to `count`, never lowers it. -/
def observe (b : SampleBuffer R) (s : Slot) (count : Nat) : SampleBuffer R :=
  b.ensure s (max count (b.observed.get s))

def load (b : SampleBuffer R) (s : Slot) (rs : List R) : SampleBuffer R :=
  (b.ensure s rs.length).fill s rs

/-- Makes every record of a slot blank and observes none. -/
def clear (b : SampleBuffer R) (s : Slot) : SampleBuffer R where
  cells := b.cells.map fun c => c.set s default
  observed := b.observed.set s 0

theorem allocated_ensure (b : SampleBuffer R) (s : Slot) (count : Nat) :
    (b.ensure s count).allocated = max b.allocated count := by
  simp only [allocated, ensure, List.length_append, List.length_replicate]
  omega

end SampleBuffer

end ActivityArchive
