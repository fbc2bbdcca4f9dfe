import ActivityArchive.Buffer.Slot

/-!
The records of one group in two vectors, one for each slot, beside how many are allocated in both
and how many are observed in each. The vectors and the counts are kept apart: that every vector is
as long as the count says is left to the operations, which take the first records of a vector
without asking whether it has so many. `none` stands for a vector that has not.
-/
namespace ActivityArchive

structure SlotVectors (R : Type) where
  slots : Pair (List R)
  allocated : Nat
  observed : Pair Nat

namespace SlotVectors

variable {R : Type}

def empty : SlotVectors R := ⟨.both [], 0, .both 0⟩

/-- The first records of a vector, which has to have as many. -/
def slice? (count : Nat) (rs : List R) : Option (List R) :=
  if count ≤ rs.length then some (rs.take count) else none

/-- Writes records over the first ones of a vector, as many as it has room for. -/
def overlay (rs old : List R) : List R := rs.take old.length ++ old.drop rs.length

/-- The records of the sample in a slot. -/
def records? (v : SlotVectors R) (s : Slot) : Option (List R) :=
  slice? (v.observed.get s) (v.slots.get s)

def elementAt (v : SlotVectors R) (s : Slot) (idx : Nat) : Except BufferError R :=
  match (v.slots.get s)[idx]? with
  | some r => .ok r
  | none => .error (.indexOutOfBounds idx v.allocated)

def setAt (v : SlotVectors R) (s : Slot) (idx : Nat) (r : R) :
    Except BufferError (SlotVectors R) :=
  if idx < (v.slots.get s).length then
    .ok { v with slots := v.slots.set s ((v.slots.get s).set idx r) }
  else .error (.indexOutOfBounds idx v.allocated)

/-- Writes through the whole vector of a slot, which keeps its length. -/
def rewrite (v : SlotVectors R) (s : Slot) (rs : List R) : SlotVectors R :=
  { v with slots := v.slots.set s (overlay rs (v.slots.get s)) }

/-- The other slot becomes a clone of the source, with its observed count. -/
def copy (v : SlotVectors R) (source : Slot) : SlotVectors R :=
  { v with
    slots := v.slots.set source.other (v.slots.get source)
    observed := v.observed.set source.other (v.observed.get source) }

variable [Inhabited R]

/-- Cuts a vector at `count` records, or fills it up to as many with blank ones. -/
def resize (count : Nat) (rs : List R) : List R :=
  rs.take count ++ List.replicate (count - rs.length) default

/-- Resizes both vectors, where `count` is more than what is allocated. -/
def grow (v : SlotVectors R) (count : Nat) : SlotVectors R :=
  if v.allocated < count then
    { v with
      slots := ⟨resize count v.slots.curr, resize count v.slots.prev⟩
      allocated := count }
  else v

/-- Makes room for `count` instances and takes `count` as the observed count of the slot. -/
def ensure (v : SlotVectors R) (s : Slot) (count : Nat) : SlotVectors R :=
  let grown := v.grow count
  { grown with observed := grown.observed.set s count }

/-- Raises the observed count of a slot to `count`, never lowers it. -/
def observe (v : SlotVectors R) (s : Slot) (count : Nat) : SlotVectors R :=
  v.ensure s (max count (v.observed.get s))

/-- Makes room for the records and clones them into the first records of the slot. -/
def load? (v : SlotVectors R) (s : Slot) (rs : List R) : Option (SlotVectors R) :=
  let roomy := v.ensure s rs.length
  (slice? rs.length (roomy.slots.get s)).map fun _ => roomy.rewrite s rs

/-- Makes every record of a slot blank and observes none. -/
def clear (v : SlotVectors R) (s : Slot) : SlotVectors R :=
  { v with
    slots := v.slots.set s (List.replicate (v.slots.get s).length default)
    observed := v.observed.set s 0 }

end SlotVectors

end ActivityArchive
