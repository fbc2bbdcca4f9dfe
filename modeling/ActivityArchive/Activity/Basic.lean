import ActivityArchive.Buffer.Samples
import ActivityArchive.Selection.Bitmap

/-!
What is kept of one kind of records: both slots, the count planned for at definition time, and which
instances are selected or offline. Loading a slot leaves nothing of what was in it.
-/
namespace ActivityArchive

structure Activity (R : Type) where
  buffer : SampleBuffer R
  /-- Instances the metrics were defined for, once a sample was seen. Export never goes past
  them. -/
  planned : Option Nat
  selection : Bitmap
  /-- Offline instances of the sample exported last. -/
  offline : Bitmap

namespace Activity

variable {R : Type}

def empty : Activity R := ⟨.empty, none, .empty, .empty⟩

def count (a : Activity R) : Nat := a.planned.getD 0

def plan (a : Activity R) (count : Nat) : Activity R :=
  { a with planned := some (max a.count count) }

def records (a : Activity R) (s : Slot) : List R := a.buffer.records s

variable [Inhabited R]

def clear (a : Activity R) (s : Slot) : Activity R := { a with buffer := a.buffer.clear s }

def load (a : Activity R) (s : Slot) (rs : List R) : Activity R :=
  { a with buffer := (a.buffer.clear s).load s rs }

/-- Changes one record of a slot, which is observed from then on. -/
def update (a : Activity R) (s : Slot) (idx : Nat) (f : R → R) : Activity R :=
  { a with buffer := (a.buffer.observe s (idx + 1)).modifyAt s idx f }

/-- Position of the first observed record that satisfies `p`, or of a new one behind them. -/
def position (a : Activity R) (s : Slot) (p : R → Bool) : Nat :=
  ((a.records s).findIdx? p).getD (a.buffer.observed.get s)

def updateBy (a : Activity R) (s : Slot) (p : R → Bool) (f : R → R) : Activity R :=
  a.update s (a.position s p) f

/-- Both slots observe all instances planned for, and none of them is offline yet. -/
def prepare (a : Activity R) (s : Slot) : Activity R :=
  { a with
    offline := .new a.count
    buffer := (a.buffer.observe s a.count).observe s.other a.count }

end Activity

end ActivityArchive
