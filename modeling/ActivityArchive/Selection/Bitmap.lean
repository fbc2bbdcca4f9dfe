/-!
Sets of instance indices as words of 64 bits. Index 0 is the aggregate of all CPUs, index `i` is
CPU `i - 1`. A bitmap grows when an index at or past its end is set and never shrinks; indices past
the end read as absent.
-/
namespace ActivityArchive

structure Bitmap where
  words : List UInt64
  size : Nat
  deriving DecidableEq

namespace Bitmap

def wordsFor (size : Nat) : Nat := (size + 63) / 64

def new (size : Nat) : Bitmap := ⟨List.replicate (wordsFor size) 0, size⟩

def empty : Bitmap := new 0

def bit (idx : Nat) : UInt64 := 1 <<< (idx % 64).toUInt64

/-- Makes room for `size` indices. -/
def grow (b : Bitmap) (size : Nat) : Bitmap :=
  if b.size < size then
    ⟨b.words ++ List.replicate (wordsFor size - b.words.length) 0, size⟩
  else b

def set (b : Bitmap) (idx : Nat) : Bitmap :=
  let b := b.grow (idx + 1)
  { b with words := b.words.modify (idx / 64) (· ||| bit idx) }

def clear (b : Bitmap) (idx : Nat) : Bitmap :=
  if idx < b.size then { b with words := b.words.modify (idx / 64) (· &&& ~~~bit idx) } else b

def contains (b : Bitmap) (idx : Nat) : Bool :=
  decide (idx < b.size) && (b.words.getD (idx / 64) 0).toNat.testBit (idx % 64)

def ofList (indices : List Nat) : Bitmap := indices.foldl set empty

def setAll (b : Bitmap) (indices : List Nat) : Bitmap := indices.foldl set b

/-- Every index below `size`. -/
def all (size : Nat) : Bitmap := (new size).setAll (List.range size)

def ones (w : UInt64) : Nat := (List.range 64).countP w.toNat.testBit

def count (b : Bitmap) : Nat := (b.words.map ones).foldl (· + ·) 0

/-- The indices in the set, in increasing order. -/
def toList (b : Bitmap) : List Nat := (List.range b.size).filter b.contains

end Bitmap

/-- An instance is shown when it is selected and not offline. -/
def isShown (idx : Nat) (selection offline : Bitmap) : Bool :=
  selection.contains idx && !offline.contains idx

/-- A CPU that is online and did not tick; the aggregate never counts as one. -/
def isTickless (idx : Nat) (offline : Bitmap) (interval : UInt64) : Bool :=
  decide (0 < idx) && !offline.contains idx && interval == 0

/-- The aggregate is computed where there is more than one unit. -/
def isAggregated (count : Nat) : Bool := 1 < count

end ActivityArchive
