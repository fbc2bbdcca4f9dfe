import ActivityArchive.Text.Digits

/-!
The two generations of samples, and what a buffer keeps for both of them.
-/
namespace ActivityArchive

inductive Slot where
  | curr
  | prev
  deriving DecidableEq

def Slot.other : Slot → Slot
  | .curr => .prev
  | .prev => .curr

/-- One value for each slot. -/
structure Pair (A : Type) where
  curr : A
  prev : A
  deriving DecidableEq

namespace Pair

variable {A : Type}

def both (a : A) : Pair A := ⟨a, a⟩

def get (p : Pair A) : Slot → A
  | .curr => p.curr
  | .prev => p.prev

def set (p : Pair A) (s : Slot) (a : A) : Pair A :=
  match s with
  | .curr => { p with curr := a }
  | .prev => { p with prev := a }

@[simp] theorem get_both (a : A) (s : Slot) : (both a).get s = a := by cases s <;> rfl

@[simp] theorem get_set_same (p : Pair A) (s : Slot) (a : A) : (p.set s a).get s = a := by
  cases s <;> rfl

@[simp] theorem get_set_other (p : Pair A) (s : Slot) (a : A) :
    (p.set s a).get s.other = p.get s.other := by cases s <;> rfl

@[simp] theorem get_other_set (p : Pair A) (s : Slot) (a : A) :
    (p.set s.other a).get s = p.get s := by cases s <;> rfl

end Pair

@[simp] theorem Slot.other_other (s : Slot) : s.other.other = s := by cases s <;> rfl

inductive BufferError where
  | indexOutOfBounds (index allocated : Nat)
  deriving DecidableEq

def BufferError.message : BufferError → String
  | .indexOutOfBounds index allocated =>
    "instance index " ++ Text.decimal index ++ " out of bounds (allocated " ++
      Text.decimal allocated ++ ")"

end ActivityArchive
