import ActivityArchive.Json.Basic

/-!
Records as JSON. A record is written as an object of its members. It is read from an object, where
unknown keys are skipped and a key must not come twice, or from an array that holds the members in
their order. What is not given keeps the value of the blank record, where that is allowed.
-/
namespace ActivityArchive.Json

/-- The two directions between a type and JSON. -/
structure Codec (A : Type) where
  write : A → Json
  read? : Json → Option A

namespace Codec

/-- Whole numbers from zero up to, but not including, `bound`. -/
def natural (bound : Nat) : Codec Nat where
  write n := .integer n
  read? j := match j with
    | .integer i => if 0 ≤ i ∧ i < bound then some i.toNat else none
    | _ => none

/-- Whole numbers of `2 * half` values around zero. -/
def signed (half : Nat) : Codec Int where
  write i := .integer i
  read? j := match j with
    | .integer i => if -half ≤ i ∧ i < half then some i else none
    | _ => none

def word32 : Codec UInt32 where
  write n := .integer n.toNat
  read? j := ((natural UInt32.size).read? j).map Nat.toUInt32

def word64 : Codec UInt64 where
  write n := .integer n.toNat
  read? j := ((natural UInt64.size).read? j).map Nat.toUInt64

/-- Counts and positions. -/
def count : Codec Nat := natural UInt64.size

/-- Instance numbers. -/
def number : Codec Int := signed (UInt32.size / 2)

/-- Unix seconds. -/
def seconds : Codec Int := signed (UInt64.size / 2)

def bool : Codec Bool where
  write b := .bool b
  read? j := match j with
    | .bool b => some b
    | _ => none

def text : Codec String where
  write s := .text s
  read? j := match j with
    | .text s => some s
    | _ => none

/-- Doubles; one that is not finite is written as null. An integer is read as the nearest double. -/
def real : Codec Float where
  write x := if x.isFinite then .real x else .null
  read? j := match j with
    | .real x => some x
    | .integer i =>
      some (if i < 0 then -i.natAbs.toUInt64.toFloat else i.toNat.toUInt64.toFloat)
    | _ => none

def list {A : Type} (c : Codec A) : Codec (List A) where
  write xs := .array (xs.map c.write)
  read? j := match j with
    | .array js => js.mapM c.read?
    | _ => none

def option {A : Type} (c : Codec A) : Codec (Option A) where
  write x := match x with
    | some x => c.write x
    | none => .null
  read? j := match j with
    | .null => some none
    | j => (c.read? j).map some

/-- Names of alternatives; a name may also stand as the only key of an object, over null. -/
def choice {A : Type} (all : List A) (name : A → String) : Codec A where
  write x := .text (name x)
  read? j := match j with
    | .text s => all.find? (name · == s)
    | .object [(s, .null)] => all.find? (name · == s)
    | _ => none

end Codec

/-- Where a member may be missing. -/
inductive Absence where
  | never
  | inObject
  | anywhere
  deriving DecidableEq

/-- One member of a record of type `S`; `write` gives nothing when the member is left out. -/
structure Member (S : Type) where
  key : String
  absence : Absence
  write : S → Option Json
  read? : Json → S → Option S

namespace Member

/-- A member that is always written. -/
def plain {S A : Type} (key : String) (absence : Absence) (c : Codec A) (get : S → A)
    (set : A → S → S) : Member S where
  key := key
  absence := absence
  write s := some (c.write (get s))
  read? j s := (c.read? j).map fun a => set a s

/-- An optional member, left out when there is none. -/
def optional {S A : Type} (key : String) (c : Codec A) (get : S → Option A)
    (set : Option A → S → S) : Member S where
  key := key
  absence := .anywhere
  write s := (get s).map c.write
  read? j s := (c.option.read? j).map fun a => set a s

/-- A list member, left out when it is empty. -/
def many {S A : Type} (key : String) (c : Codec A) (get : S → List A)
    (set : List A → S → S) : Member S where
  key := key
  absence := .anywhere
  write s := if (get s).isEmpty then none else some (c.list.write (get s))
  read? j s := (c.list.read? j).map fun a => set a s

end Member

/-- A record type by its members, in their order. -/
structure Shape (S : Type) where
  blank : S
  members : List (Member S)

namespace Shape

variable {S : Type}

def toJson (shape : Shape S) (s : S) : Json :=
  .object (shape.members.filterMap fun m => (m.write s).map fun j => (m.key, j))

def readMember? (given : List (String × Json)) (s : S) (m : Member S) : Option S :=
  match given.filter (·.1 == m.key) with
  | [] => if m.absence = .never then none else some s
  | [(_, j)] => m.read? j s
  | _ => none

def readItems? (s : S) : List (Member S) → List Json → Option S
  | [], [] => some s
  | [], _ :: _ => none
  | m :: ms, [] => if (m :: ms).all (·.absence = .anywhere) then some s else none
  | m :: ms, j :: js => do
    let s ← m.read? j s
    readItems? s ms js

def ofJson? (shape : Shape S) (j : Json) : Option S :=
  match j with
  | .object given => shape.members.foldlM (readMember? given) shape.blank
  | .array items => readItems? shape.blank shape.members items
  | _ => none

def codec (shape : Shape S) : Codec S := ⟨shape.toJson, shape.ofJson?⟩

end Shape

end ActivityArchive.Json
