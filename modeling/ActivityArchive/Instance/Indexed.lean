import Mathlib.Data.List.Nodup
import ActivityArchive.Instance.Registry

/-!
A registry that finds its instances through tables. Beside the list of its entries a domain keeps
the position of every number, and for every digest of a label the positions of the labels with that
digest: more than one where digests collide. The digest is any function on labels. Domains are
looked up in a table of their own, and their order is kept apart from it.

An operation gives its outcome and the registry it leaves behind, whether it succeeds or not.
-/
namespace ActivityArchive

deriving instance Hashable for DomainId

/-- The instances of one domain. -/
structure DomainIndex where
  entries : List Entry := []
  byNumber : Std.HashMap Int Nat := ∅
  byDigest : Std.HashMap UInt64 (List Nat) := ∅

namespace DomainIndex

/-- The entry at a position that one of the tables gives. -/
def entry (t : DomainIndex) (pos : Nat) : Entry := t.entries.getD pos (0, "")

/-- The positions to compare with a label. -/
def bucket (t : DomainIndex) (word : UInt64) : List Nat := t.byDigest.getD word []

def positionOf? (digest : String → UInt64) (t : DomainIndex) (label : String) : Option Nat :=
  (t.bucket (digest label)).find? fun pos => (t.entry pos).2 = label

/-- The next position goes into both tables. -/
def push (digest : String → UInt64) (t : DomainIndex) (e : Entry) : DomainIndex where
  entries := t.entries ++ [e]
  byNumber := t.byNumber.insert e.1 t.entries.length
  byDigest := t.byDigest.insert (digest e.2) (t.bucket (digest e.2) ++ [t.entries.length])

end DomainIndex

structure IndexedRegistry where
  domains : Std.HashMap DomainId DomainIndex := ∅
  order : List DomainId := []

namespace IndexedRegistry

def entries (x : IndexedRegistry) (d : DomainId) : List Entry :=
  match x.domains[d]? with
  | some t => t.entries
  | none => []

def label? (x : IndexedRegistry) (d : DomainId) (number : Int) : Option String :=
  x.domains[d]?.bind fun t => t.byNumber[number]?.map fun pos => (t.entry pos).2

def number? (digest : String → UInt64) (x : IndexedRegistry) (d : DomainId) (label : String) :
    Option Int :=
  x.domains[d]?.bind fun t => (t.positionOf? digest label).map fun pos => (t.entry pos).1

/-- One past the largest number in use. -/
def next (x : IndexedRegistry) (d : DomainId) : Int :=
  match ((x.entries d).map (·.1)).max? with
  | some n => n + 1
  | none => 0

/-- Puts an entry after those of its domain. -/
def push (digest : String → UInt64) (x : IndexedRegistry) (d : DomainId) (e : Entry) :
    IndexedRegistry :=
  { x with domains := x.domains.insert d ((x.domains.getD d {}).push digest e) }

/-- Registers a pair; the flag tells whether it is new. -/
def add (digest : String → UInt64) (x : IndexedRegistry) (d : DomainId) (label : String)
    (number : Int) : Except RegistryError Bool × IndexedRegistry :=
  match x.domains[d]? with
  | none => (.ok true, push digest { x with order := x.order ++ [d] } d (number, label))
  | some t =>
    match t.byNumber[number]? with
    | some pos =>
      let existing := (t.entry pos).2
      if existing = label then (.ok false, x)
      else (.error (.conflictingInstance d number existing label), x)
    | none =>
      match t.positionOf? digest label with
      | some pos => (.error (.duplicateLabel d label (t.entry pos).1 number), x)
      | none => (.ok true, x.push digest d (number, label))

/-- The number of a label, which is registered under the next number when it is new. -/
def ensure (digest : String → UInt64) (x : IndexedRegistry) (d : DomainId) (label : String) :
    Except RegistryError Int × IndexedRegistry :=
  match x.number? digest d label with
  | some number => (.ok number, x)
  | none =>
    let (outcome, x') := x.add digest d label (x.next d)
    (outcome.map fun _ => x.next d, x')

/-- The instances of one domain after the other. -/
def toList (x : IndexedRegistry) : List Instance :=
  x.order.flatMap fun d => (x.entries d).map fun (n, l) => ⟨d, n, l⟩

end IndexedRegistry

end ActivityArchive
