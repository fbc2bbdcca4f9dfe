import ActivityArchive.Attempt
import ActivityArchive.Store.Basic

/-!
The metrics of one group, with the handles under which a store knows them. A handle once held stays.
A closed catalog registers nothing more.
-/
namespace ActivityArchive

inductive CatalogError where
  | duplicateMetric (group metric : String) (id : MetricId)
  | unavailable (group metric : String)
  | indexOutOfBounds (group : String) (index count : Nat)
  deriving DecidableEq

def CatalogError.message : CatalogError → String
  | .duplicateMetric group metric id =>
    "group " ++ group ++ ": metric " ++ metric ++ " (" ++ id.text ++
      ") already defined with different semantics"
  | .unavailable group metric =>
    "group " ++ group ++ ": metric store not accepting definitions for " ++ metric
  | .indexOutOfBounds group index count =>
    "group " ++ group ++ ": metric index " ++ Text.decimal index ++
      " out of bounds (catalog has " ++ Text.decimal count ++ ")"

structure Catalog where
  group : String
  descriptors : List Descriptor
  handles : List (Option Handle)
  isClosed : Bool

namespace Catalog

def new (group : String) (descriptors : List Descriptor) : Catalog :=
  ⟨group, descriptors, descriptors.map fun _ => none, false⟩

def size (c : Catalog) : Nat := c.descriptors.length

def resolve (c : Catalog) (idx : Nat) : Except CatalogError Descriptor :=
  match c.descriptors[idx]? with
  | some d => .ok d
  | none => .error (.indexOutOfBounds c.group idx c.size)

def handle? (c : Catalog) (idx : Nat) : Option Handle := (c.handles[idx]?).join

/-- The handle at an index that is known to lie in the catalog. -/
def handleAt (c : Catalog) (idx : Nat) : Except CatalogError (Option Handle) :=
  (c.resolve idx).map fun _ => c.handle? idx

def position? (c : Catalog) (id : MetricId) : Option Nat := c.descriptors.findIdx? (·.id = id)

def close (c : Catalog) : Catalog := { c with isClosed := true }

def unavailableAt (c : Catalog) (idx : Nat) : CatalogError :=
  .unavailable c.group (match c.descriptors[idx]? with
    | some d => d.name
    | none => "<empty catalog>")

/-- Registers one metric; one that is registered already keeps its handle. -/
def defineMetric (c : Catalog) (idx : Nat) (store : Store) :
    Except CatalogError (Handle × Catalog × Store) := do
  let d ← c.resolve idx
  match c.handle? idx with
  | some handle => return (handle, c, store)
  | none =>
    if c.isClosed || store.isSealed then .error (c.unavailableAt idx)
    else match store.addMetric d with
      | .ok (handle, store) =>
        return (handle, { c with handles := c.handles.set idx (some handle) }, store)
      | .error (.duplicate ..) => .error (.duplicateMetric c.group d.name d.id)
      | .error _ => .error (c.unavailableAt idx)

def defineStep (idx : Nat) (s : Catalog × Store) : Attempt CatalogError (Catalog × Store) :=
  match s.1.defineMetric idx s.2 with
  | .ok (_, c, store) => (.ok (), c, store)
  | .error e => (.error e, s)

/-- Registers every metric, in order, and closes the catalog. -/
def define (c : Catalog) (store : Store) : Attempt CatalogError (Catalog × Store) :=
  if c.isClosed then (.error (c.unavailableAt 0), c, store)
  else match attemptAll defineStep (List.range c.size) (c, store) with
    | (.ok _, c, store) => (.ok (), c.close, store)
    | failed => failed

end Catalog

end ActivityArchive
