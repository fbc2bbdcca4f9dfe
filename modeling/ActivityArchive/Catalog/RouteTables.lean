import Mathlib.Data.List.Nodup
import ActivityArchive.Catalog.Routes

/-!
Routes by two tables, filled as the identifiers come: one has the place of an identifier, the other
one the name of the group that claimed it. An identifier is refused where it has an owner, and no
identifier behind it is looked at.
-/
namespace ActivityArchive

deriving instance Hashable for MetricId

structure RouteTables (K : Type) where
  places : Std.HashMap MetricId (K × Nat) := ∅
  owners : Std.HashMap MetricId String := ∅

namespace RouteTables

variable {K : Type}

/-- A group claims the identifier of its metric at an index. -/
def claim (key : K) (group : String) (t : RouteTables K) (metric : Descriptor × Nat) :
    Except RouteError (RouteTables K) :=
  match t.owners[metric.1.id]? with
  | some first => .error (.duplicateIdentifier metric.1.id first group)
  | none => .ok
    { places := t.places.insert metric.1.id (key, metric.2)
      owners := t.owners.insert metric.1.id group }

/-- A group claims all of its metrics. -/
def claimAll (t : RouteTables K) :
    K × String × List Descriptor → Except RouteError (RouteTables K)
  | (key, group, ds) => ds.zipIdx.foldlM (claim key group) t

def build (tables : List (K × String × List Descriptor)) : Except RouteError (RouteTables K) :=
  tables.foldlM claimAll {}

def size (t : RouteTables K) : Nat := t.places.size

def find? (t : RouteTables K) (id : MetricId) : Option (K × Nat) := t.places[id]?

end RouteTables

end ActivityArchive
