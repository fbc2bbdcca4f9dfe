import ActivityArchive.Metric.Descriptor

/-!
Which table owns a metric, and at which index. No identifier is owned twice: tables that claim the
same one are refused.
-/
namespace ActivityArchive

inductive RouteError where
  | duplicateIdentifier (id : MetricId) (first second : String)
  deriving DecidableEq

def RouteError.message : RouteError → String
  | .duplicateIdentifier id first second =>
    "metric " ++ id.text ++ " claimed by both " ++ first ++ " and " ++ second

/-- The place of an identifier: the key and the name of its table, and the index there. -/
structure Route (K : Type) where
  id : MetricId
  key : K
  group : String
  index : Nat

structure Routes (K : Type) where
  table : List (Route K)

namespace Routes

variable {K : Type}

/-- Every place of the tables, in order. -/
def places (tables : List (K × String × List Descriptor)) : List (Route K) :=
  tables.flatMap fun (key, group, ds) => ds.mapIdx fun i d => ⟨d.id, key, group, i⟩

def insert (known : List (Route K)) (r : Route K) : Except RouteError (List (Route K)) :=
  match known.find? (·.id = r.id) with
  | some first => .error (.duplicateIdentifier r.id first.group r.group)
  | none => .ok (known ++ [r])

def build (tables : List (K × String × List Descriptor)) : Except RouteError (Routes K) :=
  ((places tables).foldlM insert []).map .mk

def size (r : Routes K) : Nat := r.table.length

def find? (r : Routes K) (id : MetricId) : Option (K × Nat) :=
  (r.table.find? (·.id = id)).map fun r => (r.key, r.index)

end Routes

end ActivityArchive
