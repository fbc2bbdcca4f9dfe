import ActivityArchive.Group.Spec

/-!
Groups of one record whose fields are singular metrics, one for each, in the same order. The first
reading of a metric goes into its field; the others are not looked at.
-/
namespace ActivityArchive.GroupSpec

open Record

/-- A row of the metric table of a flat group. -/
structure Row where
  cluster : UInt32
  item : UInt32
  name : String
  semantics : Semantics
  unit : MetricUnit

def Row.descriptor (row : Row) (kind : Kind) : Descriptor :=
  ⟨.pack 60 row.cluster row.item, row.name, kind, row.semantics, none, row.unit⟩

def flat (name : String) (k : Single) (counters : List (Counter k.Rec)) (rows : List Row) :
    GroupSpec where
  name := name
  metrics := List.zipWith (fun c row => row.descriptor c.kind) counters rows
  isPresent acts := 0 < (acts.single k).count
  define _ := [.table]
  emit view := (view.acts, match single? view k with
    | some r => singular 0 (counters.map (·.value r))
    | none => [])
  absorb view idx readings := absorbSingle k view.slot (fun (_, v) =>
    if view.accepts idx v then counters[idx]?.bind (·.assign? v) else none) (readings.take 1)
  finish _ := id

end ActivityArchive.GroupSpec
