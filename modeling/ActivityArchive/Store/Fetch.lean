import ActivityArchive.Store.Basic

/-!
Records decoded by the declared kinds of their metrics. The values of one metric stand together, in
the order in which they were put; metrics stand in the order of their first value. A value is left
out when its metric or its instance is not known or its text does not read.
-/
namespace ActivityArchive

/-- An instance number, none for a singular metric, with a value. -/
abbrev Reading := Option Int × Value

structure ValueSet where
  id : MetricId
  readings : List Reading

structure FetchedRecord where
  timestamp : Int
  sets : List ValueSet

namespace Store

/-- The number of the instance of a stored value: nothing when it has one that is not known. -/
def numberOf (s : Store) (m : Descriptor) (v : StoredValue) : Option (Option Int) :=
  match m.domain, v.label with
  | some d, some label => (s.instances.number? d label).map some
  | _, _ => some none

def reading? (s : Store) (v : StoredValue) : Option Reading := do
  let m ← s.metric? v.metric
  let value ← Value.read? m.kind v.text
  let number ← s.numberOf m v
  return (number, value)

/-- Adds a reading to the set of its metric, which comes last when it is new. -/
def collect (sets : List ValueSet) (id : MetricId) (r : Reading) : List ValueSet :=
  match sets with
  | [] => [⟨id, [r]⟩]
  | set :: rest =>
    if set.id = id then { set with readings := set.readings ++ [r] } :: rest
    else set :: collect rest id r

def decode (s : Store) (record : StoredRecord) : FetchedRecord where
  timestamp := record.timestamp
  sets := record.values.foldl (fun sets v =>
    match s.reading? v with
    | some r => collect sets v.metric r
    | none => sets) []

def fetch (s : Store) : List FetchedRecord := s.records.map s.decode

end Store

end ActivityArchive
