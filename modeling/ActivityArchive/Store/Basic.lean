import ActivityArchive.Instance.Registry
import ActivityArchive.Metric.Descriptor

/-!
The store of an archive: metrics by handle, instances, and records. Values are queued one by one and
become a record together, in the order in which they were put. A sealed store refuses everything.
-/
namespace ActivityArchive

/-- Position of a metric among the metrics of its store. -/
abbrev Handle := Nat

structure StoredValue where
  metric : MetricId
  label : Option String
  text : String
  deriving DecidableEq

structure StoredRecord where
  /-- Unix seconds. -/
  timestamp : Int
  values : List StoredValue
  deriving DecidableEq

/-- The seconds of a record where they are a date between the years -262143 and 262142. -/
def StoredRecord.time? (r : StoredRecord) : Option Int :=
  if -8334601228800 ≤ r.timestamp ∧ r.timestamp ≤ 8210266876799 then some r.timestamp
    else none

inductive StoreError where
  | duplicate (id : MetricId) (name : String)
  | closed
  | unknownHandle (handle : Handle)
  | unknownInstance (domain : DomainId) (label : String)
  | missingInstance (id : MetricId)
  | registry (cause : RegistryError)
  deriving DecidableEq

def StoreError.message : StoreError → String
  | .duplicate id name =>
    "metric " ++ name ++ " (" ++ id.text ++ ") already registered with a different descriptor"
  | .closed => "store is sealed"
  | .unknownHandle handle => "unknown metric handle " ++ Text.decimal handle
  | .unknownInstance domain label =>
    "instance " ++ Text.quoted label ++ " not registered in domain " ++ domain.text
  | .missingInstance id =>
    "metric " ++ id.text ++ " has an instance domain, value needs an instance"
  | .registry cause => cause.message

structure Store where
  metrics : List Descriptor
  instances : Registry
  records : List StoredRecord
  /-- Values put since the last record. -/
  pending : List StoredValue
  isSealed : Bool
  deriving DecidableEq

namespace Store

def empty : Store := ⟨[], .empty, [], [], false⟩

def metric? (s : Store) (id : MetricId) : Option Descriptor := s.metrics.find? (·.id = id)

def metricNamed? (s : Store) (name : String) : Option Descriptor := s.metrics.find? (·.name = name)

/-- Registers a metric. The same descriptor again gives its handle again. -/
def addMetric (s : Store) (d : Descriptor) : Except StoreError (Handle × Store) :=
  if s.isSealed then .error .closed
  else match s.metrics.findIdx? (·.id = d.id) with
    | some handle =>
      if s.metrics[handle]? = some d then .ok (handle, s) else .error (.duplicate d.id d.name)
    | none => .ok (s.metrics.length, { s with metrics := s.metrics ++ [d] })

def addInstance (s : Store) (d : DomainId) (label : String) (number : Int) :
    Except StoreError Store :=
  if s.isSealed then .error .closed
  else match s.instances.add d label number with
    | .ok (_, r) => .ok { s with instances := r }
    | .error cause => .error (.registry cause)

/-- The instance under which a value of a metric is kept; a singular metric has none. -/
def instanceFor (s : Store) (m : Descriptor) (label : Option String) :
    Except StoreError (Option String) :=
  match m.domain, label with
  | some d, some label =>
    if (s.instances.number? d label).isSome then .ok (some label)
    else .error (.unknownInstance d label)
  | some _, none => .error (.missingInstance m.id)
  | none, _ => .ok none

/-- Queues a value for the next record. -/
def put (s : Store) (handle : Handle) (label : Option String) (text : String) :
    Except StoreError Store :=
  if s.isSealed then .error .closed
  else match s.metrics[handle]? with
    | none => .error (.unknownHandle handle)
    | some m =>
      (s.instanceFor m label).map fun label =>
        { s with pending := s.pending ++ [⟨m.id, label, text⟩] }

/-- Closes the record being built. -/
def write (s : Store) (timestamp : Int) : Except StoreError Store :=
  if s.isSealed then .error .closed
  else .ok { s with records := s.records ++ [⟨timestamp, s.pending⟩], pending := [] }

/-- No definition and no value is taken any more. -/
def close (s : Store) : Store := { s with isSealed := true }

/-- The text put for a metric and an instance in one record. -/
def text? (s : Store) (record : Nat) (name : String) (label : Option String) : Option String := do
  let m ← s.metricNamed? name
  let r ← s.records[record]?
  let v ← r.values.find? fun v => v.metric = m.id ∧ v.label = label
  return v.text

end Store

end ActivityArchive
