import ActivityArchive.Activity.Activities
import ActivityArchive.Activity.Aggregate
import ActivityArchive.Config
import ActivityArchive.Instance.Domains
import ActivityArchive.Store.Fetch

/-!
What a statistic group is: its metrics, what it registers, which values it emits for a sample, and
how it takes values back into records. Registering and emitting are lists of steps, which a session
carries out.
-/
namespace ActivityArchive

/-- A step of the definition of a group. -/
inductive Definition where
  /-- Registers all metrics and closes the catalog. -/
  | table
  | metric (idx : Nat)
  /-- Registers an instance, under the next number where none is given. -/
  | entry (domain : DomainId) (label : String) (number : Option Int)

/-- A step of the export of a group. -/
inductive Emission where
  | entry (domain : DomainId) (label : String) (number : Option Int)
  | value (idx : Nat) (label : Option String) (value : Value)
  /-- A record was asked for that no buffer holds. -/
  | fault (cause : BufferError)

/-- What a group sees when it is defined. -/
structure DefineView where
  acts : Activities
  config : Config
  /-- Samples seen before definition, in their order. -/
  discovery : List Sample

/-- What a group sees when a sample is exported. -/
structure ExportView where
  acts : Activities
  config : Config
  /-- The slot of the sample; the other one holds the sample before it. -/
  slot : Slot
  isFirst : Bool
  isDefined : Nat → Bool

/-- What a group sees when values are imported. -/
structure ImportView where
  metrics : List Descriptor
  registry : Registry
  slot : Slot

namespace ImportView

/-- Whether a value has the declared kind of a metric. -/
def accepts (view : ImportView) (idx : Nat) (v : Value) : Bool :=
  view.metrics[idx]?.any (·.kind = v.kind)

def word32? (view : ImportView) (idx : Nat) (v : Value) : Option UInt32 :=
  if view.accepts idx v then v.word32? else none

def word64? (view : ImportView) (idx : Nat) (v : Value) : Option UInt64 :=
  if view.accepts idx v then v.word64? else none

def real? (view : ImportView) (idx : Nat) (v : Value) : Option Float :=
  if view.accepts idx v then v.real? else none

def string? (view : ImportView) (idx : Nat) (v : Value) : Option String :=
  if view.accepts idx v then v.string? else none

/-- The label of a reading, where its metric has instances and its number is registered. -/
def label? (view : ImportView) (idx : Nat) (number : Option Int) : Option String := do
  let d ← view.metrics[idx]?
  let domain ← d.domain
  let number ← number
  view.registry.label? domain number

end ImportView

structure GroupSpec where
  /-- The name in configurations and error texts. -/
  name : String
  metrics : List Descriptor
  /-- Whether the samples before definition had records of the group. -/
  isPresent : Activities → Bool
  define : DefineView → List Definition
  emit : ExportView → Activities × List Emission
  /-- Takes the readings of the metric at an index into the records. -/
  absorb : ImportView → Nat → List Reading → Activities → Activities
  /-- Runs once for each imported record, after all readings. -/
  finish : Slot → Activities → Activities

namespace GroupSpec

/-- Changes the record of a kind that comes at most once. -/
def updateSingle (s : Slot) (k : Single) (f : k.Rec → k.Rec) (acts : Activities) : Activities :=
  acts.updateSingle k fun a => a.update s 0 f

def updateMulti (s : Slot) (k : Multi) (idx : Nat) (f : k.Rec → k.Rec) (acts : Activities) :
    Activities :=
  acts.updateMulti k fun a => a.update s idx f

/-- The record of a kind that comes at most once, in the slot being exported. -/
def single? (view : ExportView) (k : Single) : Option k.Rec :=
  ((view.acts.single k).records view.slot).head?

/-- Takes every reading for which `change` gives a change of the record. -/
def absorbSingle (k : Single) (s : Slot) (change : Reading → Option (k.Rec → k.Rec))
    (readings : List Reading) (acts : Activities) : Activities :=
  readings.foldl (fun acts r =>
    match change r with
    | some f => updateSingle s k f acts
    | none => acts) acts

/-- The values of singular metrics from index `start` on. -/
def singular (start : Nat) (values : List Value) : List Emission :=
  values.mapIdx fun i v => .value (start + i) none v

/-- The values of one instance from index `start` on. -/
def ofInstance (start : Nat) (label : String) (values : List Value) : List Emission :=
  values.mapIdx fun i v => .value (start + i) (some label) v

/-- The definition of fixed instances. -/
def fixed (domain : DomainId) (entries : List Entry) : List Definition :=
  entries.map fun (number, label) => .entry domain label (some number)

end GroupSpec

end ActivityArchive
