import ActivityArchive.Group.Spec

/-!
Groups with a record for each CPU, record 0 being the aggregate. Their catalogs have two halves of
the same width: the metrics of the aggregate, and those of the CPUs. An offline CPU shows nothing, a
CPU that did not tick shows idle time only.
-/
namespace ActivityArchive.GroupSpec

open Record

/-- The selected CPUs among those planned for, by record. -/
def selectedUnits (count : Nat) (selection : Bitmap) : List Nat :=
  (List.range' 1 (count - 1)).filter selection.contains

/-- The instance of the CPU with record `idx`. -/
def cpuEntry (idx : Nat) : DomainId × String × Option Int :=
  (Domain.perCpu, Domain.cpuLabel (idx - 1), some ((idx - 1 : Nat) : Int))

/-- Registers the first `half` metrics when the aggregate is selected, and the other ones up to
`size`, with the instances, when a CPU is. -/
def defineHalves (half size count : Nat) (selection : Bitmap) : List Definition :=
  let cpus := selectedUnits count selection
  (if selection.contains 0 then (List.range half).map .metric else []) ++
    (if cpus.isEmpty then [] else (List.range' half (size - half)).map .metric) ++
    cpus.map fun idx =>
      let (d, l, n) := cpuEntry idx
      .entry d l n

/-- The values of one record, in the half of the catalog that it belongs to. -/
def emitHalf (view : ExportView) (width idx : Nat) (values : List Value) : List Emission :=
  if idx = 0 then if view.isDefined 0 then singular 0 values else []
  else if view.isDefined width then
    let (d, l, n) := cpuEntry idx
    .entry d l n :: ofInstance width l values
  else []

/-- The record that a reading belongs to: 0 in the first half, else the one of its instance. -/
def unitOf? (view : ImportView) (half idx : Nat) (number : Option Int) : Option Nat :=
  if idx < half then some 0
  else do
    let _ ← view.label? idx number
    let n ← number
    if n < 0 then none else some (n.toNat + 1)

/-- Takes every reading for which `change` gives a change of the record it belongs to. -/
def absorbUnits (k : Multi) (view : ImportView) (half idx : Nat)
    (change : Value → Option (k.Rec → k.Rec)) (readings : List Reading) (acts : Activities) :
    Activities :=
  readings.foldl (fun acts (number, v) =>
    match unitOf? view half idx number, change v with
    | some unit, some f => updateMulti view.slot k unit f acts
    | _, _ => acts) acts

/-- A counter of both halves: its metrics, its value, and what a reading of it changes, where it is
not made of others. -/
structure UnitColumn (R : Type) where
  item : UInt32
  unitItem : UInt32
  name : String
  value : R → UInt64
  assign? : Option (UInt64 → R → R)

/-- The metrics of both halves, named after `all` and `each`. -/
def unitMetrics {R : Type} (cluster : UInt32) (all each : String) (unit : MetricUnit)
    (columns : List (UnitColumn R)) : List Descriptor :=
  columns.map (fun c => ⟨.pack 60 cluster c.item, all ++ c.name, .u64, .counter, none, unit⟩) ++
    columns.map (fun c =>
      ⟨.pack 60 cluster c.unitItem, each ++ c.name, .u64, .counter, some Domain.perCpu, unit⟩)

def absorbColumns (k : Multi) (columns : List (UnitColumn k.Rec)) (view : ImportView) (idx : Nat)
    (readings : List Reading) (acts : Activities) : Activities :=
  match columns[idx % columns.length]?.bind (·.assign?) with
  | some assign =>
    absorbUnits k view columns.length idx (fun v => (view.word64? idx v).map assign) readings acts
  | none => acts

def cpuColumns : List (UnitColumn CpuTimes) :=
  [ ⟨20, 0, "user", fun c => satSub c.user c.guest, some fun x c => { c with user := x }⟩,
    ⟨21, 1, "nice", fun c => satSub c.nice c.guestNice, some fun x c => { c with nice := x }⟩,
    ⟨22, 2, "sys", (·.sys), some fun x c => { c with sys := x }⟩,
    ⟨23, 3, "idle", (·.idle), some fun x c => { c with idle := x }⟩,
    ⟨35, 30, "wait.total", (·.iowait), some fun x c => { c with iowait := x }⟩,
    ⟨34, 31, "irq.total", fun c => c.hardirq + c.softirq, none⟩,
    ⟨53, 56, "irq.soft", (·.softirq), some fun x c => { c with softirq := x }⟩,
    ⟨54, 57, "irq.hard", (·.hardirq), some fun x c => { c with hardirq := x }⟩,
    ⟨55, 58, "steal", (·.steal), some fun x c => { c with steal := x }⟩,
    ⟨60, 61, "guest", (·.guest), some fun x c => { c with guest := x }⟩,
    ⟨81, 83, "guest_nice", (·.guestNice), some fun x c => { c with guestNice := x }⟩ ]

def cpuValues (c : CpuTimes) : List Value := cpuColumns.map fun col => .u64 (col.value c)

/-- The CPUs of a slot with offline ones and the aggregate worked out. -/
def prepareCpu (a : Activity CpuTimes) (s : Slot) : Activity CpuTimes :=
  let a := a.prepare s
  if isAggregated a.count then
    let (_, curr, offline) :=
      aggregateCpus a.count (a.buffer.column s) (a.buffer.column s.other) a.offline
    { a with buffer := a.buffer.fill s curr, offline }
  else a

/-- What is shown of a record: nothing but idle time where the CPU did not tick. -/
def shownCpu (a : Activity CpuTimes) (s : Slot) (idx : Nat) : Except BufferError CpuTimes := do
  let curr ← a.buffer.elementAt s idx
  if idx = 0 then return curr
  let prev ← a.buffer.elementAt s.other idx
  return if isTickless idx a.offline (cpuInterval curr prev) then .tickless else curr

/-- The records shown of a slot, by position. -/
def shown {R : Type} (a : Activity R) (record : Nat → Except BufferError R) :
    Except BufferError (List (Nat × R)) :=
  ((List.range a.count).filter fun idx => isShown idx a.selection a.offline).mapM fun idx =>
    (record idx).map fun r => (idx, r)

def emitUnits {R : Type} (view : ExportView) (width : Nat) (values : R → List Value)
    (records : Except BufferError (List (Nat × R))) : List Emission :=
  match records with
  | .ok rs => rs.flatMap fun (idx, r) => emitHalf view width idx (values r)
  | .error e => [.fault e]

def cpu : GroupSpec where
  name := "cpu"
  metrics := unitMetrics 0 "kernel.all.cpu." "kernel.percpu.cpu." .msec cpuColumns
  isPresent acts := 0 < acts.cpu.count
  define view := defineHalves 11 22 view.acts.cpu.count view.acts.cpu.selection
  emit view :=
    if view.acts.cpu.buffer.observed.get view.slot = 0 then (view.acts, [])
    else
      let a := prepareCpu view.acts.cpu view.slot
      ({ view.acts with cpu := a }, emitUnits view 11 cpuValues (shown a (shownCpu a view.slot)))
  absorb := absorbColumns .cpu cpuColumns
  finish s acts :=
    acts.updateMulti .cpu fun a =>
      { a with buffer := a.buffer.fill s ((a.records s).map CpuTimes.withGuest) }

def softnetColumns : List (UnitColumn Softnet) :=
  [ ⟨0, 6, "processed", (·.processed), some fun x r => { r with processed := x }⟩,
    ⟨1, 7, "dropped", (·.dropped), some fun x r => { r with dropped := x }⟩,
    ⟨2, 8, "time_squeeze", (·.timeSqueeze), some fun x r => { r with timeSqueeze := x }⟩,
    ⟨4, 10, "received_rps", (·.receivedRps), some fun x r => { r with receivedRps := x }⟩,
    ⟨5, 11, "flow_limit", (·.flowLimit), some fun x r => { r with flowLimit := x }⟩,
    ⟨12, 13, "backlog_length", (·.backlogLen), some fun x r => { r with backlogLen := x }⟩ ]

def softnetValues (r : Softnet) : List Value := softnetColumns.map fun col => .u64 (col.value r)

def prepareSoftnet (a : Activity Softnet) (s : Slot) : Activity Softnet :=
  let a := a.prepare s
  if isAggregated a.count then
    let (curr, offline) :=
      aggregateSoftnet a.count (a.buffer.column s) (a.buffer.column s.other) a.offline
    { a with buffer := a.buffer.fill s curr, offline }
  else a

def softnet : GroupSpec where
  name := "softnet"
  metrics := unitMetrics 57 "network.softnet." "network.softnet.percpu." .count softnetColumns
  isPresent acts := 0 < acts.softnet.count
  define view := defineHalves 6 12 view.acts.softnet.count view.acts.softnet.selection
  emit view :=
    if view.acts.softnet.buffer.observed.get view.slot = 0 then (view.acts, [])
    else
      let a := prepareSoftnet view.acts.softnet view.slot
      ({ view.acts with softnet := a },
        emitUnits view 6 softnetValues (shown a (a.buffer.elementAt view.slot)))
  absorb := absorbColumns .softnet softnetColumns
  finish _ := id

/-- Clocks have no aggregate metric, and no CPU is offline here. -/
def cpuClock : GroupSpec where
  name := "pwr-cpufreq"
  metrics :=
    [⟨.pack 60 18 0, "hinv.cpu.clock", .float, .discrete, some Domain.perCpu, .perUsec⟩]
  isPresent acts := 1 < acts.cpufreq.count
  define view := defineHalves 0 1 view.acts.cpufreq.count view.acts.cpufreq.selection
  emit view :=
    let a := view.acts.cpufreq
    let rows := (((a.records view.slot).take a.count).zipIdx.drop 1).filter fun (_, idx) =>
      a.selection.contains idx
    (view.acts, rows.flatMap fun (r, idx) =>
      let (d, l, n) := cpuEntry idx
      [.entry d l n, .value 0 (some l) (.ofHundredths r.cpufreq)])
  absorb view idx := absorbUnits .cpufreq view 0 idx fun v =>
    (view.real? idx v).map fun x _ => { cpufreq := Value.hundredths x }
  finish _ := id

end ActivityArchive.GroupSpec
