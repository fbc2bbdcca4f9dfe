import ActivityArchive.Group.Spec

/-!
Groups of one record that have, next to singular metrics, metrics with a fixed set of instances: the
run queue with its load averages, NFS with its requests, and pressure with its windows.
-/
namespace ActivityArchive.GroupSpec

open Record

/-- The values of fixed instances under one metric. -/
def emitFixed (idx : Nat) (entries : List Entry) (values : List Value) : List Emission :=
  (entries.zip values).map fun ((_, label), v) => .value idx (some label) v

/-- Hundredths of a load average, at most those of 32 bits. -/
def loadOf (x : Float) : UInt32 :=
  let n := Value.hundredths x
  if n.toNat < UInt32.size then n.toUInt32 else 4294967295

/-- What the load average of a number changes; an unknown number changes nothing. -/
def setLoad (number : Option Int) (load : UInt32) (q : RunQueue) : RunQueue :=
  match number with
  | some 1 => { q with loadAvg1 := load }
  | some 5 => { q with loadAvg5 := load }
  | some 15 => { q with loadAvg15 := load }
  | _ => q

def runQueue : GroupSpec where
  name := "queue"
  metrics :=
    [ ⟨.pack 60 2 2, "kernel.all.runnable", .u32, .instant, none, .none⟩,
      ⟨.pack 60 2 3, "kernel.all.nprocs", .u32, .instant, none, .none⟩,
      ⟨.pack 60 0 16, "kernel.all.blocked", .u64, .instant, none, .none⟩,
      ⟨.pack 60 2 0, "kernel.all.load", .float, .instant, some Domain.loadAverage, .none⟩ ]
  isPresent acts := 0 < acts.queue.count
  define _ := .table :: fixed Domain.loadAverage Domain.loadPeriods
  emit view := (view.acts, match single? view .queue with
    | some q =>
      singular 0 [.u32 q.nrRunning, .u32 q.nrThreads, .u64 q.procsBlocked] ++
        emitFixed 3 Domain.loadPeriods
          ([q.loadAvg1, q.loadAvg5, q.loadAvg15].map fun n => .ofHundredths n.toUInt64)
    | none => [])
  absorb view idx := absorbSingle .queue view.slot fun (number, v) =>
    match idx with
    | 0 => (view.word32? idx v).map fun x q => { q with nrRunning := x }
    | 1 => (view.word32? idx v).map fun x q => { q with nrThreads := x }
    | 2 => (view.word64? idx v).map fun x q => { q with procsBlocked := x }
    | _ => (view.real? idx v).map fun x => setLoad number (loadOf x)
  finish _ := id

/-- What the request count of a number changes; an unknown number changes nothing. -/
def setClientRequest (number : Option Int) (x : UInt32) (n : NfsClient) : NfsClient :=
  match number with
  | some 4 => { n with getattcnt := x }
  | some 6 => { n with readcnt := x }
  | some 8 => { n with writecnt := x }
  | some 18 => { n with accesscnt := x }
  | _ => n

def rpcMetric (item : UInt32) (name : String) (kind : Kind) : Descriptor :=
  ⟨.pack 60 7 item, name, kind, .counter, none, .count⟩

def requestMetric (item : UInt32) (name : String) (kind : Kind) : Descriptor :=
  ⟨.pack 60 7 item, name, kind, .counter, some Domain.nfsRequest, .count⟩

def nfsClient : GroupSpec where
  name := "nfs"
  metrics :=
    [ rpcMetric 20 "rpc.client.rpccnt" .u32,
      rpcMetric 21 "rpc.client.rpcretrans" .u32,
      requestMetric 4 "nfs.client.reqs" .u32 ]
  isPresent acts := 0 < acts.nfs.count
  define _ := .table :: fixed Domain.nfsRequest Domain.nfsRequests
  emit view := (view.acts, match single? view .nfs with
    | some n =>
      singular 0 [.u32 n.rpccnt, .u32 n.rpcretrans] ++
        emitFixed 2 Domain.nfsRequests
          ([n.getattcnt, n.readcnt, n.writecnt, n.accesscnt].map .u32)
    | none => [])
  absorb view idx := absorbSingle .nfs view.slot fun (number, v) =>
    (view.word32? idx v).map fun x n =>
      match idx with
      | 0 => { n with rpccnt := x }
      | 1 => { n with rpcretrans := x }
      | _ => setClientRequest number x n
  finish _ := id

/-- What the request count of a number changes; an unknown number changes nothing. -/
def setServerRequest (number : Option Int) (x : UInt64) (n : NfsServer) : NfsServer :=
  match number with
  | some 4 => { n with getattcnt := x }
  | some 6 => { n with readcnt := x }
  | some 8 => { n with writecnt := x }
  | some 18 => { n with accesscnt := x }
  | _ => n

def nfsServer : GroupSpec where
  name := "nfsd"
  metrics :=
    [ rpcMetric 30 "rpc.server.rpccnt" .u64,
      rpcMetric 34 "rpc.server.rpcbadclnt" .u64,
      rpcMetric 44 "rpc.server.netcnt" .u64,
      rpcMetric 45 "rpc.server.netudpcnt" .u64,
      rpcMetric 46 "rpc.server.nettcpcnt" .u64,
      rpcMetric 35 "rpc.server.rchits" .u64,
      rpcMetric 36 "rpc.server.rcmisses" .u64,
      requestMetric 12 "nfs.server.reqs" .u64 ]
  isPresent acts := 0 < acts.nfsd.count
  define _ := .table :: fixed Domain.nfsRequest Domain.nfsRequests
  emit view := (view.acts, match single? view .nfsd with
    | some n =>
      singular 0 ([n.rpccnt, n.rpcbad, n.netcnt, n.netudpcnt, n.nettcpcnt, n.rchits,
          n.rcmisses].map .u64) ++
        emitFixed 7 Domain.nfsRequests
          ([n.getattcnt, n.readcnt, n.writecnt, n.accesscnt].map .u64)
    | none => [])
  absorb view idx := absorbSingle .nfsd view.slot fun (number, v) =>
    (view.word64? idx v).map fun x n =>
      match idx with
      | 0 => { n with rpccnt := x }
      | 1 => { n with rpcbad := x }
      | 2 => { n with netcnt := x }
      | 3 => { n with netudpcnt := x }
      | 4 => { n with nettcpcnt := x }
      | 5 => { n with rchits := x }
      | 6 => { n with rcmisses := x }
      | _ => setServerRequest number x n
  finish _ := id

/-- The two metrics of one line of pressure. -/
def pressureLine (cluster item : UInt32) (name : String) : List Descriptor :=
  [ ⟨.pack 60 cluster item, name ++ ".avg", .float, .instant, some Domain.pressure, .none⟩,
    ⟨.pack 60 cluster (item + 1), name ++ ".total", .u64, .counter, none, .usec⟩ ]

/-- The values of one line of pressure, its metrics standing at `idx` and after it. -/
def emitPressure (idx : Nat) (avg : Window) (total : UInt64) : List Emission :=
  emitFixed idx Domain.pressureWindows ([avg.short, avg.middle, avg.long].map .ofHundredths) ++
    [.value (idx + 1) none (.u64 total)]

/-- Sets the average of a window; a number that is no window reads nothing. -/
def setWindow? (number : Option Int) (x : UInt64) : Option (Window → Window) :=
  match number with
  | some 10 => some fun w => { w with short := x }
  | some 60 => some fun w => { w with middle := x }
  | some 300 => some fun w => { w with long := x }
  | _ => none

def pressureChange? (view : ImportView) (idx : Nat) (r : Reading) :
    Option (Pressure → Pressure) :=
  let (number, v) := r
  match idx with
  | 0 => do
    let x ← view.real? idx v
    let f ← setWindow? number (Value.hundredths x)
    return fun p => { p with someAvg := f p.someAvg }
  | 1 => (view.word64? idx v).map fun x p => { p with someTotal := x }
  | 2 => do
    let x ← view.real? idx v
    let f ← setWindow? number (Value.hundredths x)
    return fun p => { p with fullAvg := f p.fullAvg }
  | _ => (view.word64? idx v).map fun x p => { p with fullTotal := x }

/-- The pressure on the CPUs has no line for tasks that all wait. -/
def cpuPressure : GroupSpec where
  name := "psi-cpu"
  metrics := pressureLine 83 0 "kernel.all.pressure.cpu.some"
  isPresent acts := 0 < acts.psiCpu.count
  define _ := .table :: fixed Domain.pressure Domain.pressureWindows
  emit view := (view.acts, match single? view .psiCpu with
    | some p => emitPressure 0 p.someAvg p.someTotal
    | none => [])
  absorb view idx := absorbSingle .psiCpu view.slot (pressureChange? view idx)
  finish _ := id

def emitBoth (p : Pressure) : List Emission :=
  emitPressure 0 p.someAvg p.someTotal ++ emitPressure 2 p.fullAvg p.fullTotal

def ioPressure : GroupSpec where
  name := "psi-io"
  metrics := pressureLine 85 0 "kernel.all.pressure.io.some" ++
    pressureLine 85 2 "kernel.all.pressure.io.full"
  isPresent acts := 0 < acts.psiIo.count
  define _ := .table :: fixed Domain.pressure Domain.pressureWindows
  emit view := (view.acts, ((single? view .psiIo).map emitBoth).getD [])
  absorb view idx := absorbSingle .psiIo view.slot (pressureChange? view idx)
  finish _ := id

def memoryPressure : GroupSpec where
  name := "psi-mem"
  metrics := pressureLine 84 0 "kernel.all.pressure.memory.some" ++
    pressureLine 84 2 "kernel.all.pressure.memory.full"
  isPresent acts := 0 < acts.psiMem.count
  define _ := .table :: fixed Domain.pressure Domain.pressureWindows
  emit view := (view.acts, ((single? view .psiMem).map emitBoth).getD [])
  absorb view idx := absorbSingle .psiMem view.slot (pressureChange? view idx)
  finish _ := id

end ActivityArchive.GroupSpec
