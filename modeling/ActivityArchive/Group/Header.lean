import ActivityArchive.Group.Spec

/-!
The two headers: the host, which is written with the first record only, and the uptime of each
record.
-/
namespace ActivityArchive.GroupSpec

open Record

/-- A metric of the host, with its value and with what its reading changes. -/
structure HostColumn where
  metric : Descriptor
  value : HostHeader → Value
  assign? : Value → Option (HostHeader → HostHeader)

def hostWord (item : UInt32) (name : String) (unit : MetricUnit) (get : HostHeader → UInt32)
    (set : UInt32 → HostHeader → HostHeader) : HostColumn where
  metric := ⟨.pack 60 0 item, name, .u32, .discrete, none, unit⟩
  value h := .u32 (get h)
  assign? v := v.word32?.map set

def hostName (item : UInt32) (name : String) (get : HostHeader → String)
    (set : String → HostHeader → HostHeader) : HostColumn where
  metric := ⟨.pack 60 12 item, name, .string, .discrete, none, .none⟩
  value h := .string (get h)
  assign? v := v.string?.map set

def hostColumns : List HostColumn :=
  [ hostWord 32 "hinv.ncpu" .none (·.ncpu) (fun x h => { h with ncpu := x }),
    hostWord 48 "kernel.all.hz" .countPerSec (·.hz) (fun x h => { h with hz := x }),
    hostName 0 "kernel.uname.release" (·.release) (fun x h => { h with release := x }),
    hostName 2 "kernel.uname.sysname" (·.sysname) (fun x h => { h with sysname := x }),
    hostName 3 "kernel.uname.machine" (·.machine) (fun x h => { h with machine := x }),
    hostName 4 "kernel.uname.nodename" (·.nodename) (fun x h => { h with nodename := x }) ]

def host : GroupSpec where
  name := "file-header"
  metrics := hostColumns.map (·.metric)
  isPresent _ := true
  define _ := [.table]
  emit view := (view.acts,
    if view.isFirst then singular 0 (hostColumns.map (·.value view.acts.header)) else [])
  absorb view idx readings acts :=
    match readings.head? with
    | some (_, v) =>
      match (if view.accepts idx v then hostColumns[idx]?.bind (·.assign? v) else none) with
      | some f => { acts with header := f acts.header }
      | none => acts
    | none => acts
  finish _ := id

/-- The uptime is written in seconds and read back in hundredths. -/
def uptime : GroupSpec where
  name := "record-header"
  metrics := [⟨.pack 60 26 0, "kernel.all.uptime", .double, .instant, none, .sec⟩]
  isPresent _ := true
  define _ := [.table]
  emit view := (view.acts, match single? view .record with
    | some r => [.value 0 none (.double (r.uptimeCs.toFloat / 100))]
    | none => [])
  absorb view idx readings := absorbSingle .record view.slot (fun (_, v) =>
    (view.real? idx v).map fun x _ => { uptimeCs := Value.hundredths x }) (readings.take 1)
  finish _ := id

end ActivityArchive.GroupSpec
