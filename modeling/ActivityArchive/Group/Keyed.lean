import ActivityArchive.Group.Spec

/-!
Groups with a record for each named item: disks, interfaces, serial lines, filesystems and
fibre-channel hosts. The instance of a record is its label; a reading goes to the first record that
its label owns, or to a new one. Items that a filter does not let pass are not written.
-/
namespace ActivityArchive.GroupSpec

open Record

structure Keyed (k : Multi) where
  name : String
  domain : DomainId
  metrics : List Descriptor
  label : Config → k.Rec → String
  filter : Config → Option (List String)
  /-- The number of an instance, where it does not come from the order of registration. -/
  number : k.Rec → Option Int
  /-- The values of a record, by metric. -/
  values : k.Rec → List (Nat × Value)
  /-- Which record a label owns, and how a new one becomes its own. -/
  owner? : String → Option ((k.Rec → Bool) × (k.Rec → k.Rec))
  /-- What a number changes, for metrics that are read back. -/
  assign? : Nat → Option (UInt64 → k.Rec → k.Rec)

namespace Keyed

variable {k : Multi}

/-- The label of a record whose label passes the filter. -/
def shown? (g : Keyed k) (c : Config) (r : k.Rec) : Option String :=
  let label := g.label c r
  if passes (g.filter c) label then some label else none

def definitions (g : Keyed k) (view : DefineView) : List Definition :=
  .table :: (view.discovery.flatMap (·.multi k)).filterMap fun r =>
    (g.shown? view.config r).map fun label => .entry g.domain label (g.number r)

def emissions (g : Keyed k) (c : Config) (r : k.Rec) : List Emission :=
  match g.shown? c r with
  | some label =>
    .entry g.domain label (g.number r) :: (g.values r).map fun (idx, v) => .value idx (some label) v
  | none => []

def absorbReading (g : Keyed k) (view : ImportView) (idx : Nat)
    (assign : UInt64 → k.Rec → k.Rec) (acts : Activities) (r : Reading) : Activities :=
  match (view.label? idx r.1).bind g.owner?, view.word64? idx r.2 with
  | some (owns, claim), some x =>
    acts.updateMulti k fun a => a.updateBy view.slot owns fun r => assign x (claim r)
  | _, _ => acts

def spec (g : Keyed k) : GroupSpec where
  name := g.name
  metrics := g.metrics
  isPresent acts := 0 < (acts.multi k).count
  define := g.definitions
  emit view :=
    let a := view.acts.multi k
    (view.acts, ((a.records view.slot).take a.count).flatMap (g.emissions view.config))
  absorb view idx readings acts :=
    match g.assign? idx with
    | some assign => readings.foldl (g.absorbReading view idx assign) acts
    | none => acts
  finish _ := id

end Keyed

/-- Numbers under the indices from 0 on. -/
def numbered (values : List Value) : List (Nat × Value) := values.mapIdx fun i v => (i, v)

/-- A metric with instances. -/
def instanced (cluster item : UInt32) (name : String) (kind : Kind) (semantics : Semantics)
    (domain : DomainId) (unit : MetricUnit) : Descriptor :=
  ⟨.pack 60 cluster item, name, kind, semantics, some domain, unit⟩

/-- Milliseconds, at most those of 32 bits. -/
def milliseconds (x : UInt64) : UInt32 :=
  if x.toNat < UInt32.size then x.toUInt32 else 4294967295

def diskMetric (item : UInt32) (name : String) (kind : Kind) (unit : MetricUnit) : Descriptor :=
  instanced 0 item name kind .counter Domain.disk unit

/-- The first two metrics are never written, and sums are not read back. -/
def assignDisk? : Nat → Option (UInt64 → Disk → Disk)
  | 2 => some fun x d => { d with nrIos := x }
  | 4 => some fun x d => { d with rdSect := x * 2 }
  | 5 => some fun x d => { d with wrSect := x * 2 }
  | 6 => some fun x d => { d with dcSect := x * 2 }
  | 7 => some fun x d => { d with rdTicks := milliseconds x }
  | 8 => some fun x d => { d with wrTicks := milliseconds x }
  | 10 => some fun x d => { d with dcTicks := milliseconds x }
  | 11 => some fun x d => { d with totTicks := milliseconds x }
  | 12 => some fun x d => { d with rqTicks := milliseconds x }
  | _ => none

def disks : Keyed .disk where
  name := "disk"
  domain := Domain.disk
  metrics :=
    [ diskMetric 4 "disk.dev.read" .u64 .count,
      diskMetric 5 "disk.dev.write" .u64 .count,
      diskMetric 28 "disk.dev.total" .u64 .count,
      diskMetric 37 "disk.dev.total_bytes" .u64 .kbytes,
      diskMetric 38 "disk.dev.read_bytes" .u64 .kbytes,
      diskMetric 39 "disk.dev.write_bytes" .u64 .kbytes,
      diskMetric 90 "disk.dev.discard_bytes" .u64 .kbytes,
      diskMetric 72 "disk.dev.read_rawactive" .u32 .msec,
      diskMetric 73 "disk.dev.write_rawactive" .u32 .msec,
      diskMetric 79 "disk.dev.total_rawactive" .u32 .msec,
      diskMetric 92 "disk.dev.discard_rawactive" .u32 .msec,
      diskMetric 46 "disk.dev.avactive" .u32 .msec,
      diskMetric 47 "disk.dev.aveq" .u32 .msec ]
  label c d := c.deviceName d.major d.minor
  filter c := c.disks
  number _ := none
  values d :=
    [ (2, .u64 d.nrIos),
      (3, .u64 ((d.rdSect + d.wrSect) / 2)),
      (4, .u64 (d.rdSect / 2)),
      (5, .u64 (d.wrSect / 2)),
      (6, .u64 (d.dcSect / 2)),
      (7, .u32 d.rdTicks),
      (8, .u32 d.wrTicks),
      (9, .u32 (d.rdTicks + d.wrTicks)),
      (10, .u32 d.dcTicks),
      (11, .u32 d.totTicks),
      (12, .u32 d.rqTicks) ]
  owner? label := some ((·.name == label), fun d => { d with name := label })
  assign? := assignDisk?

def interfaceMetric (item : UInt32) (name : String) (unit : MetricUnit) : Descriptor :=
  instanced 3 item name .u64 .counter Domain.interface unit

def assignInterface? : Nat → Option (UInt64 → Interface → Interface)
  | 0 => some fun x n => { n with rxPackets := x }
  | 1 => some fun x n => { n with txPackets := x }
  | 2 => some fun x n => { n with rxBytes := x }
  | 3 => some fun x n => { n with txBytes := x }
  | 4 => some fun x n => { n with rxCompressed := x }
  | 5 => some fun x n => { n with txCompressed := x }
  | 6 => some fun x n => { n with multicast := x }
  | _ => none

def interfaces : Keyed .netDev where
  name := "net-dev"
  domain := Domain.interface
  metrics :=
    [ interfaceMetric 1 "network.interface.in.packets" .count,
      interfaceMetric 9 "network.interface.out.packets" .count,
      interfaceMetric 0 "network.interface.in.bytes" .bytes,
      interfaceMetric 8 "network.interface.out.bytes" .bytes,
      interfaceMetric 6 "network.interface.in.compressed" .count,
      interfaceMetric 15 "network.interface.out.compressed" .count,
      interfaceMetric 7 "network.interface.in.mcasts" .count ]
  label _ n := n.interface
  filter c := c.interfaces
  number _ := none
  values n := numbered ([n.rxPackets, n.txPackets, n.rxBytes, n.txBytes, n.rxCompressed,
    n.txCompressed, n.multicast].map .u64)
  owner? label := some ((·.interface == label), fun n => { n with interface := label })
  assign? := assignInterface?

def assignInterfaceErrors? : Nat → Option (UInt64 → InterfaceErrors → InterfaceErrors)
  | 0 => some fun x n => { n with rxErrors := x }
  | 1 => some fun x n => { n with txErrors := x }
  | 2 => some fun x n => { n with collisions := x }
  | 3 => some fun x n => { n with rxDropped := x }
  | 4 => some fun x n => { n with txDropped := x }
  | 5 => some fun x n => { n with txCarrierErrors := x }
  | 6 => some fun x n => { n with rxFrameErrors := x }
  | 7 => some fun x n => { n with rxFifoErrors := x }
  | 8 => some fun x n => { n with txFifoErrors := x }
  | _ => none

def interfaceErrors : Keyed .netEdev where
  name := "net-edev"
  domain := Domain.interface
  metrics :=
    [ interfaceMetric 2 "network.interface.in.errors" .count,
      interfaceMetric 10 "network.interface.out.errors" .count,
      interfaceMetric 13 "network.interface.collisions" .count,
      interfaceMetric 3 "network.interface.in.drops" .count,
      interfaceMetric 11 "network.interface.out.drops" .count,
      interfaceMetric 14 "network.interface.out.carrier" .count,
      interfaceMetric 5 "network.interface.in.frame" .count,
      interfaceMetric 4 "network.interface.in.fifo" .count,
      interfaceMetric 12 "network.interface.out.fifo" .count ]
  label _ n := n.interface
  filter c := c.interfaces
  number _ := none
  values n := numbered ([n.rxErrors, n.txErrors, n.collisions, n.rxDropped, n.txDropped,
    n.txCarrierErrors, n.rxFrameErrors, n.rxFifoErrors, n.txFifoErrors].map .u64)
  owner? label := some ((·.interface == label), fun n => { n with interface := label })
  assign? := assignInterfaceErrors?

def serialMetric (item : UInt32) (name : String) : Descriptor :=
  instanced 74 item name .u32 .counter Domain.serial .count

def serialLabel (line : UInt32) : String := "serial" ++ Text.decimal line.toNat

/-- What stands behind the given characters. -/
def behind? (start : List Char) (label : String) : Option (List Char) :=
  if start.isPrefixOf label.toList then some (label.toList.drop start.length) else none

/-- The line of a label. -/
def serialLine? (label : String) : Option UInt32 :=
  ((behind? ['s', 'e', 'r', 'i', 'a', 'l'] label).bind (Text.natural? 10 UInt32.size)).map
    Nat.toUInt32

/-- A word taken as a signed number of 32 bits. -/
def signed32 (x : UInt32) : Int := Int.bmod x.toNat UInt32.size

def assignSerial? : Nat → Option (UInt64 → SerialLine → SerialLine)
  | 0 => some fun x s => { s with rx := x.toUInt32 }
  | 1 => some fun x s => { s with tx := x.toUInt32 }
  | 2 => some fun x s => { s with frame := x.toUInt32 }
  | 3 => some fun x s => { s with parity := x.toUInt32 }
  | 4 => some fun x s => { s with brk := x.toUInt32 }
  | 5 => some fun x s => { s with overrun := x.toUInt32 }
  | _ => none

def serialLines : Keyed .serial where
  name := "serial"
  domain := Domain.serial
  metrics :=
    [ serialMetric 0 "tty.serial.rx",
      serialMetric 1 "tty.serial.tx",
      serialMetric 2 "tty.serial.frame",
      serialMetric 3 "tty.serial.parity",
      serialMetric 4 "tty.serial.brk",
      serialMetric 5 "tty.serial.overrun" ]
  label _ s := serialLabel s.line
  filter _ := none
  number s := some (signed32 s.line)
  values s := numbered ([s.rx, s.tx, s.frame, s.parity, s.brk, s.overrun].map .u32)
  owner? label :=
    (serialLine? label).map fun line => ((·.line == line), fun s => { s with line := line })
  assign? := assignSerial?

def filesystemMetric (item : UInt32) (name : String) (kind : Kind) (unit : MetricUnit) :
    Descriptor :=
  instanced 5 item name kind .instant Domain.filesystem unit

/-- Used space in percent of all space, zero where there is none. -/
def percentUsed (used total : UInt64) : Float :=
  if total = 0 then 0 else used.toFloat / total.toFloat * 100

/-- Used space, its share and used files are made of the others. -/
def assignFilesystem? : Nat → Option (UInt64 → Filesystem → Filesystem)
  | 0 => some fun x f => { f with totalBytes := x * 1024 }
  | 1 => some fun x f => { f with freeBytes := x * 1024 }
  | 4 => some fun x f => { f with files := x }
  | 5 => some fun x f => { f with freeFiles := x }
  | 7 => some fun x f => { f with availBytes := x * 1024 }
  | _ => none

def filesystems : Keyed .filesystem where
  name := "filesystem"
  domain := Domain.filesystem
  metrics :=
    [ filesystemMetric 1 "filesys.capacity" .u64 .kbytes,
      filesystemMetric 3 "filesys.free" .u64 .kbytes,
      filesystemMetric 2 "filesys.used" .u64 .kbytes,
      filesystemMetric 8 "filesys.full" .double .none,
      filesystemMetric 4 "filesys.maxfiles" .u64 .count,
      filesystemMetric 6 "filesys.freefiles" .u64 .count,
      filesystemMetric 5 "filesys.usedfiles" .u64 .count,
      filesystemMetric 10 "filesys.avail" .u64 .kbytes ]
  label _ f := f.fsName
  filter c := c.filesystems
  number _ := none
  values f :=
    let used := satSub f.totalBytes f.freeBytes
    numbered
      [ .u64 (f.totalBytes / 1024),
        .u64 (f.freeBytes / 1024),
        .u64 (used / 1024),
        .double (percentUsed used f.totalBytes),
        .u64 f.files,
        .u64 f.freeFiles,
        .u64 (satSub f.files f.freeFiles),
        .u64 (f.availBytes / 1024) ]
  owner? label := some ((·.fsName == label), fun f => { f with fsName := label })
  assign? := assignFilesystem?

def fcMetric (item : UInt32) (name : String) (unit : MetricUnit) : Descriptor :=
  instanced 91 item name .u64 .counter Domain.fcHost unit

def assignFcHost? : Nat → Option (UInt64 → FcHost → FcHost)
  | 0 => some fun x f => { f with rxFrames := x }
  | 1 => some fun x f => { f with txFrames := x }
  | 2 => some fun x f => { f with rxWords := x / 4 }
  | 3 => some fun x f => { f with txWords := x / 4 }
  | _ => none

def fcHosts : Keyed .fchost where
  name := "fchost"
  domain := Domain.fcHost
  metrics :=
    [ fcMetric 0 "fchost.in.frames" .count,
      fcMetric 1 "fchost.out.frames" .count,
      fcMetric 2 "fchost.in.bytes" .bytes,
      fcMetric 3 "fchost.out.bytes" .bytes ]
  label _ f := f.name
  filter _ := none
  number _ := none
  values f := numbered ([f.rxFrames, f.txFrames, f.rxWords * 4, f.txWords * 4].map .u64)
  owner? label := some ((·.name == label), fun f => { f with name := label })
  assign? := assignFcHost?

end ActivityArchive.GroupSpec
