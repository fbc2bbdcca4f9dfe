import ActivityArchive.Group.Spec
import ActivityArchive.Text.Digits

/-!
Groups whose instances are numbered by their position in the sample: fans, temperatures, voltages,
USB devices and batteries. A reading goes to the record at the position that its number gives,
whether that number is registered or not.
-/
namespace ActivityArchive.GroupSpec

open Record

structure Sensor (k : Multi) where
  name : String
  domain : DomainId
  metrics : List Descriptor
  /-- The label of the record at a position. -/
  label : Nat → k.Rec → String
  values : k.Rec → List Value
  /-- What a reading of a metric changes. -/
  change? : ImportView → Nat → Reading → Option (k.Rec → k.Rec)

namespace Sensor

variable {k : Multi}

def definitions (g : Sensor k) (view : DefineView) : List Definition :=
  .table :: view.discovery.flatMap fun sample =>
    (sample.multi k).mapIdx fun i r => .entry g.domain (g.label i r) (some (i : Int))

def emissions (g : Sensor k) (i : Nat) (r : k.Rec) : List Emission :=
  .entry g.domain (g.label i r) (some (i : Int)) :: ofInstance 0 (g.label i r) (g.values r)

/-- The position that a number gives. -/
def position? (number : Option Int) : Option Nat :=
  number.bind fun n => if n < 0 then none else some n.toNat

def absorbReading (g : Sensor k) (view : ImportView) (idx : Nat) (acts : Activities)
    (r : Reading) : Activities :=
  match position? r.1, g.change? view idx r with
  | some i, some f => updateMulti view.slot k i f acts
  | _, _ => acts

def spec (g : Sensor k) : GroupSpec where
  name := g.name
  metrics := g.metrics
  isPresent acts := 0 < (acts.multi k).count
  define := g.definitions
  emit view :=
    let a := view.acts.multi k
    (view.acts, (((a.records view.slot).take a.count).mapIdx g.emissions).flatten)
  absorb view idx readings acts := readings.foldl (g.absorbReading view idx) acts
  finish _ := id

end Sensor

def sensorMetric (cluster item : UInt32) (name : String) (kind : Kind) (semantics : Semantics)
    (domain : DomainId) : Descriptor :=
  ⟨.pack 34 cluster item, name, kind, semantics, some domain, .none⟩

/-- The least rotation is not written, so the difference to it is not read back. -/
def fans : Sensor .fan where
  name := "fan"
  domain := Domain.fan
  metrics :=
    [ sensorMetric 0 0 "power.fan.rpm" .u64 .instant Domain.fan,
      sensorMetric 0 1 "power.fan.drpm" .u64 .instant Domain.fan,
      sensorMetric 0 2 "power.fan.device" .string .discrete Domain.fan ]
  label i _ := "fan" ++ Text.decimal (i + 1)
  values f := [.u64 f.rpm, .u64 (satSub f.rpm f.rpmMin), .string f.device]
  change? view idx r :=
    match idx with
    | 0 => (view.word64? idx r.2).map fun x f => { f with rpm := x }
    | 2 => (view.string? idx r.2).map fun x f => { f with device := x }
    | _ => none

/-- Where a value lies in its range, in percent; zero for an empty range. -/
def percentOfRange (value min max : Float) : Float32 :=
  if max == min then 0 else ((value - min) / (max - min) * 100).toFloat32

def temperatures : Sensor .temp where
  name := "temp"
  domain := Domain.temperature
  metrics :=
    [ sensorMetric 1 0 "power.temp.celsius" .float .instant Domain.temperature,
      sensorMetric 1 1 "power.temp.percent" .float .instant Domain.temperature,
      sensorMetric 1 2 "power.temp.device" .string .discrete Domain.temperature ]
  label i _ := "temp" ++ Text.decimal (i + 1)
  values t :=
    [.float t.temp.toFloat32, .float (percentOfRange t.temp t.tempMin t.tempMax), .string t.device]
  change? view idx r :=
    match idx with
    | 0 => (view.real? idx r.2).map fun x t => { t with temp := x }
    | 2 => (view.string? idx r.2).map fun x t => { t with device := x }
    | _ => none

def voltages : Sensor .voltage where
  name := "in"
  domain := Domain.voltage
  metrics :=
    [ sensorMetric 2 0 "power.in.voltage" .float .instant Domain.voltage,
      sensorMetric 2 1 "power.in.percent" .float .instant Domain.voltage,
      sensorMetric 2 2 "power.in.device" .string .discrete Domain.voltage ]
  label i _ := "in" ++ Text.decimal i
  values v :=
    [ .float v.voltage.toFloat32,
      .float (percentOfRange v.voltage v.voltageMin v.voltageMax),
      .string v.device ]
  change? view idx r :=
    match idx with
    | 0 => (view.real? idx r.2).map fun x v => { v with voltage := x }
    | 2 => (view.string? idx r.2).map fun x v => { v with device := x }
    | _ => none

/-- Twice a number of 32 bits, at most the largest one. -/
def doubled (x : UInt32) : UInt32 := if x.toNat * 2 < UInt32.size then x * 2 else 4294967295

/-- The word of a hexadecimal text, zero for any other text. -/
def hexWord (s : String) : UInt32 := ((Text.natural? 16 UInt32.size s.toList).getD 0).toUInt32

def usbDevices : Sensor .usb where
  name := "usb"
  domain := Domain.usb
  metrics :=
    [ sensorMetric 3 0 "power.usb.bus" .u32 .discrete Domain.usb,
      sensorMetric 3 1 "power.usb.vendorId" .string .discrete Domain.usb,
      sensorMetric 3 2 "power.usb.productId" .string .discrete Domain.usb,
      sensorMetric 3 3 "power.usb.maxpower" .u32 .discrete Domain.usb,
      sensorMetric 3 4 "power.usb.manufacturer" .string .discrete Domain.usb,
      sensorMetric 3 5 "power.usb.productName" .string .discrete Domain.usb ]
  label i _ := "usb" ++ Text.decimal i
  values u :=
    [ .u32 u.busNr,
      .string (Text.hexadecimal u.vendorId.toNat),
      .string (Text.hexadecimal u.productId.toNat),
      .u32 (doubled u.maxPower),
      .string u.manufacturer,
      .string u.product ]
  change? view idx r :=
    match idx with
    | 0 => (view.word32? idx r.2).map fun x u => { u with busNr := x }
    | 1 => (view.string? idx r.2).map fun x u => { u with vendorId := hexWord x }
    | 2 => (view.string? idx r.2).map fun x u => { u with productId := hexWord x }
    | 3 => (view.word32? idx r.2).map fun x u => { u with maxPower := x / 2 }
    | 4 => (view.string? idx r.2).map fun x u => { u with manufacturer := x }
    | 5 => (view.string? idx r.2).map fun x u => { u with product := x }
    | _ => none

/-- The number of a battery in its label. -/
def batteryId? (label : String) : Option UInt32 :=
  match label.toList with
  | 'B' :: 'A' :: 'T' :: id => (Text.natural? 10 UInt32.size id).map Nat.toUInt32
  | _ => none

/-- A reading also tells the number of the battery, if its instance has a label of that form. -/
def changeBattery? (view : ImportView) (idx : Nat) (r : Reading) :
    Option (Battery → Battery) := do
  let change : Battery → Battery ←
    if idx = 0 then
      (view.word32? idx r.2).map fun x (b : Battery) => { b with capacity := x }
    else
      (view.string? idx r.2).map fun x (b : Battery) =>
        { b with status := (ChargeStatus.ofName x).code }
  match (view.label? idx r.1).bind batteryId? with
  | some id => return fun b => { change b with batId := id }
  | none => return change

/-- Labels name the battery, not its position. -/
def batteries : Sensor .bat where
  name := "bat"
  domain := Domain.battery
  metrics :=
    [ sensorMetric 4 0 "power.bat.capacity" .u32 .instant Domain.battery,
      sensorMetric 4 1 "power.bat.status" .string .instant Domain.battery ]
  label _ b := "BAT" ++ Text.decimal b.batId.toNat
  values b := [.u32 b.capacity, .string (ChargeStatus.ofCode b.status).name]
  change? := changeBattery?

end ActivityArchive.GroupSpec
