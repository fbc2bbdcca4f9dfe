import ActivityArchive.Record.Field

/-!
Records of clocks and sensors.
-/
namespace ActivityArchive.Record

/-- Clock of one CPU in hundredths of MHz. -/
structure CpuClock where
  cpufreq : UInt64 := 0

def CpuClock.counters : List (Counter CpuClock) :=
  [ .word64 "cpufreq" (·.cpufreq) (fun x r => { r with cpufreq := x }) ]

instance : Record CpuClock where
  default := {}
  fields := CpuClock.counters.map .counter

structure Fan where
  device : String := ""
  rpm : UInt64 := 0
  rpmMin : UInt64 := 0

instance : Record Fan where
  default := {}
  fields :=
    [ .text "device" (·.device) (fun x r => { r with device := x }),
      .counter (.word64 "rpm" (·.rpm) (fun x r => { r with rpm := x })),
      .counter (.word64 "rpm_min" (·.rpmMin) (fun x r => { r with rpmMin := x })) ]

/-- Degrees Celsius. -/
structure Temperature where
  device : String := ""
  temp : Float := 0
  tempMin : Float := 0
  tempMax : Float := 0

instance : Record Temperature where
  default := {}
  fields :=
    [ .text "device" (·.device) (fun x r => { r with device := x }),
      .real "temp" (·.temp) (fun x r => { r with temp := x }),
      .real "temp_min" (·.tempMin) (fun x r => { r with tempMin := x }),
      .real "temp_max" (·.tempMax) (fun x r => { r with tempMax := x }) ]

/-- Volts. -/
structure Voltage where
  device : String := ""
  voltage : Float := 0
  voltageMin : Float := 0
  voltageMax : Float := 0

instance : Record Voltage where
  default := {}
  fields :=
    [ .text "device" (·.device) (fun x r => { r with device := x }),
      .real "voltage" (·.voltage) (fun x r => { r with voltage := x }),
      .real "voltage_min" (·.voltageMin) (fun x r => { r with voltageMin := x }),
      .real "voltage_max" (·.voltageMax) (fun x r => { r with voltageMax := x }) ]

/-- Capacity in percent, and the code of the charge status. -/
structure Battery where
  batId : UInt32 := 0
  capacity : UInt32 := 0
  status : UInt32 := 0

def Battery.counters : List (Counter Battery) :=
  [ .word32 "bat_id" (·.batId) (fun x r => { r with batId := x }),
    .word32 "capacity" (·.capacity) (fun x r => { r with capacity := x }),
    .word32 "status" (·.status) (fun x r => { r with status := x }) ]

instance : Record Battery where
  default := {}
  fields := Battery.counters.map .counter

/-- Charge status of a battery. -/
inductive ChargeStatus where
  | unknown
  | charging
  | discharging
  | notCharging
  | full
  deriving DecidableEq

namespace ChargeStatus

def all : List ChargeStatus := [.unknown, .charging, .discharging, .notCharging, .full]

def code : ChargeStatus → UInt32
  | .unknown => 0
  | .charging => 1
  | .discharging => 2
  | .notCharging => 3
  | .full => 4

def name : ChargeStatus → String
  | .unknown => "Unknown"
  | .charging => "Charging"
  | .discharging => "Discharging"
  | .notCharging => "Not charging"
  | .full => "Full"

/-- A code that no status has is unknown. -/
def ofCode (code : UInt32) : ChargeStatus := (all.find? (·.code = code)).getD .unknown

/-- A name that no status has is unknown. -/
def ofName (name : String) : ChargeStatus := (all.find? (·.name = name)).getD .unknown

end ChargeStatus

/-- `maxPower` counts units of 2 mA. -/
structure UsbDevice where
  busNr : UInt32 := 0
  vendorId : UInt32 := 0
  productId : UInt32 := 0
  maxPower : UInt32 := 0
  manufacturer : String := ""
  product : String := ""

instance : Record UsbDevice where
  default := {}
  fields :=
    [ .counter (.word32 "bus_nr" (·.busNr) (fun x r => { r with busNr := x })),
      .counter (.word32 "vendor_id" (·.vendorId) (fun x r => { r with vendorId := x })),
      .counter (.word32 "product_id" (·.productId) (fun x r => { r with productId := x })),
      .counter (.word32 "bmaxpower" (·.maxPower) (fun x r => { r with maxPower := x })),
      .text "manufacturer" (·.manufacturer) (fun x r => { r with manufacturer := x }),
      .text "product" (·.product) (fun x r => { r with product := x }) ]

end ActivityArchive.Record
