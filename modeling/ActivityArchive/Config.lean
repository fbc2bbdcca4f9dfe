import ActivityArchive.Json.Shape
import ActivityArchive.Selection.Bitmap
import ActivityArchive.Text.Digits

/-!
What a session selects: CPUs, groups, memory families and items. All of it is optional; what is not
set selects everything, except that of the memory families only RAM is on.
-/
namespace ActivityArchive

open Json

/-- The display name of a block device. -/
structure DeviceName where
  major : UInt32
  minor : UInt32
  name : String
  deriving DecidableEq

namespace DeviceName

/-- The name of a device without an entry. -/
def fallback (major minor : UInt32) : String :=
  "dev" ++ Text.decimal major.toNat ++ "-" ++ Text.decimal minor.toNat

/-- The last entry of a device counts. -/
def lookup (table : List DeviceName) (major minor : UInt32) : String :=
  match table.reverse.find? fun e => e.major = major ∧ e.minor = minor with
  | some e => e.name
  | none => fallback major minor

def shape : Shape DeviceName where
  blank := ⟨0, 0, ""⟩
  members :=
    [ .plain "major" .never .word32 (·.major) (fun x e => { e with major := x }),
      .plain "minor" .never .word32 (·.minor) (fun x e => { e with minor := x }),
      .plain "name" .never .text (·.name) (fun x e => { e with name := x }) ]

end DeviceName

/-- Which families of memory metrics are shown. -/
structure MemoryFamilies where
  ram : Bool := true
  all : Bool := false
  swap : Bool := false
  deriving DecidableEq

def MemoryFamilies.shape : Shape MemoryFamilies where
  blank := {}
  members :=
    [ .plain "ram" .anywhere .bool (·.ram) (fun x f => { f with ram := x }),
      .plain "all" .anywhere .bool (·.all) (fun x f => { f with all := x }),
      .plain "swap" .anywhere .bool (·.swap) (fun x f => { f with swap := x }) ]

structure Config where
  /-- Selected CPUs, counted from zero. -/
  cpus : Option (List Nat) := none
  /-- Whether the aggregate of all CPUs is selected. -/
  includeAll : Bool := true
  groups : Option (List String) := none
  memory : MemoryFamilies := {}
  disks : Option (List String) := none
  interfaces : Option (List String) := none
  filesystems : Option (List String) := none
  deviceNames : List DeviceName := []
  deriving DecidableEq

/-- Whether a name passes an optional filter. -/
def passes (filter : Option (List String)) (name : String) : Bool :=
  match filter with
  | some names => names.contains name
  | none => true

namespace Config

def enables (c : Config) (group : String) : Bool := passes c.groups group

/-- The selected instances among `count`, the aggregate being one of them. A selected CPU past the
count makes the bitmap larger. -/
def cpuSelection (c : Config) (count : Nat) : Bitmap :=
  let b := Bitmap.new count
  let b := if c.includeAll then b.set 0 else b
  match c.cpus with
  | none => b.setAll (List.range' 1 (count - 1))
  | some cpus => b.setAll (cpus.map (· + 1))

def deviceName (c : Config) (major minor : UInt32) : String :=
  DeviceName.lookup c.deviceNames major minor

def shape : Shape Config where
  blank := {}
  members :=
    [ .plain "cpus" .anywhere (.option (.list .count)) (·.cpus) (fun x c => { c with cpus := x }),
      .plain "include_all" .anywhere .bool (·.includeAll) (fun x c => { c with includeAll := x }),
      .plain "groups" .anywhere (.option (.list .text)) (·.groups)
        (fun x c => { c with groups := x }),
      .plain "memory" .anywhere MemoryFamilies.shape.codec (·.memory)
        (fun x c => { c with memory := x }),
      .plain "disks" .anywhere (.option (.list .text)) (·.disks)
        (fun x c => { c with disks := x }),
      .plain "interfaces" .anywhere (.option (.list .text)) (·.interfaces)
        (fun x c => { c with interfaces := x }),
      .plain "filesystems" .anywhere (.option (.list .text)) (·.filesystems)
        (fun x c => { c with filesystems := x }),
      .plain "device_names" .anywhere (.list DeviceName.shape.codec) (·.deviceNames)
        (fun x c => { c with deviceNames := x }) ]

end Config

end ActivityArchive
