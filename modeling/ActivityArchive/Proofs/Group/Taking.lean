import ActivityArchive.Proofs.Activity.Unloading
import ActivityArchive.Proofs.Activity.Unobserved
import ActivityArchive.Proofs.Group.SingleRestoring
import ActivityArchive.Proofs.Group.Skipping

/-!
Readings that a group takes without asking whether their number is registered. The number of a
sensor is the position of its record, and load averages, NFS requests and windows of pressure have
numbers that are always the same. `Group.taken` says which field of which record a value goes to,
`Group.absorb_taken` that nothing else happens, and `Activities.unload_change` what a sample shows
of it.
-/
namespace ActivityArchive

open Activities Record

/-- A change of one record, the one of a kind at a position or the only one of its kind. -/
inductive RecordChange
  | listed (k : Multi) (pos : Nat) (f : k.Rec → k.Rec)
  | only (k : Single) (f : k.Rec → k.Rec)

namespace RecordChange

def part : RecordChange → Part
  | .listed k _ _ => .multi k
  | .only k _ => .single k

def make : RecordChange → Activities → Activities
  | .listed k pos f => GroupSpec.updateMulti .curr k pos f
  | .only k f => GroupSpec.updateSingle .curr k f

/-- The change as the records of a sample show it. Where there are too few of them there are blank
ones, up to the one that is changed. -/
def inGroups : RecordChange → Groups Option List → Groups Option List
  | .listed k pos f, x =>
    let room := List.replicate (pos + 1 - (x.multi k).length) default
    x.setMulti k ((x.multi k ++ room).modify pos f)
  | .only k f, x => x.setSingle k (some (f ((x.single k).getD default)))

theorem touches_make (c : RecordChange) : Touches c.part c.make := by
  cases c with
  | listed k pos f => exact touches_updateMulti k fun a => a.update .curr pos f
  | only k f => exact touches_updateSingle k fun a => a.update .curr 0 f

/-- Nothing that no slot observes comes to light by a change. -/
theorem groupsAt_make {acts : Activities} (h : acts.Clean) (c : RecordChange) :
    (c.make acts).groupsAt .curr = c.inGroups (acts.groupsAt .curr) := by
  cases c with
  | listed k pos f =>
    have hclean : (acts.multi k).Clean := h (.multi k)
    rw [make, GroupSpec.updateMulti, groupsAt_updateMulti, hclean.records_update, inGroups,
      multi_groupsAt]
  | only k f =>
    have hclean : (acts.single k).Clean := h (.single k)
    rw [make, GroupSpec.updateSingle, groupsAt_updateSingle, hclean.records_update, inGroups,
      single_groupsAt]
    cases (acts.single k).records .curr <;> rfl

end RecordChange

/-- The records with a change made, where there is one. -/
def Activities.change (acts : Activities) (change? : Option RecordChange) : Activities :=
  change?.elim acts (·.make acts)

/-- The sample with a change shown, where there is one. -/
def Sample.change (x : Sample) (change? : Option RecordChange) : Sample :=
  { x with toGroups := change?.elim x.toGroups (·.inGroups x.toGroups) }

theorem Activities.unload_change {acts : Activities} (h : acts.Clean)
    (change? : Option RecordChange) (timestamp : Int) :
    (acts.change change?).unload .curr timestamp =
      (acts.unload .curr timestamp).map (·.change change?) := by
  have hirq : (acts.change change?).irq = acts.irq := by
    cases change? with
    | none => rfl
    | some c =>
      have hpart : (c.make acts).part .interrupts = acts.part .interrupts :=
        c.touches_make.part_ne (by cases c <;> nofun) acts
      exact hpart
  have hgroups : (acts.change change?).groupsAt .curr =
      change?.elim (acts.groupsAt .curr) (·.inGroups (acts.groupsAt .curr)) := by
    cases change? with
    | none => rfl
    | some c => exact c.groupsAt_make h
  rw [unload, unload, hirq]
  cases acts.irq.unload .curr with
  | error e => rfl
  | ok t =>
    have hsample := congrArg (Sample.mk · timestamp t) hgroups
    exact congrArg Except.ok hsample

namespace GroupSpec

section Fields

/-- The field of a fan that a value of a metric goes to. The second metric is a difference, from
which nothing is read back. -/
def fanField? : Nat → Value → Option (Fan → Fan)
  | 0, .u64 x => some fun f => { f with rpm := x }
  | 2, .string x => some fun f => { f with device := x }
  | _, _ => none

def temperatureField? : Nat → Value → Option (Temperature → Temperature)
  | 0, .float x => some fun t => { t with temp := x.toFloat }
  | 2, .string x => some fun t => { t with device := x }
  | _, _ => none

def voltageField? : Nat → Value → Option (Voltage → Voltage)
  | 0, .float x => some fun v => { v with voltage := x.toFloat }
  | 2, .string x => some fun v => { v with device := x }
  | _, _ => none

def usbField? : Nat → Value → Option (UsbDevice → UsbDevice)
  | 0, .u32 x => some fun u => { u with busNr := x }
  | 1, .string x => some fun u => { u with vendorId := hexWord x }
  | 2, .string x => some fun u => { u with productId := hexWord x }
  | 3, .u32 x => some fun u => { u with maxPower := x / 2 }
  | 4, .string x => some fun u => { u with manufacturer := x }
  | 5, .string x => some fun u => { u with product := x }
  | _, _ => none

/-- A battery also gets the number that its label tells, where there is one. -/
def batteryField? (badge : Option UInt32) : Nat → Value → Option (Battery → Battery)
  | 0, .u32 x => some fun b => rebadge badge { b with capacity := x }
  | 1, .string x => some fun b => rebadge badge { b with status := (ChargeStatus.ofName x).code }
  | _, _ => none

def loadField? : Int → Value → Option (RunQueue → RunQueue)
  | 1, .float x => some fun q => { q with loadAvg1 := loadOf x.toFloat }
  | 5, .float x => some fun q => { q with loadAvg5 := loadOf x.toFloat }
  | 15, .float x => some fun q => { q with loadAvg15 := loadOf x.toFloat }
  | _, _ => none

def clientField? : Int → Value → Option (NfsClient → NfsClient)
  | 4, .u32 x => some fun n => { n with getattcnt := x }
  | 6, .u32 x => some fun n => { n with readcnt := x }
  | 8, .u32 x => some fun n => { n with writecnt := x }
  | 18, .u32 x => some fun n => { n with accesscnt := x }
  | _, _ => none

def serverField? : Int → Value → Option (NfsServer → NfsServer)
  | 4, .u64 x => some fun n => { n with getattcnt := x }
  | 6, .u64 x => some fun n => { n with readcnt := x }
  | 8, .u64 x => some fun n => { n with writecnt := x }
  | 18, .u64 x => some fun n => { n with accesscnt := x }
  | _, _ => none

/-- Averages are kept as hundredths. -/
def windowField? : Int → Value → Option (Window → Window)
  | 10, .float x => some fun w => { w with short := Value.hundredths x.toFloat }
  | 60, .float x => some fun w => { w with middle := Value.hundredths x.toFloat }
  | 300, .float x => some fun w => { w with long := Value.hundredths x.toFloat }
  | _, _ => none

/-- The averages of the first line are the first metric, those of the second line the third. -/
def pressureField? (n : Int) : Nat → Value → Option (Pressure → Pressure)
  | 0, v => (windowField? n v).map fun f p => { p with someAvg := f p.someAvg }
  | 2, v => (windowField? n v).map fun f p => { p with fullAvg := f p.fullAvg }
  | _, _ => none

/-- The change of the record at a position, where a field is to be changed. -/
def atPosition (k : Multi) (n : Int) (field? : Option (k.Rec → k.Rec)) : Option RecordChange :=
  field?.map (.listed k n.toNat)

/-- The change of the only record of a kind, where a field is to be changed. -/
def inSingle (k : Single) (field? : Option (k.Rec → k.Rec)) : Option RecordChange :=
  field?.map (.only k)

end Fields

section Kinds

variable {view : ImportView} {idx : Nat} {k : Kind}

theorem accepts_eq (h : view.metrics[idx]?.map (·.kind) = some k) (v : Value) :
    view.accepts idx v = decide (k = v.kind) := by
  obtain ⟨m, hm, rfl⟩ := Option.map_eq_some_iff.mp h
  rw [ImportView.accepts, hm]
  rfl

theorem word32?_of_kind (h : view.metrics[idx]?.map (·.kind) = some .u32) (v : Value) :
    view.word32? idx v = match v with
      | .u32 x => some x
      | _ => none := by
  rw [ImportView.word32?, accepts_eq h]
  cases v with
  | u32 x => exact Value.word32?_u32 x
  | _ => rfl

theorem word64?_of_kind (h : view.metrics[idx]?.map (·.kind) = some .u64) (v : Value) :
    view.word64? idx v = match v with
      | .u64 x => some x
      | _ => none := by
  rw [ImportView.word64?, accepts_eq h]
  cases v <;> rfl

theorem real?_of_kind (h : view.metrics[idx]?.map (·.kind) = some .float) (v : Value) :
    view.real? idx v = match v with
      | .float x => some x.toFloat
      | _ => none := by
  rw [ImportView.real?, accepts_eq h]
  cases v <;> rfl

theorem string?_of_kind (h : view.metrics[idx]?.map (·.kind) = some .string) (v : Value) :
    view.string? idx v = match v with
      | .string x => some x
      | _ => none := by
  rw [ImportView.string?, accepts_eq h]
  cases v <;> rfl

end Kinds

section Sensors

variable {k : Multi} {g : Sensor k} {view : ImportView} {idx : Nat} {n : Int} {v : Value}
  {before after : List Reading}

/-- One reading among others, in a group that takes readings one by one. -/
theorem changeAll_append (change : Reading → Option (Activities → Activities)) (r : Reading)
    (before after : List Reading) (acts : Activities) :
    changeAll change (before ++ r :: after) acts =
      changeAll change after ((change r).getD id (changeAll change before acts)) := by
  simp only [changeAll, List.foldl_append, List.foldl_cons]

theorem sensor_taken (hslot : view.slot = .curr) (hn : 0 ≤ n) {field? : Option (k.Rec → k.Rec)}
    (hfield : g.change? view idx (some n, v) = field?) (acts : Activities) :
    g.spec.absorb view idx (before ++ (some n, v) :: after) acts =
      g.spec.absorb view idx after
        ((g.spec.absorb view idx before acts).change (atPosition k n field?)) := by
  have hposition : Sensor.position? (some n) = some n.toNat := by
    rw [Sensor.position?, Option.bind_some, if_neg (by omega)]
  simp only [g.absorb_eq, changeAll_append, Sensor.place?, hposition, hfield, Option.bind_some,
    Option.map_map, atPosition]
  rw [hslot]
  cases field? <;> rfl

theorem change?_fans (hm : view.metrics = Group.fans.metrics) (hidx : idx < 3) (v : Value) :
    fans.change? view idx (some n, v) = fanField? idx v := by
  obtain _ | _ | _ | idx := idx
  · show (view.word64? 0 v).map _ = _
    rw [word64?_of_kind (by rw [hm]; rfl)]
    cases v <;> rfl
  · cases v <;> rfl
  · show (view.string? 2 v).map _ = _
    rw [string?_of_kind (by rw [hm]; rfl)]
    cases v <;> rfl
  · omega

theorem change?_temperatures (hm : view.metrics = Group.temperatures.metrics) (hidx : idx < 3)
    (v : Value) : temperatures.change? view idx (some n, v) = temperatureField? idx v := by
  obtain _ | _ | _ | idx := idx
  · show (view.real? 0 v).map _ = _
    rw [real?_of_kind (by rw [hm]; rfl)]
    cases v <;> rfl
  · cases v <;> rfl
  · show (view.string? 2 v).map _ = _
    rw [string?_of_kind (by rw [hm]; rfl)]
    cases v <;> rfl
  · omega

theorem change?_voltages (hm : view.metrics = Group.voltages.metrics) (hidx : idx < 3) (v : Value) :
    voltages.change? view idx (some n, v) = voltageField? idx v := by
  obtain _ | _ | _ | idx := idx
  · show (view.real? 0 v).map _ = _
    rw [real?_of_kind (by rw [hm]; rfl)]
    cases v <;> rfl
  · cases v <;> rfl
  · show (view.string? 2 v).map _ = _
    rw [string?_of_kind (by rw [hm]; rfl)]
    cases v <;> rfl
  · omega

theorem change?_usbDevices (hm : view.metrics = Group.usbDevices.metrics) (hidx : idx < 6)
    (v : Value) : usbDevices.change? view idx (some n, v) = usbField? idx v := by
  have hword : idx = 0 ∨ idx = 3 → view.metrics[idx]?.map (·.kind) = some .u32 := by
    rw [hm]
    rintro (rfl | rfl) <;> rfl
  have hstring : idx = 1 ∨ idx = 2 ∨ idx = 4 ∨ idx = 5 →
      view.metrics[idx]?.map (·.kind) = some .string := by
    rw [hm]
    rintro (rfl | rfl | rfl | rfl) <;> rfl
  obtain _ | _ | _ | _ | _ | _ | idx := idx
  · show (view.word32? 0 v).map _ = _
    rw [word32?_of_kind (hword (by omega))]
    cases v <;> rfl
  · show (view.string? 1 v).map _ = _
    rw [string?_of_kind (hstring (by omega))]
    cases v <;> rfl
  · show (view.string? 2 v).map _ = _
    rw [string?_of_kind (hstring (by omega))]
    cases v <;> rfl
  · show (view.word32? 3 v).map _ = _
    rw [word32?_of_kind (hword (by omega))]
    cases v <;> rfl
  · show (view.string? 4 v).map _ = _
    rw [string?_of_kind (hstring (by omega))]
    cases v <;> rfl
  · show (view.string? 5 v).map _ = _
    rw [string?_of_kind (hstring (by omega))]
    cases v <;> rfl
  · omega

theorem change?_batteries (hm : view.metrics = Group.batteries.metrics) (hidx : idx < 2)
    (v : Value) : batteries.change? view idx (some n, v) =
      batteryField? ((view.label? idx (some n)).bind batteryId?) idx v := by
  show changeBattery? view idx (some n, v) = _
  obtain _ | _ | idx := idx
  · rw [changeBattery?, if_pos rfl, word32?_of_kind (by rw [hm]; rfl)]
    cases (view.label? 0 (some n)).bind batteryId? <;> cases v <;> rfl
  · rw [changeBattery?, if_neg (by decide), string?_of_kind (by rw [hm]; rfl)]
    cases (view.label? 1 (some n)).bind batteryId? <;> cases v <;> rfl
  · omega

end Sensors

section Fixed

variable {k : Single} {view : ImportView} {idx : Nat} {n : Int} {v : Value}
  {before after : List Reading}

theorem single_taken {change : Reading → Option (k.Rec → k.Rec)}
    {field? : Option (k.Rec → k.Rec)} (hfield : change (some n, v) = field?) (acts : Activities) :
    absorbSingle k .curr change (before ++ (some n, v) :: after) acts =
      absorbSingle k .curr change after
        ((absorbSingle k .curr change before acts).change (inSingle k field?)) := by
  simp only [absorbSingle_eq_changeAll, changeAll_append, hfield, inSingle]
  cases field? <;> rfl

theorem change?_load (hkind : view.metrics[idx]?.map (·.kind) = some .float)
    (hn : n ∈ Domain.loadPeriods.map (·.1)) (v : Value) :
    ((view.real? idx v).map fun x => setLoad (some n) (loadOf x)) = loadField? n v := by
  simp only [Domain.loadPeriods, List.map_cons, List.map_nil, List.mem_cons, List.not_mem_nil,
    or_false] at hn
  rw [real?_of_kind hkind]
  rcases hn with rfl | rfl | rfl <;> cases v <;> rfl

theorem change?_client (hkind : view.metrics[idx]?.map (·.kind) = some .u32)
    (hn : n ∈ Domain.nfsRequests.map (·.1)) (v : Value) :
    ((view.word32? idx v).map fun x => setClientRequest (some n) x) = clientField? n v := by
  simp only [Domain.nfsRequests, List.map_cons, List.map_nil, List.mem_cons, List.not_mem_nil,
    or_false] at hn
  rw [word32?_of_kind hkind]
  rcases hn with rfl | rfl | rfl | rfl <;> cases v <;> rfl

theorem change?_server (hkind : view.metrics[idx]?.map (·.kind) = some .u64)
    (hn : n ∈ Domain.nfsRequests.map (·.1)) (v : Value) :
    ((view.word64? idx v).map fun x => setServerRequest (some n) x) = serverField? n v := by
  simp only [Domain.nfsRequests, List.map_cons, List.map_nil, List.mem_cons, List.not_mem_nil,
    or_false] at hn
  rw [word64?_of_kind hkind]
  rcases hn with rfl | rfl | rfl | rfl <;> cases v <;> rfl

theorem change?_pressure (hidx : idx = 0 ∨ idx = 2)
    (hkind : view.metrics[idx]?.map (·.kind) = some .float)
    (hn : n ∈ Domain.pressureWindows.map (·.1)) (v : Value) :
    pressureChange? view idx (some n, v) = pressureField? n idx v := by
  simp only [Domain.pressureWindows, List.map_cons, List.map_nil, List.mem_cons, List.not_mem_nil,
    or_false] at hn
  rcases hidx with rfl | rfl <;>
  · simp only [pressureChange?, real?_of_kind hkind]
    rcases hn with rfl | rfl | rfl <;> cases v <;> rfl

end Fixed

end GroupSpec

namespace Group

open GroupSpec

/-- The numbers of instances that a group takes whether they are registered or not: positions, and
the numbers of instances that are always the same. -/
def takes : Group → Int → Prop
  | .runQueue, n => n ∈ Domain.loadPeriods.map (·.1)
  | .nfsClient, n | .nfsServer, n => n ∈ Domain.nfsRequests.map (·.1)
  | .cpuPressure, n | .ioPressure, n | .memoryPressure, n => n ∈ Domain.pressureWindows.map (·.1)
  | .fans, n | .temperatures, n | .voltages, n | .usbDevices, n | .batteries, n => 0 ≤ n
  | _, _ => False

/-- What becomes of the records under a number that a group takes. A sensor has the record at that
position, and a fixed instance the field of the only record; a value of another kind than that of
its metric goes nowhere. Only a battery asks for its label. -/
def taken (idx : Nat) (n : Int) (badge : Option UInt32) (v : Value) :
    Group → Option RecordChange
  | .fans => atPosition .fan n (fanField? idx v)
  | .temperatures => atPosition .temp n (temperatureField? idx v)
  | .voltages => atPosition .voltage n (voltageField? idx v)
  | .usbDevices => atPosition .usb n (usbField? idx v)
  | .batteries => atPosition .bat n (batteryField? badge idx v)
  | .runQueue => inSingle .queue (loadField? n v)
  | .nfsClient => inSingle .nfs (clientField? n v)
  | .nfsServer => inSingle .nfsd (serverField? n v)
  | .cpuPressure => inSingle .psiCpu (pressureField? n idx v)
  | .ioPressure => inSingle .psiIo (pressureField? n idx v)
  | .memoryPressure => inSingle .psiMem (pressureField? n idx v)
  | _ => none

section Taken

variable {g : Group} {idx : Nat} {m : Descriptor} {d : DomainId} {n : Int}

/-- A value that is taken changes a record of its own group. -/
theorem part_taken {badge : Option UInt32} {v : Value} {c : RecordChange}
    (hc : c ∈ g.taken idx n badge v) : c.part = g.part := by
  cases g <;> first
    | cases hc
    | obtain ⟨f, -, rfl⟩ := Option.map_eq_some_iff.mp hc
      rfl


theorem lt_of_metric (hm : g.metrics[idx]? = some m) : idx < g.metrics.length :=
  (List.getElem?_eq_some_iff.mp hm).1

/-- Only one metric of the group has instances. -/
theorem eq_of_domain {i : Nat} (hm : g.metrics[idx]? = some m) (hdomain : m.domain = some d)
    (honly : ∀ j < g.metrics.length, j ≠ i → g.metrics[j]?.bind (·.domain) = none) :
    idx = i := by
  by_contra hne
  have hnone := honly idx (lt_of_metric hm) hne
  rw [hm, Option.bind_some, hdomain] at hnone
  cases hnone

/-- The averages of pressure are floats. -/
theorem change?_average (hg : g = .cpuPressure ∨ g = .ioPressure ∨ g = .memoryPressure)
    (hm : g.metrics[idx]? = some m) (hdomain : m.domain = some d)
    (hn : n ∈ Domain.pressureWindows.map (·.1)) (registry : Registry) (v : Value) :
    pressureChange? ⟨g.metrics, registry, .curr⟩ idx (some n, v) = pressureField? n idx v := by
  have hline : idx = 0 ∨ idx = 2 := average_of_domain hg hm hdomain
  refine change?_pressure hline ?_ hn v
  rcases hg with rfl | rfl | rfl <;> rcases hline with rfl | rfl <;>
    first
      | rfl
      | cases hm

/-- A value of a number that is taken does what the table says and no more, wherever it stands among
the readings of its metric. -/
theorem absorb_taken (htakes : g.takes n) (hm : g.metrics[idx]? = some m)
    (hdomain : m.domain = some d) (registry : Registry) (before after : List Reading) (v : Value)
    (acts : Activities) :
    g.spec.absorb ⟨g.metrics, registry, .curr⟩ idx (before ++ (some n, v) :: after) acts =
      g.spec.absorb ⟨g.metrics, registry, .curr⟩ idx after
        ((g.spec.absorb ⟨g.metrics, registry, .curr⟩ idx before acts).change
          (g.taken idx n ((registry.label? d n).bind batteryId?) v)) := by
  have hidx : idx < g.metrics.length := lt_of_metric hm
  cases g with
  | fans => exact sensor_taken rfl htakes (change?_fans rfl hidx v) acts
  | temperatures => exact sensor_taken rfl htakes (change?_temperatures rfl hidx v) acts
  | voltages => exact sensor_taken rfl htakes (change?_voltages rfl hidx v) acts
  | usbDevices => exact sensor_taken rfl htakes (change?_usbDevices rfl hidx v) acts
  | batteries =>
    have hlabel : (⟨Group.batteries.metrics, registry, .curr⟩ : ImportView).label?
      idx (some n) =
        registry.label? d n := label?_of_domain hm hdomain
    rw [← hlabel]
    exact sensor_taken rfl htakes (change?_batteries rfl hidx v) acts
  | runQueue =>
    obtain rfl : idx = 3 := eq_of_domain hm hdomain (by decide)
    exact single_taken (k := .queue) (change?_load rfl htakes v) acts
  | nfsClient =>
    obtain rfl : idx = 2 := eq_of_domain hm hdomain (by decide)
    exact single_taken (k := .nfs) (change?_client rfl htakes v) acts
  | nfsServer =>
    obtain rfl : idx = 7 := eq_of_domain hm hdomain (by decide)
    exact single_taken (k := .nfsd) (change?_server rfl htakes v) acts
  | cpuPressure =>
    have hfield := change?_average (by simp) hm hdomain htakes registry v
    exact single_taken (k := .psiCpu) hfield acts
  | ioPressure =>
    have hfield := change?_average (by simp) hm hdomain htakes registry v
    exact single_taken (k := .psiIo) hfield acts
  | memoryPressure =>
    have hfield := change?_average (by simp) hm hdomain htakes registry v
    exact single_taken (k := .psiMem) hfield acts
  | _ => exact htakes.elim

/-- Only a battery asks what its label tells. -/
theorem taken_of_ne (hg : g ≠ .batteries) (badge : Option UInt32) (v : Value) :
    g.taken idx n badge v = g.taken idx n none v := by
  cases g <;> first | rfl | exact absurd rfl hg

end Taken

end Group

end ActivityArchive
