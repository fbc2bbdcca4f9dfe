import ActivityArchive.Proofs.Group.SensorRestoring

/-!
What comes back of each kind of sensor: the speed and the device of a fan, the device of a
temperature and of a voltage, all of a USB device whose power is in range, and all of a battery
whose status has a name. What a temperature or a voltage is read back as does not matter for its
device.
-/
namespace ActivityArchive

open GroupSpec Record

theorem Text.natural?_hexadecimal {bound n : Nat} (h : n < bound) :
    natural? 16 bound (hexadecimal n).toList = some n := by
  rw [toList_hexadecimal]
  exact natural?_toDigits (by decide) (by decide) h

theorem hexWord_hexadecimal (x : UInt32) : hexWord (Text.hexadecimal x.toNat) = x := by
  rw [hexWord, Text.natural?_hexadecimal x.toNat_lt, Option.getD_some]
  simp

theorem doubled_div_two {x : UInt32} (h : x.toNat < 2147483648) : doubled x / 2 = x := by
  rw [doubled, if_pos (by simp only [UInt32.size]; omega)]
  apply UInt32.toNat_inj.mp
  rw [UInt32.toNat_div, UInt32.toNat_mul]
  have htwo : (2 : UInt32).toNat = 2 := rfl
  rw [htwo]
  omega

theorem code_ofName_ofCode {code : UInt32} (h : code.toNat ≤ 4) :
    (ChargeStatus.ofName (ChargeStatus.ofCode code).name).code = code := by
  have hcodes : ∀ n : Fin 5,
    (ChargeStatus.ofName (ChargeStatus.ofCode (UInt32.ofNat n)).name).code =
      UInt32.ofNat n := by decide
  have hcode := hcodes ⟨code.toNat, by omega⟩
  simpa using hcode

theorem batteryId?_batteryLabel (id : UInt32) : batteryId? (batteryLabel id) = some id := by
  have hlabel : (batteryLabel id).toList = 'B' :: 'A' :: 'T' :: (Text.decimal id.toNat).toList := by
    rw [batteryLabel, String.toList_append]
    rfl
  rw [batteryId?, hlabel]
  simp [Text.natural?_decimal id.toNat_lt]

theorem string?_string {view : ImportView} {idx : Nat}
    (h : view.metrics[idx]?.map (·.kind) = some .string) (s : String) :
    view.string? idx (.string s) = some s := if_pos (accepts_of_kind h)

namespace GroupSpec.Sensor

variable {k : Multi} {T : Type} {g : Sensor k} {i : Nat} {r : k.Rec} {field : k.Rec → T} {x : T}
  {changes : k.Rec → List (Option (k.Rec → k.Rec))}

/-- What each value of a record changes in the record that it is read into, where all values read
back as they are. -/
structure Writes (g : Sensor k) (changes : k.Rec → List (Option (k.Rec → k.Rec))) : Prop where
  exact : ∀ r, ∀ v ∈ g.values r, v.Exact
  change : ∀ registry (i : Nat) r idx v, (g.values r)[idx]? = some v →
    (⟨g.metrics, registry, .curr⟩ : ImportView).label? idx (some (i : Int)) =
    some (g.label i r) →
    g.change? ⟨g.metrics, registry, .curr⟩ idx (some (i : Int), v) = ((changes r)[idx]?).join

theorem Writes.sets (h : g.Writes changes) (idx : Nat) {v : Value}
    (hv : (g.values r)[idx]? = some v)
    {change : k.Rec → k.Rec} (hchange : (changes r)[idx]? = some (some change))
    (hset : ∀ z, field (change z) = x) : g.Sets field i r x := by
  refine ⟨idx, v, hv, h.exact r v (List.mem_of_getElem? hv),
    fun registry hlabel => ⟨change, ?_, hset⟩⟩
  rw [h.change registry i r idx v hv hlabel, hchange]
  rfl

theorem Writes.restores (h : g.Writes changes)
    (hkeeps : ∀ change, some change ∈ changes r → ∀ z, field z = x → field (change z) = x)
    (hsets : g.Sets field i r x ∨ field default = x) : g.Restores field i r x := by
  refine ⟨fun idx change hchanges => hkeeps change ?_, hsets⟩
  obtain ⟨registry, v, back, hv, hexact, hlabel, hchange⟩ := hchanges
  obtain rfl := hexact (h.exact r v (List.mem_of_getElem? hv))
  rw [h.change registry i r idx _ hv hlabel, Option.join_eq_some_iff] at hchange
  exact List.mem_of_getElem? hchange

/-- A value that sets a field builds the record. -/
theorem builds_of_sets (h : g.Sets field i r x) : g.Sets (fun _ => ()) i r () := by
  obtain ⟨idx, v, hv, hexact, hsets⟩ := h
  refine ⟨idx, v, hv, hexact, fun registry hlabel => ?_⟩
  obtain ⟨change, hchange, -⟩ := hsets registry hlabel
  exact ⟨change, hchange, fun _ => rfl⟩

/-- A text that the readings of one metric set, and those of the others leave. -/
structure Texts (g : Sensor k) (idx : Nat) (text : k.Rec → String)
    (set : String → k.Rec → k.Rec) :
    Prop where
  value : ∀ r, (g.values r)[idx]? = some (.string (text r))
  kind : g.metrics[idx]?.map (·.kind) = some .string
  change : ∀ view n v, g.change? view idx (n, v) = (view.string? idx v).map set
  set : ∀ s z, text (set s z) = s
  other : ∀ view idx' n v change, idx' ≠ idx → g.change? view idx' (n, v) = some change →
    ∀ z, text (change z) = text z

section Texts

variable {idx : Nat} {text : k.Rec → String} {set : String → k.Rec → k.Rec}

theorem Texts.sets (h : g.Texts idx text set) (i : Nat) (r : k.Rec) : g.Sets text i r (text r) := by
  refine ⟨idx, _, h.value r, Or.inr (Or.inr rfl),
    fun registry _ => ⟨set (text r), ?_, h.set _⟩⟩
  rw [h.change, string?_string h.kind]
  rfl

theorem Texts.restores (h : g.Texts idx text set) (i : Nat) (r : k.Rec) :
    g.Restores text i r (text r) := by
  refine ⟨fun idx' change hchanges z hz => ?_, Or.inl (h.sets i r)⟩
  obtain ⟨registry, v, back, hv, hexact, -, hc⟩ := hchanges
  by_cases hidx : idx' = idx
  · subst hidx
    obtain rfl : .string (text r) = v := Option.some.inj ((h.value r).symm.trans hv)
    obtain rfl := hexact (Or.inr (Or.inr rfl))
    rw [h.change, string?_string h.kind] at hc
    cases hc
    exact h.set _ z
  · exact (h.other _ _ _ _ change hidx hc z).trans hz

end Texts

end GroupSpec.Sensor

def fanChanges (f : Fan) : List (Option (Fan → Fan)) :=
  [some fun z => { z with rpm := f.rpm }, none, some fun z => { z with device := f.device }]

theorem writes_fans : fans.Writes fanChanges where
  exact f v hv := by
    simp only [fans, List.mem_cons, List.not_mem_nil, or_false] at hv
    rcases hv with rfl | rfl | rfl <;> simp [Value.Exact, Value.kind]
  change registry i f idx v hv _ := by
    let view : ImportView := ⟨fans.metrics, registry, .curr⟩
    obtain _ | _ | _ | idx := idx
    · cases hv
      have hrpm : view.word64? 0 (.u64 f.rpm) = some f.rpm := word64?_u64 rfl f.rpm
      exact congrArg (Option.map fun x (z : Fan) => { z with rpm := x }) hrpm
    · rfl
    · cases hv
      have hdevice : view.string? 2 (.string f.device) = some f.device :=
        string?_string rfl f.device
      exact congrArg (Option.map fun x (z : Fan) => { z with device := x }) hdevice
    · cases hv

theorem lawful_fans : fans.Lawful where
  domain := by decide
  kinds _ := rfl
  builds i f := writes_fans.sets 0 rfl rfl fun _ => rfl

/-- A fan comes back without its least rotation. -/
theorem restored_fan {i : Nat} {f z : Fan} (h : fans.Restored i f z) :
    z = { f with rpmMin := 0 } := by
  have hrpm : z.rpm = f.rpm := h _ (·.rpm) _ (writes_fans.restores (by simp [fanChanges])
    (Or.inl (writes_fans.sets 0 rfl rfl fun _ => rfl)))
  have hdevice : z.device = f.device :=
    h _ (·.device) _ (writes_fans.restores (by simp [fanChanges])
    (Or.inl (writes_fans.sets 2 rfl rfl fun _ => rfl)))
  have hleast : z.rpmMin = 0 := h _ (·.rpmMin) _ (writes_fans.restores (by simp [fanChanges])
    (Or.inr rfl))
  obtain ⟨device, rpm, rpmMin⟩ := z
  subst hrpm hdevice hleast
  rfl

theorem texts_temperatures :
    temperatures.Texts 2 (·.device) (fun s z => { z with device := s }) where
  value _ := rfl
  kind := rfl
  change _ _ _ := rfl
  set _ _ := rfl
  other view idx n v change hidx hc z := by
    obtain _ | _ | _ | idx := idx
    · obtain ⟨x, -, rfl⟩ := Option.map_eq_some_iff.mp hc
      rfl
    · cases hc
    · exact absurd rfl hidx
    · cases hc

theorem lawful_temperatures : temperatures.Lawful where
  domain := by decide
  kinds _ := rfl
  builds i t := Sensor.builds_of_sets (texts_temperatures.sets i t)

theorem texts_voltages : voltages.Texts 2 (·.device) (fun s z => { z with device := s }) where
  value _ := rfl
  kind := rfl
  change _ _ _ := rfl
  set _ _ := rfl
  other view idx n v change hidx hc z := by
    obtain _ | _ | _ | idx := idx
    · obtain ⟨x, -, rfl⟩ := Option.map_eq_some_iff.mp hc
      rfl
    · cases hc
    · exact absurd rfl hidx
    · cases hc

theorem lawful_voltages : voltages.Lawful where
  domain := by decide
  kinds _ := rfl
  builds i v := Sensor.builds_of_sets (texts_voltages.sets i v)

def usbChanges (u : UsbDevice) : List (Option (UsbDevice → UsbDevice)) :=
  [ some fun z => { z with busNr := u.busNr },
    some fun z => { z with vendorId := u.vendorId },
    some fun z => { z with productId := u.productId },
    some fun z => { z with maxPower := doubled u.maxPower / 2 },
    some fun z => { z with manufacturer := u.manufacturer },
    some fun z => { z with product := u.product } ]

theorem writes_usbDevices : usbDevices.Writes usbChanges where
  exact u v hv := by
    simp only [usbDevices, List.mem_cons, List.not_mem_nil, or_false] at hv
    rcases hv with rfl | rfl | rfl | rfl | rfl | rfl <;> simp [Value.Exact, Value.kind]
  change registry i u idx v hv _ := by
    let view : ImportView := ⟨usbDevices.metrics, registry, .curr⟩
    obtain _ | _ | _ | _ | _ | _ | idx := idx
    · cases hv
      have hbus : view.word32? 0 (.u32 u.busNr) = some u.busNr := word32?_u32 rfl u.busNr
      exact congrArg (Option.map fun x (z : UsbDevice) => { z with busNr := x }) hbus
    · cases hv
      have hvendor : (view.string? 1 (.string (Text.hexadecimal u.vendorId.toNat))).map hexWord =
          some u.vendorId := by
        rw [string?_string rfl, Option.map_some, hexWord_hexadecimal]
      have hset := congrArg (Option.map fun x (z : UsbDevice) => { z with vendorId := x }) hvendor
      rw [Option.map_map] at hset
      exact hset
    · cases hv
      have hproduct : (view.string? 2 (.string (Text.hexadecimal u.productId.toNat))).map hexWord =
          some u.productId := by
        rw [string?_string rfl, Option.map_some, hexWord_hexadecimal]
      have hset := congrArg (Option.map fun x (z : UsbDevice) => { z with productId := x }) hproduct
      rw [Option.map_map] at hset
      exact hset
    · cases hv
      have hpower : view.word32? 3 (.u32 (doubled u.maxPower)) = some (doubled u.maxPower) :=
        word32?_u32 rfl _
      exact congrArg (Option.map fun x (z : UsbDevice) => { z with maxPower := x / 2 }) hpower
    · cases hv
      have hmaker : view.string? 4 (.string u.manufacturer) = some u.manufacturer :=
        string?_string rfl _
      exact congrArg (Option.map fun x (z : UsbDevice) => { z with manufacturer := x }) hmaker
    · cases hv
      have hname : view.string? 5 (.string u.product) = some u.product := string?_string rfl _
      exact congrArg (Option.map fun x (z : UsbDevice) => { z with product := x }) hname
    · cases hv

theorem lawful_usbDevices : usbDevices.Lawful where
  domain := by decide
  kinds _ := rfl
  builds i u := writes_usbDevices.sets 0 rfl rfl fun _ => rfl

theorem restored_usb {i : Nat} {u z : UsbDevice} (hpower : u.maxPower.toNat < 2147483648)
    (h : usbDevices.Restored i u z) : z = u := by
  have hbus : z.busNr = u.busNr := h _ (·.busNr) _ (writes_usbDevices.restores
    (by simp [usbChanges]) (Or.inl (writes_usbDevices.sets 0 rfl rfl fun _ => rfl)))
  have hvendor : z.vendorId = u.vendorId := h _ (·.vendorId) _ (writes_usbDevices.restores
    (by simp [usbChanges]) (Or.inl (writes_usbDevices.sets 1 rfl rfl fun _ => rfl)))
  have hproduct : z.productId = u.productId := h _ (·.productId) _ (writes_usbDevices.restores
    (by simp [usbChanges]) (Or.inl (writes_usbDevices.sets 2 rfl rfl fun _ => rfl)))
  have hmost : z.maxPower = u.maxPower := h _ (·.maxPower) _ (writes_usbDevices.restores
    (by simp [usbChanges, doubled_div_two hpower])
    (Or.inl (writes_usbDevices.sets 3 rfl rfl fun _ => doubled_div_two hpower)))
  have hmaker : z.manufacturer = u.manufacturer := h _ (·.manufacturer) _
    (writes_usbDevices.restores (by simp [usbChanges])
      (Or.inl (writes_usbDevices.sets 4 rfl rfl fun _ => rfl)))
  have hname : z.product = u.product := h _ (·.product) _ (writes_usbDevices.restores
    (by simp [usbChanges]) (Or.inl (writes_usbDevices.sets 5 rfl rfl fun _ => rfl)))
  cases z
  cases u
  simp only [UsbDevice.mk.injEq]
  exact ⟨hbus, hvendor, hproduct, hmost, hmaker, hname⟩

def batteryChanges (b : Battery) : List (Option (Battery → Battery)) :=
  [ some fun z => { z with capacity := b.capacity, batId := b.batId },
    some fun z => { z with
      status := (ChargeStatus.ofName (ChargeStatus.ofCode b.status).name).code, batId := b.batId } ]

theorem writes_batteries : batteries.Writes batteryChanges where
  exact b v hv := by
    simp only [batteries, List.mem_cons, List.not_mem_nil, or_false] at hv
    rcases hv with rfl | rfl <;> simp [Value.Exact, Value.kind]
  change registry i b idx v hv hlabel := by
    let view : ImportView := ⟨batteries.metrics, registry, .curr⟩
    have hid : (view.label? idx (some (i : Int))).bind batteryId? = some b.batId := by
      rw [hlabel]
      exact batteryId?_batteryLabel b.batId
    obtain _ | _ | idx := idx
    · cases hv
      have hcapacity : view.word32? 0 (.u32 b.capacity) = some b.capacity := word32?_u32 rfl _
      show changeBattery? view 0 (some (i : Int), .u32 b.capacity) = _
      simp only [changeBattery?, hid, hcapacity]
      rfl
    · cases hv
      have hstatus : view.string? 1 (.string (ChargeStatus.ofCode b.status).name) =
          some (ChargeStatus.ofCode b.status).name := string?_string rfl _
      show changeBattery? view 1 (some (i : Int), .string (ChargeStatus.ofCode b.status).name) = _
      simp only [changeBattery?, hid, hstatus]
      rfl
    · cases hv

theorem lawful_batteries : batteries.Lawful where
  domain := by decide
  kinds _ := rfl
  builds i b := writes_batteries.sets 0 rfl rfl fun _ => rfl

theorem batId_restored {i : Nat} {b z : Battery} (h : batteries.Restored i b z) :
    z.batId = b.batId :=
  h _ (·.batId) _ (writes_batteries.restores (by simp [batteryChanges])
    (Or.inl (writes_batteries.sets 0 rfl rfl fun _ => rfl)))

theorem restored_battery {i : Nat} {b z : Battery} (hstatus : b.status.toNat ≤ 4)
    (h : batteries.Restored i b z) : z = b := by
  have hid := batId_restored h
  have hcapacity : z.capacity = b.capacity := h _ (·.capacity) _ (writes_batteries.restores
    (by simp [batteryChanges]) (Or.inl (writes_batteries.sets 0 rfl rfl fun _ => rfl)))
  have hcode := code_ofName_ofCode hstatus
  have hstatus : z.status = b.status := h _ (·.status) _ (writes_batteries.restores
    (by simp [batteryChanges, hcode])
    (Or.inl (writes_batteries.sets 1 rfl rfl fun _ => hcode)))
  cases z
  cases b
  simp only [Battery.mk.injEq]
  exact ⟨hid, hcapacity, hstatus⟩

end ActivityArchive
