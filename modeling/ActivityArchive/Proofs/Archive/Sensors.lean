import ActivityArchive.Proofs.Archive.Items
import ActivityArchive.Proofs.Group.SensorFields

/-!
What comes back of sensors. With all groups enabled, every sample comes back with as many fans,
temperatures, voltages, USB devices and batteries as it had, each in its place, whatever the other
samples have (`import_export_sensors`). Fans come back without their least rotation, temperatures
and voltages with their devices, the others as they were.
-/
namespace ActivityArchive.Archive

open Activities GroupSpec Record Session

variable {config : Config} {header : HostHeader} {discovery : List Sample} {store : Store}
  {s : Session} {x y : Sample} {r : StoredRecord} {acts : Activities} {k : Multi} {g : Sensor k}
  {G : Group}

theorem emissions_sensor (hspec : G.spec = g.spec) (hx : x ∈ discovery)
    (h : Written (defineView config header discovery) store s x r) :
    (s.loaded x).emissions G = ((x.multi k).mapIdx g.emissions).flatten := by
  have hemit : (s.loaded x).emissions G = (((((s.loaded x).acts.multi k).records s.slot).take
      ((s.loaded x).acts.multi k).count).mapIdx g.emissions).flatten := by
    rw [emissions, hspec]
    rfl
  rw [hemit, take_records_loaded hx h]

/-- The sensors of a sample come back if their group wrote to its record. -/
theorem Returned.sensors_back (h : Returned (defineView config header discovery) store s x r acts y)
    (law : g.Lawful) (hspec : G.spec = g.spec) (hpart : G.part = .multi k) (hx : x ∈ discovery) :
    (G ∈ s.defined → g.RestoredAll (x.multi k) (y.multi k)) ∧
    (G ∉ s.defined → y.multi k = []) :=
  h.written.transcript.sensors_back law hspec hpart (emissions_sensor hspec hx h.written)
    (h.blank.multi k) (h.multi k)

theorem Returned.restoredAll (h : Returned (defineView config header discovery) store s x r acts y)
    (law : g.Lawful) (hspec : G.spec = g.spec) (hpart : G.part = .multi k)
    (hgroups : config.groups = none) (hx : x ∈ discovery) :
    g.RestoredAll (x.multi k) (y.multi k) := by
  obtain ⟨hwritten, hunwritten⟩ := h.sensors_back law hspec hpart hx
  by_cases hg : G ∈ s.defined
  · exact hwritten hg
  · -- A group that is enabled is left out only where there is nothing to write.
    have henabled : config.enables G.name = true := by
      show passes config.groups G.name = true
      rw [hgroups]
      rfl
    have hnone : x.multi k = [] := by
      refine by_contra fun hne => hg ?_
      exact (mem_defined_iff (Sensor.isPresent_eq hspec) hpart hx h.written.defined hne).mpr
        henabled
    rw [hnone, hunwritten hg]
    exact ⟨rfl, fun i r z hr => by cases hr⟩

/-- Sensors that lose nothing: the power of USB devices can be doubled, and the statuses of
batteries have names. -/
structure SensorsFit (x : Sample) : Prop where
  usb : ∀ u ∈ x.usb, u.maxPower.toNat < 2147483648
  bat : ∀ b ∈ x.bat, b.status.toNat ≤ 4

/-- The sensors of a sample, each in its place. -/
structure SameSensors (x y : Sample) : Prop where
  fan : y.fan = x.fan.map fun f => { f with rpmMin := 0 }
  temp : y.temp.map (·.device) = x.temp.map (·.device)
  voltage : y.voltage.map (·.device) = x.voltage.map (·.device)
  usb : y.usb = x.usb
  bat : y.bat = x.bat

theorem sameSensors_returned (hgroups : config.groups = none) (hx : x ∈ discovery)
    (hfits : SensorsFit x) (h : Returned (defineView config header discovery) store s x r acts y) :
    SameSensors x y where
  fan := by
    have hback := h.restoredAll (G := .fans) lawful_fans rfl rfl hgroups hx
    exact (List.map_id _).symm.trans (hback.map_eq fun _ _ _ _ hz => restored_fan hz)
  temp := by
    have hback := h.restoredAll (G := .temperatures) lawful_temperatures rfl rfl hgroups hx
    exact hback.map_eq fun i t _ _ hz => hz _ _ _ (texts_temperatures.restores i t)
  voltage := by
    have hback := h.restoredAll (G := .voltages) lawful_voltages rfl rfl hgroups hx
    exact hback.map_eq fun i v _ _ hz => hz _ _ _ (texts_voltages.restores i v)
  usb := by
    have hback := h.restoredAll (G := .usbDevices) lawful_usbDevices rfl rfl hgroups hx
    have hmap : y.usb.map id = x.usb.map id :=
      hback.map_eq fun _ u _ hu hz => restored_usb (hfits.usb u hu) hz
    rwa [List.map_id, List.map_id] at hmap
  bat := by
    have hback := h.restoredAll (G := .batteries) lawful_batteries rfl rfl hgroups hx
    have hmap : y.bat.map id = x.bat.map id :=
      hback.map_eq fun _ b _ hb hz => restored_battery (hfits.bat b hb) hz
    rwa [List.map_id, List.map_id] at hmap

/-- With all groups enabled, an archive that was exported comes back with the sensors of every
sample. -/
theorem import_export_sensors (a : Archive) (config : Config) (store : Store)
    (hgroups : config.groups = none) (hfits : ∀ x ∈ a.samples, SensorsFit x)
    (hexport : a.toStore config = .ok store) :
    ∃ b, ofStore store = .ok b ∧ List.Forall₂ SameSensors a.samples b.samples := by
  obtain ⟨b, hb, -, hsamples⟩ := import_export hexport
  refine ⟨b, hb, ?_⟩
  refine ((List.forall₂_and_left _ _).mpr ⟨fun _ hx => hx, hsamples⟩).imp ?_
  rintro x y ⟨hx, s, r, acts, h⟩
  exact sameSensors_returned hgroups hx (hfits x hx) h

/-- Sensors that come and go: a fan and a USB device more, then none, and batteries that stay. -/
def changingSensors : Archive where
  header := {}
  samples :=
    [ { Sample.blank with
        fan := [{ device := "cpu-fan", rpm := 1200, rpmMin := 300 }]
        usb := [{ busNr := 1, vendorId := 0x1d6b, productId := 2, product := "hub" }]
        bat := [{ batId := 7, capacity := 80, status := 2 },
          { batId := 3, capacity := 5, status := 4 }] },
      { Sample.blank with
        fan := [{ device := "cpu-fan", rpm := 900 }, { device := "case", rpm := 0 }]
        temp := [{ device := "cpu" }]
        usb := [{ vendorId := 0xbeef }, { busNr := 2, maxPower := 250 }]
        bat := [{ batId := 7, capacity := 79, status := 1 }] },
      { Sample.blank with voltage := [{ device := "12V" }, { device := "5V" }] } ]

theorem changingSensors_come_back :
    ∃ store, changingSensors.toStore {} = .ok store ∧
      ∃ b, ofStore store = .ok b ∧ List.Forall₂ SameSensors changingSensors.samples
        b.samples := by
  obtain ⟨store, hexport⟩ := toStore_ok {} (a := changingSensors) (by decide)
  have hfits : ∀ x ∈ changingSensors.samples, SensorsFit x := by
    intro x hx
    simp only [changingSensors, List.mem_cons, List.not_mem_nil, or_false] at hx
    rcases hx with rfl | rfl | rfl <;> constructor <;> decide
  exact ⟨store, hexport, import_export_sensors changingSensors {} store rfl hfits hexport⟩

end ActivityArchive.Archive
