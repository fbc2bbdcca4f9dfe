import ActivityArchive.Proofs.Archive.Items
import ActivityArchive.Proofs.Archive.Sensors
import ActivityArchive.Proofs.Session.Texts

/-!
Archives exported, imported and exported again. The second export succeeds whenever the first one
did (`exported_again`). A disk comes back under the name that it was shown under but without its
device, and the name that it is shown under is that of its device; so in the second export all disks
have the name of one device, with the values of the first export (`disks_relabelled`).
-/
namespace ActivityArchive

open GroupSpec Record Session

/-- A value under another label. -/
def StoredValue.relabelled (label : String) (v : StoredValue) : StoredValue :=
  { v with label := some label }

namespace GroupSpec.Keyed

variable {k : Multi} {g : Keyed k} {c : Config}

/-- What a record keeps of an item that is shown. -/
def stored (g : Keyed k) (c : Config) (z : k.Rec) : List StoredValue :=
  (g.values z).filterMap fun x => g.metrics[x.1]?.map fun m =>
    ⟨m.id, some (g.label c z), x.2.text⟩

theorem filterMap_written (hdomain : ∀ m ∈ g.metrics, m.domain = some g.domain) (z : k.Rec) :
    (g.written c z).filterMap (Emission.stored? g.metrics) = g.stored c z := by
  rw [written, List.filterMap_cons_none rfl, List.filterMap_map, stored]
  refine List.filterMap_congr fun x _ => Option.map_congr fun m hm => ?_
  rw [hdomain m (List.mem_of_getElem? hm)]
  rfl

theorem filterMap_emissions (hdomain : ∀ m ∈ g.metrics, m.domain = some g.domain)
    (rows : List k.Rec) :
    (rows.flatMap (g.emissions c)).filterMap (Emission.stored? g.metrics) =
      (rows.filter (g.shows c)).flatMap (g.stored c) := by
  rw [flatMap_emissions, List.filterMap_flatMap]
  exact List.flatMap_congr fun z _ => filterMap_written hdomain z

end GroupSpec.Keyed

namespace Archive

variable {a : Archive} {config : Config} {header : HostHeader} {discovery : List Sample}
  {store : Store} {s : Session} {x y : Sample} {r : StoredRecord} {acts : Activities} {k : Multi}
  {g : Keyed k} {G : Group}

/-- What the record of a sample holds of a group of items: those that are shown. -/
theorem valuesIn_keyed (hspec : G.spec = g.spec) (hpart : G.part = .multi k)
    (hdomain : ∀ m ∈ g.metrics, m.domain = some g.domain) (hx : x ∈ discovery)
    (h : Written (defineView config header discovery) store s x r) :
    G.valuesIn r = if config.enables G.name then
      ((x.multi k).filter (g.shows config)).flatMap (g.stored config) else [] := by
  rw [h.transcript.valuesIn_eq, emissions_keyed hspec hx h, Keyed.metrics_eq hspec,
    Keyed.filterMap_emissions hdomain]
  by_cases hne : x.multi k = []
  · simp [hne]
  · simp only [mem_defined_iff (Keyed.isPresent_eq hspec) hpart hx h.defined hne]

/-- Batteries come back in places that they had. -/
theorem batteryPlaces_subset {b : Archive}
    (h : List.Forall₂ (fun x y => ∃ s r acts,
      Returned (defineView config a.header a.samples) store s x r acts y) a.samples b.samples)
    {p : Nat × UInt32} (hp : p ∈ batteryPlaces b.samples) : p ∈ batteryPlaces a.samples := by
  obtain ⟨i, id⟩ := p
  obtain ⟨y, hy, bat, hbat, rfl⟩ := mem_batteryPlaces.mp hp
  obtain ⟨x, hx, s, r, acts, hback⟩ := exists_of_forall₂ h hy
  obtain ⟨hwritten, hunwritten⟩ :=
    hback.sensors_back (G := .batteries) lawful_batteries rfl rfl hx
  by_cases hg : .batteries ∈ s.defined
  · obtain ⟨shown, hshown, hrestored⟩ := (hwritten hg).exists_row hbat
    exact mem_batteryPlaces.mpr ⟨x, hx, shown, hshown, (batId_restored hrestored).symm⟩
  · have hnone : y.bat = [] := hunwritten hg
    rw [hnone] at hbat
    cases hbat

/-- What was exported and imported can be exported again. -/
theorem exported_again (hexport : a.toStore config = .ok store) {b : Archive}
    (himport : ofStore store = .ok b) : ∃ again, b.toStore config = .ok again := by
  obtain ⟨b', himport', -, hback⟩ := import_export hexport
  obtain rfl : b = b' := Except.ok.inj (himport.symm.trans himport')
  refine (toStore_iff b config).mpr (((toStore_iff a config).mp ⟨store, hexport⟩).imp_right ?_)
  intro hagree p hp q hq
  exact hagree p (batteryPlaces_subset hback hp) q (batteryPlaces_subset hback hq)

theorem stored_named (c : Config) (d : Disk) :
    disks.stored c (named c d) = (disks.stored c d).map (·.relabelled (c.deviceName 0 0)) := by
  rw [Keyed.stored, Keyed.stored, List.map_filterMap]
  refine List.filterMap_congr fun x _ => ?_
  rw [Option.map_map]
  rfl

theorem filter_shows_named (c : Config) (rows : List Disk) :
    (rows.map (named c)).filter (disks.shows c) =
      if passes c.disks (c.deviceName 0 0) then rows.map (named c) else [] := by
  have hshows : ∀ z ∈ rows.map (named c), disks.shows c z =
      passes c.disks (c.deviceName 0 0) := by
    intro z hz
    obtain ⟨d, -, rfl⟩ := List.mem_map.mp hz
    rfl
  split
  · rename_i hpass
    exact List.filter_eq_self.mpr fun z hz => (hshows z hz).trans hpass
  · rename_i hpass
    exact List.filter_eq_nil_iff.mpr fun z hz => hshows z hz ▸ hpass

/-- What an export writes of disks that were named before: the same under one label. -/
theorem stored_again (c : Config) (rows : List Disk) :
    ((rows.map (named c)).filter (disks.shows c)).flatMap (disks.stored c) =
      if passes c.disks (c.deviceName 0 0) then
        (rows.flatMap (disks.stored c)).map (·.relabelled (c.deviceName 0 0)) else [] := by
  rw [filter_shows_named]
  split
  · rw [List.flatMap_map, List.map_flatMap]
    exact List.flatMap_congr fun d _ => stored_named c d
  · rfl

/-- The disks of a sample that came back. -/
theorem disk_returned (h : Returned (defineView config header discovery) store s x r acts y)
    (hx : x ∈ discovery) (hnames : (x.disk.map fun d => config.deviceName d.major d.minor).Nodup)
    (heven : ∀ d ∈ x.disk, DiskFits d) :
    y.disk = if config.enables Group.disks.name then
      (x.disk.filter (disks.shows config)).map (named config) else [] := by
  have hback : y.disk = if config.enables Group.disks.name then _ else [] :=
    h.items_eq lawful_disks rfl rfl hx hnames
  rw [hback]
  congr 1
  exact List.map_congr_left fun d hd => rebuild_disks config (heven d (List.mem_filter.mp hd).1)

/-- What the records of a sample hold of its disks, the one of the first export and the one of the
second. -/
theorem valuesIn_again {header' : HostHeader} {discovery' : List Sample} {again : Store}
    {s₁ s₂ : Session} {r₁ r₂ : StoredRecord}
    (h₁ : Written (defineView config header discovery) store s₁ x r₁)
    (hback : Returned (defineView config header discovery) store s x r acts y)
    (h₂ : Written (defineView config header' discovery') again s₂ y r₂)
    (hx : x ∈ discovery) (hy : y ∈ discovery')
    (hnames : (x.disk.map fun d => config.deviceName d.major d.minor).Nodup)
    (heven : ∀ d ∈ x.disk, DiskFits d) :
    Group.disks.valuesIn r₂ = if passes config.disks (config.deviceName 0 0) then
      (Group.disks.valuesIn r₁).map (·.relabelled (config.deviceName 0 0)) else [] := by
  have hdisk := disk_returned hback hx hnames heven
  have hfirst : Group.disks.valuesIn r₁ = if config.enables Group.disks.name then
      (x.disk.filter (disks.shows config)).flatMap (disks.stored config) else [] :=
    valuesIn_keyed rfl rfl lawful_disks.domain hx h₁
  have hsecond : Group.disks.valuesIn r₂ = if config.enables Group.disks.name then
      (y.disk.filter (disks.shows config)).flatMap (disks.stored config) else [] :=
    valuesIn_keyed rfl rfl lawful_disks.domain hy h₂
  by_cases henabled : config.enables Group.disks.name = true
  · rw [if_pos henabled] at hdisk hfirst hsecond
    rw [hsecond, hdisk, stored_again, hfirst]
  · rw [if_neg henabled] at hfirst hsecond
    rw [hsecond, hfirst]
    simp

/-- Where no two disks of a sample have the same name, what is exported, imported and exported again
under one configuration is the same in its disks but for their labels: all of them are shown under
the name of device 0:0, or not at all if that name does not pass. -/
theorem disks_relabelled (a : Archive) (config : Config) (store : Store)
    (hnames : ∀ x ∈ a.samples, (x.disk.map fun d => config.deviceName d.major d.minor).Nodup)
    (heven : ∀ x ∈ a.samples, ∀ d ∈ x.disk, DiskFits d)
    (hexport : a.toStore config = .ok store) :
    ∃ b, ofStore store = .ok b ∧ ∃ again, b.toStore config = .ok again ∧
      List.Forall₂ (fun first second => Group.disks.valuesIn second =
        if passes config.disks (config.deviceName 0 0) then
          (Group.disks.valuesIn first).map (·.relabelled (config.deviceName 0 0)) else [])
        store.records again.records := by
  obtain ⟨b, himport, -, hback⟩ := import_export hexport
  obtain ⟨again, hagain⟩ := exported_again hexport himport
  refine ⟨b, himport, again, hagain, ?_⟩
  have hfirst := (List.forall₂_and_left _ _).mpr ⟨fun _ hx => hx, (toStore_written hexport).1⟩
  have hsecond := (List.forall₂_and_left _ _).mpr ⟨fun _ hy => hy, (toStore_written hagain).1⟩
  refine (forall₂_trans hfirst.flip (forall₂_trans hback hsecond)).imp ?_
  rintro r₁ r₂ ⟨x, ⟨hx, s₁, h₁⟩, y, ⟨s, r, acts, hback⟩, hy, s₂, h₂⟩
  exact valuesIn_again h₁ hback h₂ hx hy (hnames x hx) (heven x hx)

def twoDisks : Archive where
  header := {}
  samples :=
    [ { Sample.blank with
        disk := [{ major := 8, minor := 0, nrIos := 5 },
          { major := 8, minor := 16, nrIos := 7 }] } ]

def twoNames : Config where
  deviceNames := [⟨8, 0, "sda"⟩, ⟨8, 16, "sdb"⟩]

/-- The labels under which a record holds values of disks. -/
def diskLabels (r : StoredRecord) : List String :=
  ((Group.disks.valuesIn r).filterMap (·.label)).eraseDups

theorem valuesIn_twoDisks (hexport : twoDisks.toStore twoNames = .ok store)
    (hr : r ∈ store.records) :
    Group.disks.valuesIn r =
      (twoDisks.samples.flatMap (·.disk)).flatMap (disks.stored twoNames) := by
  obtain ⟨x, hx, s, h⟩ := exists_of_forall₂ (toStore_written hexport).1 hr
  have hvalues : Group.disks.valuesIn r = _ := valuesIn_keyed rfl rfl lawful_disks.domain hx h
  obtain rfl := List.mem_singleton.mp hx
  rw [hvalues]
  rfl

/-- Two disks with names of their own are one when they are exported again. -/
theorem twoDisks_merge :
    ∃ store, twoDisks.toStore twoNames = .ok store ∧ ∃ b, ofStore store = .ok b ∧
      ∃ again, b.toStore twoNames = .ok again ∧ List.Forall₂ (fun first second =>
        diskLabels first = ["sda", "sdb"] ∧ diskLabels second = ["dev0-0"])
        store.records again.records := by
  obtain ⟨store, hexport⟩ := toStore_ok twoNames (a := twoDisks) (by decide)
  obtain ⟨b, himport, again, hagain, hrecords⟩ :=
    disks_relabelled twoDisks twoNames store (by decide) (by decide) hexport
  refine ⟨store, hexport, b, himport, again, hagain, ?_⟩
  refine ((List.forall₂_and_left _ _).mpr ⟨fun _ hr => hr, hrecords⟩).imp ?_
  rintro first second ⟨hfirst, hsecond⟩
  rw [diskLabels, diskLabels, hsecond, valuesIn_twoDisks hexport hfirst]
  decide

end Archive

end ActivityArchive
