import ActivityArchive.Proofs.Archive.RoundTrip
import ActivityArchive.Proofs.Group.ItemRestoring

/-!
What comes back of the items that a sample has by name: disks, interfaces, serial lines, filesystems
and fibre-channel hosts. Those that the filters let pass come back one by one and in their order,
however items come, go or change places from one sample to the next (`import_export_items`).
-/
namespace ActivityArchive.Archive

open Activities GroupSpec Record Session

variable {config : Config} {header : HostHeader} {discovery : List Sample} {store : Store}
  {s : Session} {x y : Sample} {r : StoredRecord} {acts : Activities} {k : Multi} {T : Type}
  {g : Keyed k} {G : Group} {columns : List Nat} {key : k.Rec → T} {tag : Config → k.Rec → T}

theorem count_defineView_multi (config : Config) (header : HostHeader) (discovery : List Sample)
    (k : Multi) : ((defineView config header discovery).acts.multi k).count =
      ((discovery.foldl scan { Activities.empty with header }).multi k).count := by
  cases k <;> rfl

/-- There is room for all items of the samples seen before definition. -/
theorem length_le_count (hx : x ∈ discovery) (k : Multi) :
    (x.multi k).length ≤ ((defineView config header discovery).acts.multi k).count := by
  rw [count_defineView_multi]
  refine Nat.le_of_not_lt fun hlt => ?_
  have hself := (lt_count_scan { Activities.empty with header } discovery k _).mpr
    (Or.inr ⟨x, hx, hlt⟩)
  omega

theorem isHeader_of_part (hpart : G.part = .multi k) : G.isHeader = false := by
  cases G <;> first | rfl | cases hpart

/-- A group of many records is taken up for a sample that has some exactly if it is enabled. -/
theorem mem_defined_iff
    (hpresent : ∀ acts, G.spec.isPresent acts = decide (0 < (acts.multi k).count))
    (hpart : G.part = .multi k) (hx : x ∈ discovery)
    (hdefined : s.defined = Group.all.filter (taken (defineView config header discovery)))
    (hne : x.multi k ≠ []) : G ∈ s.defined ↔ config.enables G.name = true := by
  have hpos : 0 < ((defineView config header discovery).acts.multi k).count :=
    Nat.lt_of_lt_of_le (List.length_pos_iff.mpr hne) (length_le_count hx k)
  rw [hdefined, List.mem_filter, taken, isHeader_of_part hpart, hpresent, decide_eq_true hpos,
    Bool.false_or, Bool.and_true]
  exact and_iff_right (Group.mem_all G)

/-- What is exported of a sample that was seen before definition is all of it. -/
theorem take_records_loaded (hx : x ∈ discovery)
    (h : Written (defineView config header discovery) store s x r) (k : Multi) :
    (((s.loaded x).acts.multi k).records s.slot).take ((s.loaded x).acts.multi k).count =
      x.multi k := by
  have hlater := h.later.trans (later_load s.acts s.slot x)
  have hcount : ((s.loaded x).acts.multi k).count =
      ((defineView config header discovery).acts.multi k).count := hlater.count k
  have hrecords : ((s.loaded x).acts.multi k).records s.slot = x.multi k :=
    multi_load s.acts s.slot x k
  rw [hrecords, hcount, List.take_of_length_le (length_le_count hx k)]

theorem emissions_keyed (hspec : G.spec = g.spec) (hx : x ∈ discovery)
    (h : Written (defineView config header discovery) store s x r) :
    (s.loaded x).emissions G = (x.multi k).flatMap (g.emissions config) := by
  have hconfig : s.config = config := h.config
  have hemit : (s.loaded x).emissions G = ((((s.loaded x).acts.multi k).records s.slot).take
      ((s.loaded x).acts.multi k).count).flatMap (g.emissions s.config) := by
    rw [emissions, hspec]
    rfl
  rw [hemit, take_records_loaded hx h, hconfig]

/-- The items of a sample come back as far as they are shown, in their order, if their group is
enabled. -/
theorem Returned.items_eq (h : Returned (defineView config header discovery) store s x r acts y)
    (law : g.Lawful columns key tag) (hspec : G.spec = g.spec) (hpart : G.part = .multi k)
    (hx : x ∈ discovery) (hnd : ((x.multi k).map (tag config)).Nodup) :
    y.multi k = if config.enables G.name then
      ((x.multi k).filter (g.shows config)).map (g.rebuild config columns) else [] := by
  have hholds := h.written.transcript.holds_multi law hspec hpart
    (emissions_keyed hspec hx h.written) hnd (h.blank.multi k)
  rw [h.multi k, hholds.records]
  by_cases hne : x.multi k = []
  · simp [hne]
  · simp only [mem_defined_iff (Keyed.isPresent_eq hspec) hpart hx h.written.defined hne]

/-- With all groups enabled, they come back as far as they are shown. -/
theorem Returned.multi_eq (h : Returned (defineView config header discovery) store s x r acts y)
    (law : g.Lawful columns key tag) (hspec : G.spec = g.spec) (hpart : G.part = .multi k)
    (hgroups : config.groups = none) (hx : x ∈ discovery)
    (hnd : ((x.multi k).map (tag config)).Nodup) :
    y.multi k = ((x.multi k).filter (g.shows config)).map (g.rebuild config columns) := by
  have henabled : config.enables G.name = true := by
    show passes config.groups G.name = true
    rw [hgroups]
    rfl
  rw [h.items_eq law hspec hpart hx hnd, if_pos henabled]

/-- No two items of a sample go by the same name. -/
structure Distinct (config : Config) (x : Sample) : Prop where
  netDev : (x.netDev.map (·.interface)).Nodup
  netEdev : (x.netEdev.map (·.interface)).Nodup
  filesystem : (x.filesystem.map (·.fsName)).Nodup
  fchost : (x.fchost.map (·.name)).Nodup
  serial : (x.serial.map (·.line)).Nodup
  disk : (x.disk.map fun d => config.deviceName d.major d.minor).Nodup

/-- No item loses anything in the units it is written in. -/
structure ItemsFit (x : Sample) : Prop where
  filesystem : ∀ f ∈ x.filesystem, FilesystemFits f
  fchost : ∀ f ∈ x.fchost, FcHostFits f
  disk : ∀ d ∈ x.disk, DiskFits d

/-- The items that the filters let pass, one by one and in order, with disks named as shown. -/
structure SameItems (config : Config) (x y : Sample) : Prop where
  netDev : y.netDev = x.netDev.filter fun n => passes config.interfaces n.interface
  netEdev : y.netEdev = x.netEdev.filter fun n => passes config.interfaces n.interface
  filesystem : y.filesystem = x.filesystem.filter fun f => passes config.filesystems f.fsName
  fchost : y.fchost = x.fchost
  serial : y.serial = x.serial
  disk : y.disk = (x.disk.filter fun d =>
    passes config.disks (config.deviceName d.major d.minor)).map (named config)

theorem map_rebuild {rows : List k.Rec} (h : ∀ z ∈ rows, g.rebuild config columns z = z) :
    rows.map (g.rebuild config columns) = rows :=
  (List.map_congr_left h).trans (List.map_id rows)

theorem sameItems_returned (hgroups : config.groups = none) (hx : x ∈ discovery)
    (hdistinct : Distinct config x) (hfits : ItemsFit x)
    (h : Returned (defineView config header discovery) store s x r acts y) :
    SameItems config x y where
  netDev := by
    have hback := h.multi_eq (G := .interfaces) lawful_interfaces rfl rfl hgroups hx
      hdistinct.netDev
    exact hback.trans (map_rebuild fun z _ => rebuild_interfaces config z)
  netEdev := by
    have hback := h.multi_eq (G := .interfaceErrors) lawful_interfaceErrors rfl rfl hgroups hx
      hdistinct.netEdev
    exact hback.trans (map_rebuild fun z _ => rebuild_interfaceErrors config z)
  filesystem := by
    have hback := h.multi_eq (G := .filesystems) lawful_filesystems rfl rfl hgroups hx
      hdistinct.filesystem
    refine hback.trans (map_rebuild fun z hz => rebuild_filesystems config ?_)
    exact hfits.filesystem z (List.mem_filter.mp hz).1
  fchost := by
    have hback := h.multi_eq (G := .fcHosts) lawful_fcHosts rfl rfl hgroups hx hdistinct.fchost
    have hall : (x.multi .fchost).filter (fcHosts.shows config) = x.fchost :=
      List.filter_eq_self.mpr fun _ _ => rfl
    rw [hall] at hback
    exact hback.trans (map_rebuild fun z hz => rebuild_fcHosts config (hfits.fchost z hz))
  serial := by
    have hback := h.multi_eq (G := .serialLines) lawful_serialLines rfl rfl hgroups hx
      hdistinct.serial
    have hall : (x.multi .serial).filter (serialLines.shows config) = x.serial :=
      List.filter_eq_self.mpr fun _ _ => rfl
    rw [hall] at hback
    exact hback.trans (map_rebuild fun z _ => rebuild_serialLines config z)
  disk := by
    have hback := h.multi_eq (G := .disks) lawful_disks rfl rfl hgroups hx hdistinct.disk
    refine hback.trans (List.map_congr_left fun z hz => rebuild_disks config ?_)
    exact hfits.disk z (List.mem_filter.mp hz).1

/-- With all groups enabled, an archive that was exported comes back with the items of every sample
that the filters let pass, as long as no two items of a sample go by the same name. -/
theorem import_export_items (a : Archive) (config : Config) (store : Store)
    (hgroups : config.groups = none) (hdistinct : ∀ x ∈ a.samples, Distinct config x)
    (hfits : ∀ x ∈ a.samples, ItemsFit x) (hexport : a.toStore config = .ok store) :
    ∃ b, ofStore store = .ok b ∧ List.Forall₂ (SameItems config) a.samples b.samples := by
  obtain ⟨b, hb, -, hsamples⟩ := import_export hexport
  refine ⟨b, hb, ?_⟩
  refine ((List.forall₂_and_left _ _).mpr ⟨fun _ hx => hx, hsamples⟩).imp ?_
  rintro x y ⟨hx, s, r, acts, h⟩
  exact sameItems_returned hgroups hx (hdistinct x hx) (hfits x hx) h

/-- Three interfaces of which one is not shown, and which change places; a disk that comes and a
serial line that goes. -/
def changingItems : Archive where
  header := {}
  samples :=
    [ { Sample.blank with
        netDev := [{ interface := "eth0", rxBytes := 1 }, { interface := "lo", rxBytes := 2 },
          { interface := "eth1", rxBytes := 3 }]
        serial := [{ line := 0, rx := 9 }, { line := 1 }]
        filesystem := [{ fsName := "/", totalBytes := 4096, freeBytes := 1024 }] },
      { Sample.blank with
        netDev := [{ interface := "eth1", rxBytes := 5 }, { interface := "eth0", rxBytes := 4 }]
        serial := [{ line := 1, tx := 8 }]
        disk :=
          [{ major := 8, minor := 16, rdSect := 6 }, { major := 8, minor := 0, wrSect := 2 }] } ]

def shownItems : Config where
  interfaces := some ["eth0", "eth1"]
  deviceNames := [⟨8, 0, "sda"⟩]

theorem changingItems_come_back :
    ∃ store, changingItems.toStore shownItems = .ok store ∧
      ∃ b, ofStore store = .ok b ∧
        List.Forall₂ (SameItems shownItems) changingItems.samples b.samples := by
  obtain ⟨store, hexport⟩ := toStore_ok shownItems (a := changingItems) (by decide)
  have hsamples : ∀ x ∈ changingItems.samples, Distinct shownItems x ∧ ItemsFit x := by
    intro x hx
    simp only [changingItems, List.mem_cons, List.not_mem_nil, or_false] at hx
    rcases hx with rfl | rfl
    · exact ⟨by constructor <;> decide, by constructor <;> decide⟩
    · exact ⟨by constructor <;> decide, by constructor <;> decide⟩
  exact ⟨store, hexport, import_export_items changingItems shownItems store rfl
    (fun x hx => (hsamples x hx).1) (fun x hx => (hsamples x hx).2) hexport⟩

end ActivityArchive.Archive
