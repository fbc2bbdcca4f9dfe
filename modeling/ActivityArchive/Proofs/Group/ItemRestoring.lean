import ActivityArchive.Proofs.Group.KeyedRestoring

/-!
The groups of items one by one: labels lead back to their items, and an item comes back as it was, a
disk under the name it is shown under. Sizes that are written in larger units, and words that are
written in bytes, must be such that nothing is lost.
-/
namespace ActivityArchive.GroupSpec

open Record

theorem lawful_interfaces :
    interfaces.Lawful (List.range 7) (·.interface) fun _ n => n.interface where
  domain := by decide
  readable := by decide
  values _ := rfl
  kinds _ := rfl
  owner _ _ := ⟨_, _, rfl, fun _ => beq_iff_eq, fun _ => rfl⟩
  assign i f h x z := by
    simp only [interfaces, assignInterface?] at h
    split at h <;> cases h <;> rfl

theorem rebuild_interfaces (c : Config) (n : Interface) :
    interfaces.rebuild c (List.range 7) n = n := by
  have hsteps : (List.range 7).map (fun i => interfaces.step c i n) =
      [fun z => { z with interface := n.interface, rxPackets := n.rxPackets },
        fun z => { z with interface := n.interface, txPackets := n.txPackets },
        fun z => { z with interface := n.interface, rxBytes := n.rxBytes },
        fun z => { z with interface := n.interface, txBytes := n.txBytes },
        fun z => { z with interface := n.interface, rxCompressed := n.rxCompressed },
        fun z => { z with interface := n.interface, txCompressed := n.txCompressed },
        fun z => { z with interface := n.interface, multicast := n.multicast }] := rfl
  rw [Keyed.rebuild_eq hsteps]
  simp only [List.foldl_cons, List.foldl_nil]

theorem lawful_interfaceErrors :
    interfaceErrors.Lawful (List.range 9) (·.interface) fun _ n => n.interface where
  domain := by decide
  readable := by decide
  values _ := rfl
  kinds _ := rfl
  owner _ _ := ⟨_, _, rfl, fun _ => beq_iff_eq, fun _ => rfl⟩
  assign i f h x z := by
    simp only [interfaceErrors, assignInterfaceErrors?] at h
    split at h <;> cases h <;> rfl

theorem rebuild_interfaceErrors (c : Config) (n : InterfaceErrors) :
    interfaceErrors.rebuild c (List.range 9) n = n := by
  have hsteps : (List.range 9).map (fun i => interfaceErrors.step c i n) =
      [fun z => { z with interface := n.interface, rxErrors := n.rxErrors },
        fun z => { z with interface := n.interface, txErrors := n.txErrors },
        fun z => { z with interface := n.interface, collisions := n.collisions },
        fun z => { z with interface := n.interface, rxDropped := n.rxDropped },
        fun z => { z with interface := n.interface, txDropped := n.txDropped },
        fun z => { z with interface := n.interface, txCarrierErrors := n.txCarrierErrors },
        fun z => { z with interface := n.interface, rxFrameErrors := n.rxFrameErrors },
        fun z => { z with interface := n.interface, rxFifoErrors := n.rxFifoErrors },
        fun z => { z with interface := n.interface, txFifoErrors := n.txFifoErrors }] := rfl
  rw [Keyed.rebuild_eq hsteps]
  simp only [List.foldl_cons, List.foldl_nil]

theorem serialLine?_serialLabel (line : UInt32) : serialLine? (serialLabel line) = some line := by
  have hlabel : (serialLabel line).toList =
      ['s', 'e', 'r', 'i', 'a', 'l'] ++ (Text.decimal line.toNat).toList := by
    rw [serialLabel, String.toList_append]
    rfl
  have hprefix : ['s', 'e', 'r', 'i', 'a', 'l'].isPrefixOf (serialLabel line).toList = true := by
    rw [hlabel, List.isPrefixOf_iff_prefix]
    exact List.prefix_append _ _
  have hbehind : behind? ['s', 'e', 'r', 'i', 'a', 'l'] (serialLabel line) =
      some (Text.decimal line.toNat).toList := by
    rw [behind?, if_pos hprefix, hlabel]
    rfl
  rw [serialLine?, hbehind, Option.bind_some, Text.natural?_decimal line.toNat_lt]
  simp

theorem owner_serialLines (c : Config) (s : SerialLine) :
    serialLines.owner? (serialLines.label c s) =
      some ((·.line == s.line), fun z => { z with line := s.line }) := by
  show (serialLine? (serialLabel s.line)).map _ = _
  rw [serialLine?_serialLabel]
  rfl

theorem lawful_serialLines :
    serialLines.Lawful (List.range 6) (·.line) fun _ s => s.line where
  domain := by decide
  readable := by decide
  values _ := rfl
  kinds _ := rfl
  owner c s := ⟨_, _, owner_serialLines c s, fun _ => beq_iff_eq, fun _ => rfl⟩
  assign i f h x z := by
    simp only [serialLines, assignSerial?] at h
    split at h <;> cases h <;> rfl

theorem rebuild_serialLines (c : Config) (s : SerialLine) :
    serialLines.rebuild c (List.range 6) s = s := by
  have hsteps : (List.range 6).map (fun i => serialLines.step c i s) =
      [fun z => { z with line := s.line, rx := s.rx.toUInt64.toUInt32 },
        fun z => { z with line := s.line, tx := s.tx.toUInt64.toUInt32 },
        fun z => { z with line := s.line, frame := s.frame.toUInt64.toUInt32 },
        fun z => { z with line := s.line, parity := s.parity.toUInt64.toUInt32 },
        fun z => { z with line := s.line, brk := s.brk.toUInt64.toUInt32 },
        fun z => { z with line := s.line, overrun := s.overrun.toUInt64.toUInt32 }] := by
    simp only [Keyed.step_eq (owner_serialLines c s)]
    rfl
  rw [Keyed.rebuild_eq hsteps]
  simp only [List.foldl_cons, List.foldl_nil, UInt32.toUInt32_toUInt64]

/-- The sizes of a filesystem are written in kilobytes. -/
def FilesystemFits (f : Filesystem) : Prop :=
  1024 ∣ f.totalBytes.toNat ∧ 1024 ∣ f.freeBytes.toNat ∧ 1024 ∣ f.availBytes.toNat

instance (f : Filesystem) : Decidable (FilesystemFits f) :=
  inferInstanceAs (Decidable (1024 ∣ f.totalBytes.toNat ∧ 1024 ∣ f.freeBytes.toNat ∧
    1024 ∣ f.availBytes.toNat))

theorem lawful_filesystems :
    filesystems.Lawful [0, 1, 4, 5, 7] (·.fsName) fun _ f => f.fsName where
  domain := by decide
  readable := by decide
  values _ := rfl
  kinds _ := rfl
  owner _ _ := ⟨_, _, rfl, fun _ => beq_iff_eq, fun _ => rfl⟩
  assign i f h x z := by
    simp only [filesystems, assignFilesystem?] at h
    split at h <;> cases h <;> rfl

theorem rebuild_filesystems (c : Config) {f : Filesystem} (h : FilesystemFits f) :
    filesystems.rebuild c [0, 1, 4, 5, 7] f = f := by
  obtain ⟨htotal, hfree, havail⟩ := h
  have hsteps : [0, 1, 4, 5, 7].map (fun i => filesystems.step c i f) =
      [fun z => { z with fsName := f.fsName, totalBytes := f.totalBytes / 1024 * 1024 },
        fun z => { z with fsName := f.fsName, freeBytes := f.freeBytes / 1024 * 1024 },
        fun z => { z with fsName := f.fsName, files := f.files },
        fun z => { z with fsName := f.fsName, freeFiles := f.freeFiles },
        fun z => { z with fsName := f.fsName, availBytes := f.availBytes / 1024 * 1024 }] := rfl
  rw [Keyed.rebuild_eq hsteps, div_mul_word htotal, div_mul_word hfree, div_mul_word havail]
  simp only [List.foldl_cons, List.foldl_nil]

/-- The words of a fibre-channel host are written in bytes. -/
def FcHostFits (f : FcHost) : Prop :=
  f.rxWords.toNat * 4 < UInt64.size ∧ f.txWords.toNat * 4 < UInt64.size

instance (f : FcHost) : Decidable (FcHostFits f) :=
  inferInstanceAs (Decidable
    (f.rxWords.toNat * 4 < UInt64.size ∧ f.txWords.toNat * 4 < UInt64.size))

theorem lawful_fcHosts : fcHosts.Lawful (List.range 4) (·.name) fun _ f => f.name where
  domain := by decide
  readable := by decide
  values _ := rfl
  kinds _ := rfl
  owner _ _ := ⟨_, _, rfl, fun _ => beq_iff_eq, fun _ => rfl⟩
  assign i f h x z := by
    simp only [fcHosts, assignFcHost?] at h
    split at h <;> cases h <;> rfl

theorem rebuild_fcHosts (c : Config) {f : FcHost} (h : FcHostFits f) :
    fcHosts.rebuild c (List.range 4) f = f := by
  obtain ⟨hrx, htx⟩ := h
  have hpos : 0 < (4 : UInt64).toNat := by decide
  have hsteps : (List.range 4).map (fun i => fcHosts.step c i f) =
      [fun z => { z with name := f.name, rxFrames := f.rxFrames },
        fun z => { z with name := f.name, txFrames := f.txFrames },
        fun z => { z with name := f.name, rxWords := f.rxWords * 4 / 4 },
        fun z => { z with name := f.name, txWords := f.txWords * 4 / 4 }] := rfl
  rw [Keyed.rebuild_eq hsteps, mul_div_word hpos hrx, mul_div_word hpos htx]
  simp only [List.foldl_cons, List.foldl_nil]

/-- The sectors of a disk are written in kilobytes, two each. -/
def DiskFits (d : Disk) : Prop :=
  2 ∣ d.rdSect.toNat ∧ 2 ∣ d.wrSect.toNat ∧ 2 ∣ d.dcSect.toNat

instance (d : Disk) : Decidable (DiskFits d) :=
  inferInstanceAs (Decidable (2 ∣ d.rdSect.toNat ∧ 2 ∣ d.wrSect.toNat ∧
    2 ∣ d.dcSect.toNat))

/-- A disk under the name that its device is shown under, without the device. -/
def named (c : Config) (d : Disk) : Disk :=
  { d with name := c.deviceName d.major d.minor, major := 0, minor := 0 }

theorem milliseconds_toUInt64 (x : UInt32) : milliseconds x.toUInt64 = x := by
  have hlt : x.toUInt64.toNat < UInt32.size := by
    rw [UInt32.toNat_toUInt64]
    exact x.toNat_lt
  rw [milliseconds, if_pos hlt, UInt32.toUInt32_toUInt64]

theorem lawful_disks : disks.Lawful [2, 4, 5, 6, 7, 8, 10, 11, 12] (·.name)
    fun c d => c.deviceName d.major d.minor where
  domain := by decide
  readable := by decide
  values _ := rfl
  kinds _ := rfl
  owner _ _ := ⟨_, _, rfl, fun _ => beq_iff_eq, fun _ => rfl⟩
  assign i f h x z := by
    simp only [disks, assignDisk?] at h
    split at h <;> cases h <;> rfl

theorem rebuild_disks (c : Config) {d : Disk} (h : DiskFits d) :
    disks.rebuild c [2, 4, 5, 6, 7, 8, 10, 11, 12] d = named c d := by
  obtain ⟨hrd, hwr, hdc⟩ := h
  have hsteps : [2, 4, 5, 6, 7, 8, 10, 11, 12].map (fun i => disks.step c i d) =
      [fun z => { z with name := c.deviceName d.major d.minor, nrIos := d.nrIos },
        fun z => { z with name := c.deviceName d.major d.minor, rdSect := d.rdSect / 2 * 2 },
        fun z => { z with name := c.deviceName d.major d.minor, wrSect := d.wrSect / 2 * 2 },
        fun z => { z with name := c.deviceName d.major d.minor, dcSect := d.dcSect / 2 * 2 },
        fun z => { z with
          name := c.deviceName d.major d.minor, rdTicks := milliseconds d.rdTicks.toUInt64 },
        fun z => { z with
          name := c.deviceName d.major d.minor, wrTicks := milliseconds d.wrTicks.toUInt64 },
        fun z => { z with
          name := c.deviceName d.major d.minor, dcTicks := milliseconds d.dcTicks.toUInt64 },
        fun z => { z with
          name := c.deviceName d.major d.minor, totTicks := milliseconds d.totTicks.toUInt64 },
        fun z => { z with
          name := c.deviceName d.major d.minor, rqTicks := milliseconds d.rqTicks.toUInt64 }] := rfl
  have hblank : (default : Multi.disk.Rec) = ({} : Disk) := rfl
  rw [Keyed.rebuild_eq hsteps, div_mul_word hrd, div_mul_word hwr, div_mul_word hdc, hblank]
  simp only [List.foldl_cons, List.foldl_nil, milliseconds_toUInt64, named]

end ActivityArchive.GroupSpec
