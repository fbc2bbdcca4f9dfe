import ActivityArchive.Proofs.Group.Single

/-!
Every group works on one part of the activities: it emits from that part, changes nothing but that
part, and no two groups have the same part.
-/
namespace ActivityArchive

open Activities Record

/-- A group that reads and writes one part only. -/
structure GroupSpec.Local (t : Part) (g : GroupSpec) : Prop where
  emit_part_ne : ∀ view t', t' ≠ t → (g.emit view).1.part t' = view.acts.part t'
  emit_congr : ∀ view a, a.part t = view.acts.part t →
    (g.emit { view with acts := a }).2 = (g.emit view).2 ∧
      (g.emit { view with acts := a }).1.part t = (g.emit view).1.part t
  absorb : ∀ view idx readings, Touches t (g.absorb view idx readings)
  finish : ∀ s, Touches t (g.finish s)

namespace GroupSpec

/-- A group that only reads when it emits, and does nothing at the end of a record. -/
theorem local_of_reader {t : Part} {g : GroupSpec} {E : ExportView → t.State → List Emission}
    (hemit : ∀ view, g.emit view = (view.acts, E view (view.acts.part t)))
    (hE : ∀ view a x, E { view with acts := a } x = E view x)
    (habsorb : ∀ view idx readings, Touches t (g.absorb view idx readings))
    (hfinish : ∀ s, g.finish s = id) : g.Local t where
  emit_part_ne view t' _ := by rw [hemit]
  emit_congr view a h := by
    rw [hemit, hemit]
    exact ⟨by rw [hE, h], h⟩
  absorb := habsorb
  finish s := hfinish s ▸ touches_id t

theorem touches_absorbSingle (k : Single) (s : Slot) (change : Reading → Option (k.Rec → k.Rec))
    (readings : List Reading) : Touches (.single k) (absorbSingle k s change readings) := by
  refine Touches.foldl readings fun r => ?_
  cases change r with
  | some f => exact touches_updateSingle k fun a => a.update s 0 f
  | none => exact touches_id _

theorem touches_absorbUnits (k : Multi) (view : ImportView) (half idx : Nat)
    (change : Value → Option (k.Rec → k.Rec)) (readings : List Reading) :
    Touches (.multi k) (absorbUnits k view half idx change readings) := by
  refine Touches.foldl readings fun r => ?_
  dsimp only
  split
  · exact touches_updateMulti k _
  · exact touches_id _

theorem touches_absorbColumns (k : Multi) (columns : List (UnitColumn k.Rec)) (view : ImportView)
    (idx : Nat) (readings : List Reading) :
    Touches (.multi k) (absorbColumns k columns view idx readings) := by
  unfold absorbColumns
  split
  · exact touches_absorbUnits k view _ _ _ _
  · exact touches_id _

theorem Writes.local {g : GroupSpec} {k : Single} {F : Writer k} (h : g.Writes k F) :
    g.Local (.single k) := by
  refine local_of_reader
    (E := fun view x => ((x.records view.slot).head?.map (F view.isDefined)).getD [])
    h.emit (fun _ _ _ => rfl) (fun view idx readings => ?_) h.finish
  obtain ⟨change, rs, habsorb⟩ := h.absorb view idx readings
  rw [habsorb]
  exact touches_absorbSingle k view.slot change rs

section Keyed

variable {k : Multi} {g : Keyed k} {idx : Nat}

theorem Keyed.absorb_of_assign {assign : UInt64 → k.Rec → k.Rec}
    (h : g.assign? idx = some assign) (view : ImportView) (readings : List Reading) :
    g.spec.absorb view idx readings = readings.foldl (g.absorbReading view idx assign) := by
  funext acts
  simp only [Keyed.spec, h]

theorem Keyed.absorb_of_skip (h : g.assign? idx = none) (view : ImportView)
    (readings : List Reading) : g.spec.absorb view idx readings = id := by
  funext acts
  simp only [Keyed.spec, h, id]

end Keyed

theorem local_keyed {k : Multi} (g : Keyed k) : g.spec.Local (.multi k) := by
  refine local_of_reader
    (E := fun view x => ((x.records view.slot).take x.count).flatMap (g.emissions view.config))
    (fun _ => rfl) (fun _ _ _ => rfl) (fun view idx readings => ?_) (fun _ => rfl)
  cases hassign : g.assign? idx with
  | none =>
    rw [Keyed.absorb_of_skip hassign]
    exact touches_id _
  | some assign =>
    rw [Keyed.absorb_of_assign hassign]
    refine Touches.foldl readings fun r => ?_
    unfold Keyed.absorbReading
    split
    · exact touches_updateMulti k _
    · exact touches_id _

theorem local_sensor {k : Multi} (g : Sensor k) : g.spec.Local (.multi k) := by
  refine local_of_reader
    (E := fun view x => (((x.records view.slot).take x.count).mapIdx g.emissions).flatten)
    (fun _ => rfl) (fun _ _ _ => rfl) (fun view idx readings => ?_) (fun _ => rfl)
  refine Touches.foldl readings fun r => ?_
  unfold Sensor.absorbReading
  split
  · exact touches_updateMulti k _
  · exact touches_id _

section Host

variable {view : ImportView} {idx : Nat} {number : Option Int} {v : Value} {rest : List Reading}

theorem absorb_host {f : HostHeader → HostHeader} (haccepts : view.accepts idx v = true)
    (h : hostColumns[idx]?.bind (·.assign? v) = some f) {acts : Activities} :
    host.absorb view idx ((number, v) :: rest) acts = { acts with header := f acts.header } := by
  simp only [host, List.head?_cons, if_pos haccepts, h]

theorem absorb_host_of_skip
    (h : view.accepts idx v = true → hostColumns[idx]?.bind (·.assign? v) = none)
    {acts : Activities} : host.absorb view idx ((number, v) :: rest) acts = acts := by
  by_cases haccepts : view.accepts idx v = true
  · simp only [host, List.head?_cons, if_pos haccepts, h haccepts]
  · simp only [host, List.head?_cons, if_neg haccepts]

end Host

theorem local_host : host.Local .header := by
  refine local_of_reader
    (E := fun view x =>
      if view.isFirst then singular 0 (hostColumns.map (·.value x)) else [])
    (fun _ => rfl) (fun _ _ _ => rfl) (fun view idx readings => ?_) (fun _ => rfl)
  cases readings with
  | nil => exact touches_id _
  | cons r readings =>
    obtain ⟨number, v⟩ := r
    by_cases haccepts : view.accepts idx v = true
    · cases hcolumn : hostColumns[idx]?.bind (·.assign? v) with
      | none => exact ⟨id, fun acts => absorb_host_of_skip fun _ => hcolumn⟩
      | some f => exact ⟨f, fun acts => absorb_host haccepts hcolumn⟩
    · exact ⟨id, fun acts => absorb_host_of_skip fun h => absurd h haccepts⟩

theorem local_cpuClock : cpuClock.Local (.multi .cpufreq) := by
  refine local_of_reader
    (E := fun view x =>
      (cpuClock.emit { view with acts := view.acts.setPart (.multi .cpufreq) x }).2)
    (fun _ => rfl) (fun _ _ _ => rfl) (fun view idx readings => ?_) (fun _ => rfl)
  exact touches_absorbUnits .cpufreq view 0 idx
    (fun v => (view.real? idx v).map fun x _ => { cpufreq := Value.hundredths x }) readings

theorem local_cpu : cpu.Local (.multi .cpu) where
  emit_part_ne view t' h := by
    unfold cpu
    dsimp only
    split
    · rfl
    · exact part_setPart_ne (t := .multi .cpu) h _
  emit_congr view a h := by
    have h : a.cpu = view.acts.cpu := h
    unfold cpu
    dsimp only
    rw [h]
    split
    · exact ⟨rfl, h⟩
    · exact ⟨rfl, rfl⟩
  absorb view idx readings := touches_absorbColumns .cpu cpuColumns view idx readings
  finish s := touches_updateMulti .cpu fun a =>
    { a with buffer := a.buffer.fill s ((a.records s).map CpuTimes.withGuest) }

theorem local_softnet : softnet.Local (.multi .softnet) where
  emit_part_ne view t' h := by
    unfold softnet
    dsimp only
    split
    · rfl
    · exact part_setPart_ne (t := .multi .softnet) h _
  emit_congr view a h := by
    have h : a.softnet = view.acts.softnet := h
    unfold softnet
    dsimp only
    rw [h]
    split
    · exact ⟨rfl, h⟩
    · exact ⟨rfl, rfl⟩
  absorb view idx readings := touches_absorbColumns .softnet softnetColumns view idx readings
  finish s := touches_id _

theorem local_interrupts : interrupts.Local .interrupts where
  emit_part_ne view t' h := by
    unfold interrupts
    dsimp only
    split
    · rfl
    · split
      · exact part_setPart_ne (t := .interrupts) h _
      · rfl
  emit_congr view a h := by
    have h : a.irq = view.acts.irq := h
    unfold interrupts
    dsimp only
    rw [h]
    split
    · exact ⟨rfl, h⟩
    · split
      · exact ⟨rfl, rfl⟩
      · exact ⟨rfl, h⟩
  absorb view idx readings := by
    refine Touches.foldl readings fun r => ?_
    dsimp only
    split
    · exact ⟨fun x => absorbCell x _ _ _ _, fun _ => rfl⟩
    · exact touches_id _
  finish s := touches_id _

end GroupSpec

namespace Group

/-- The part that a group works on. -/
def part : Group → Part
  | .fileHeader => .header
  | .recordHeader => .single .record
  | .cpu => .multi .cpu
  | .softnet => .multi .softnet
  | .cpuClock => .multi .cpufreq
  | .taskSwitches => .single .pcsw
  | .interrupts => .interrupts
  | .swap => .single .swap
  | .paging => .single .paging
  | .blockIo => .single .io
  | .memory => .single .memory
  | .hugePages => .single .huge
  | .kernelTables => .single .ktables
  | .runQueue => .single .queue
  | .disks => .multi .disk
  | .interfaces => .multi .netDev
  | .interfaceErrors => .multi .netEdev
  | .serialLines => .multi .serial
  | .filesystems => .multi .filesystem
  | .fcHosts => .multi .fchost
  | .sockets => .single .sock
  | .ip => .single .ip
  | .ipErrors => .single .eip
  | .icmp => .single .icmp
  | .icmpErrors => .single .eicmp
  | .tcp => .single .tcp
  | .tcpErrors => .single .etcp
  | .udp => .single .udp
  | .sockets6 => .single .sock6
  | .ip6 => .single .ip6
  | .ip6Errors => .single .eip6
  | .icmp6 => .single .icmp6
  | .icmp6Errors => .single .eicmp6
  | .udp6 => .single .udp6
  | .nfsClient => .single .nfs
  | .nfsServer => .single .nfsd
  | .fans => .multi .fan
  | .temperatures => .multi .temp
  | .voltages => .multi .voltage
  | .usbDevices => .multi .usb
  | .batteries => .multi .bat
  | .cpuPressure => .single .psiCpu
  | .ioPressure => .single .psiIo
  | .memoryPressure => .single .psiMem

theorem part_injective {g g' : Group} (h : g.part = g'.part) : g = g' := by
  cases g <;> cases g' <;> first | rfl | exact absurd h (by decide)

open GroupSpec in
theorem spec_local (g : Group) : g.spec.Local g.part := by
  cases g with
  | fileHeader => exact local_host
  | recordHeader => exact uptime_writes.local
  | cpu => exact local_cpu
  | softnet => exact local_softnet
  | cpuClock => exact local_cpuClock
  | interrupts => exact local_interrupts
  | memory => exact memory_writes.local
  | hugePages => exact hugePages_writes.local
  | runQueue => exact runQueue_writes.local
  | nfsClient => exact nfsClient_writes.local
  | nfsServer => exact nfsServer_writes.local
  | cpuPressure => exact cpuPressure_writes.local
  | ioPressure => exact ioPressure_writes.local
  | memoryPressure => exact memoryPressure_writes.local
  | disks | interfaces | interfaceErrors | serialLines | filesystems | fcHosts =>
    exact local_keyed _
  | fans | temperatures | voltages | usbDevices | batteries => exact local_sensor _
  | taskSwitches | swap | paging | blockIo | kernelTables | sockets | ip | ipErrors | icmp
  | icmpErrors | tcp | tcpErrors | udp | sockets6 | ip6 | ip6Errors | icmp6 | icmp6Errors
  | udp6 => exact (flat_writes _ _ _ _).local

end Group

end ActivityArchive
