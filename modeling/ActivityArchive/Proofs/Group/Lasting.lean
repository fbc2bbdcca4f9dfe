import ActivityArchive.Proofs.Group.Locality

/-!
What is done to activities while a record is built in a slot: the host is changed, records are
changed one by one or all at once, and counts of interrupts are written. A relation of parts that
lasts when the same is done to both lasts over everything that a group takes in, and over the end of
a record (`Group.spec_keeps`).
-/
namespace ActivityArchive

open Activities Record

/-- A relation of parts that lasts when the same is done to both of them in a slot. -/
structure Part.Lasting (s : Slot) (Q : (t : Part) → t.State → t.State → Prop) : Prop where
  header (f : HostHeader → HostHeader) {x y : HostHeader} :
    Q .header x y → Q .header (f x) (f y)
  single (k : Single) (i : Nat) (f : k.Rec → k.Rec) {x y : Activity k.Rec} :
    Q (.single k) x y → Q (.single k) (x.update s i f) (y.update s i f)
  multi (k : Multi) (i : Nat) (f : k.Rec → k.Rec) {x y : Activity k.Rec} :
    Q (.multi k) x y → Q (.multi k) (x.update s i f) (y.update s i f)
  /-- A change of the record of an item, looked for in each of them. -/
  item (k : Multi) (p : k.Rec → Bool) (f : k.Rec → k.Rec) {x y : Activity k.Rec} :
    Q (.multi k) x y → Q (.multi k) (x.updateBy s p f) (y.updateBy s p f)
  /-- A change of every record. -/
  every (k : Multi) (f : k.Rec → k.Rec) {x y : Activity k.Rec} : Q (.multi k) x y →
    Q (.multi k) { x with buffer := x.buffer.fill s ((x.records s).map f) }
      { y with buffer := y.buffer.fill s ((y.records s).map f) }
  count (row : Nat) (name : String) (count : UInt64) {x y : Interrupts} : Q .interrupts x y →
    Q .interrupts (GroupSpec.absorbCell x s row name count)
      (GroupSpec.absorbCell y s row name count)

/-- A group keeps every relation that lasts. -/
structure GroupSpec.Keeps (g : GroupSpec) : Prop where
  absorb : ∀ {Q} (view : ImportView) idx readings {a b}, Part.Lasting view.slot Q →
    Related Q a b → Related Q (g.absorb view idx readings a) (g.absorb view idx readings b)
  finish : ∀ {Q} (s : Slot) {a b}, Part.Lasting s Q → Related Q a b →
    Related Q (g.finish s a) (g.finish s b)

namespace GroupSpec

variable {Q : (t : Part) → t.State → t.State → Prop} {a b : Activities} {s : Slot}

theorem related_updateMulti (hQ : Part.Lasting s Q) (h : Related Q a b) (k : Multi) (idx : Nat)
    (f : k.Rec → k.Rec) : Related Q (updateMulti s k idx f a) (updateMulti s k idx f b) :=
  h.setPart (t := .multi k) (hQ.multi k idx f (h (.multi k)))

theorem related_absorbSingle (hQ : Part.Lasting s Q) (h : Related Q a b) (k : Single)
    (change : Reading → Option (k.Rec → k.Rec)) (readings : List Reading) :
    Related Q (absorbSingle k s change readings a) (absorbSingle k s change readings b) := by
  refine h.foldl readings fun r a b h => ?_
  cases change r with
  | some f => exact h.setPart (t := .single k) (hQ.single k 0 f (h (.single k)))
  | none => exact h

theorem related_absorbUnits {view : ImportView} (hQ : Part.Lasting view.slot Q) (h : Related Q a b)
    (k : Multi) (half idx : Nat) (change : Value → Option (k.Rec → k.Rec))
    (readings : List Reading) :
    Related Q (absorbUnits k view half idx change readings a)
      (absorbUnits k view half idx change readings b) := by
  refine h.foldl readings fun r a b h => ?_
  dsimp only
  split
  · exact related_updateMulti hQ h k _ _
  · exact h

theorem related_absorbColumns {view : ImportView} (hQ : Part.Lasting view.slot Q)
    (h : Related Q a b) (k : Multi) (columns : List (UnitColumn k.Rec)) (idx : Nat)
    (readings : List Reading) :
    Related Q (absorbColumns k columns view idx readings a)
      (absorbColumns k columns view idx readings b) := by
  unfold absorbColumns
  split
  · exact related_absorbUnits hQ h k _ _ _ _
  · exact h

theorem Writes.keeps {g : GroupSpec} {k : Single} {F : Writer k} (hg : g.Writes k F) : g.Keeps where
  absorb view idx readings a b hQ h := by
    obtain ⟨change, rs, habsorb⟩ := hg.absorb view idx readings
    rw [habsorb]
    exact related_absorbSingle hQ h k change rs
  finish s a b _ h := hg.finish s ▸ h

theorem keeps_keyed {k : Multi} (g : Keyed k) : g.spec.Keeps where
  absorb view idx readings a b hQ h := by
    cases hassign : g.assign? idx with
    | none =>
      rw [Keyed.absorb_of_skip hassign]
      exact h
    | some assign =>
      rw [Keyed.absorb_of_assign hassign]
      refine h.foldl readings fun r a b h => ?_
      unfold Keyed.absorbReading
      split
      · exact h.setPart (t := .multi k) (hQ.item k _ _ (h (.multi k)))
      · exact h
  finish _ _ _ _ h := h

theorem keeps_sensor {k : Multi} (g : Sensor k) : g.spec.Keeps where
  absorb view idx readings a b hQ h := by
    refine h.foldl readings fun r a b h => ?_
    unfold Sensor.absorbReading
    split
    · exact related_updateMulti hQ h k _ _
    · exact h
  finish _ _ _ _ h := h

theorem keeps_host : host.Keeps where
  absorb view idx readings a b hQ h := by
    obtain ⟨f, hf⟩ := local_host.absorb view idx readings
    rw [hf, hf]
    exact h.setPart (hQ.header f (h .header))
  finish _ _ _ _ h := h

theorem keeps_cpu : cpu.Keeps where
  absorb _ idx readings _ _ hQ h := related_absorbColumns hQ h .cpu cpuColumns idx readings
  finish _ _ _ hQ h :=
    h.setPart (t := .multi .cpu) (hQ.every .cpu CpuTimes.withGuest (h (.multi .cpu)))

theorem keeps_softnet : softnet.Keeps where
  absorb _ idx readings _ _ hQ h := related_absorbColumns hQ h .softnet softnetColumns idx readings
  finish _ _ _ _ h := h

theorem keeps_cpuClock : cpuClock.Keeps where
  absorb _ idx readings _ _ hQ h := related_absorbUnits hQ h .cpufreq 0 idx _ readings
  finish _ _ _ _ h := h

theorem keeps_interrupts : interrupts.Keeps where
  absorb view idx readings a b hQ h := by
    refine h.foldl readings fun r a b h => ?_
    dsimp only
    split
    · exact h.setPart (t := .interrupts) (hQ.count _ _ _ (h .interrupts))
    · exact h
  finish _ _ _ _ h := h

end GroupSpec

open GroupSpec in
theorem Group.spec_keeps (g : Group) : g.spec.Keeps := by
  cases g with
  | fileHeader => exact keeps_host
  | recordHeader => exact uptime_writes.keeps
  | cpu => exact keeps_cpu
  | softnet => exact keeps_softnet
  | cpuClock => exact keeps_cpuClock
  | interrupts => exact keeps_interrupts
  | memory => exact memory_writes.keeps
  | hugePages => exact hugePages_writes.keeps
  | runQueue => exact runQueue_writes.keeps
  | nfsClient => exact nfsClient_writes.keeps
  | nfsServer => exact nfsServer_writes.keeps
  | cpuPressure => exact cpuPressure_writes.keeps
  | ioPressure => exact ioPressure_writes.keeps
  | memoryPressure => exact memoryPressure_writes.keeps
  | disks | interfaces | interfaceErrors | serialLines | filesystems | fcHosts =>
    exact keeps_keyed _
  | fans | temperatures | voltages | usbDevices | batteries => exact keeps_sensor _
  | taskSwitches | swap | paging | blockIo | kernelTables | sockets | ip | ipErrors | icmp
  | icmpErrors | tcp | tcpErrors | udp | sockets6 | ip6 | ip6Errors | icmp6 | icmp6Errors
  | udp6 => exact (flat_writes _ _ _ _).keeps

end ActivityArchive
