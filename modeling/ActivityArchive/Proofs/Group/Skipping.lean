import ActivityArchive.Proofs.Group.Orderless

/-!
Readings that a group skips. No group changes anything for a value that is not of the kind of its
metric (`Group.absorb_of_rejected`). An instance that is not registered is skipped by the groups
that look up labels, and the other ones skip what is neither a position nor one of their constants
(`Group.absorb_without`).
-/
namespace ActivityArchive

open Activities Record

namespace ImportView

variable {view : ImportView} {idx : Nat} {v : Value}

theorem word32?_of_rejected (h : view.accepts idx v = false) : view.word32? idx v = none := by
  simp [word32?, h]

theorem word64?_of_rejected (h : view.accepts idx v = false) : view.word64? idx v = none := by
  simp [word64?, h]

theorem real?_of_rejected (h : view.accepts idx v = false) : view.real? idx v = none := by
  simp [real?, h]

theorem string?_of_rejected (h : view.accepts idx v = false) : view.string? idx v = none := by
  simp [string?, h]

/-- No reading is of the kind of the metric. -/
def Rejects (view : ImportView) (idx : Nat) (readings : List Reading) : Prop :=
  ∀ r ∈ readings, view.accepts idx r.2 = false

end ImportView

namespace GroupSpec

variable {view : ImportView} {idx : Nat} {readings : List Reading}

theorem changeAll_of_rejected {change : Reading → Option (Activities → Activities)}
    (h : view.Rejects idx readings)
    (hchange : ∀ number v, view.accepts idx v = false → change (number, v) = none) :
    changeAll change readings = id :=
  changeAll_of_none fun (number, v) hr => hchange number v (h (number, v) hr)

theorem absorbSingle_of_rejected {k : Single} {s : Slot}
    {change : Reading → Option (k.Rec → k.Rec)} (h : view.Rejects idx readings)
    (hchange : ∀ number v, view.accepts idx v = false → change (number, v) = none) :
    absorbSingle k s change readings = id := by
  rw [absorbSingle_eq_changeAll]
  exact changeAll_of_rejected h fun number v hv => by rw [hchange number v hv, Option.map_none]

theorem rejects_take (h : view.Rejects idx readings) : view.Rejects idx (readings.take 1) :=
  fun r hr => h r (List.mem_of_mem_take hr)

theorem host_of_rejected (h : view.Rejects idx readings) : host.absorb view idx readings = id := by
  funext acts
  cases readings with
  | nil => rfl
  | cons r readings =>
    have hr := h r List.mem_cons_self
    exact absorb_host_of_skip fun haccepts => absurd haccepts (by simp [hr])

theorem flat_of_rejected {name : String} {k : Single} {counters : List (Counter k.Rec)}
    {rows : List Row} (h : view.Rejects idx readings) :
    (flat name k counters rows).absorb view idx readings = id :=
  absorbSingle_of_rejected (rejects_take h) fun _ v hv => by simp [hv]

theorem uptime_of_rejected (h : view.Rejects idx readings) : uptime.absorb view idx readings = id :=
  absorbSingle_of_rejected (k := .record) (rejects_take h) fun _ v hv => by
    simp only [ImportView.real?_of_rejected hv, Option.map_none]

theorem memory_of_rejected (h : view.Rejects idx readings) : memory.absorb view idx readings = id :=
  absorbSingle_of_rejected (k := .memory) (rejects_take h) fun _ v hv => by
    simp only [ImportView.word64?_of_rejected hv]

theorem hugePages_of_rejected (h : view.Rejects idx readings) :
    hugePages.absorb view idx readings = id :=
  absorbSingle_of_rejected (k := .huge) (rejects_take h) fun _ v hv => by
    simp only [ImportView.word64?_of_rejected hv]

theorem runQueue_of_rejected (h : view.Rejects idx readings) :
    runQueue.absorb view idx readings = id := by
  refine absorbSingle_of_rejected (k := .queue) h fun number v hv => ?_
  dsimp only
  rw [ImportView.word32?_of_rejected hv, ImportView.word64?_of_rejected hv,
    ImportView.real?_of_rejected hv]
  split <;> rfl

theorem nfsClient_of_rejected (h : view.Rejects idx readings) :
    nfsClient.absorb view idx readings = id :=
  absorbSingle_of_rejected (k := .nfs) h fun _ v hv => by
    simp only [ImportView.word32?_of_rejected hv, Option.map_none]

theorem nfsServer_of_rejected (h : view.Rejects idx readings) :
    nfsServer.absorb view idx readings = id :=
  absorbSingle_of_rejected (k := .nfsd) h fun _ v hv => by
    simp only [ImportView.word64?_of_rejected hv, Option.map_none]

theorem pressureChange?_of_rejected {number : Option Int} {v : Value}
    (h : view.accepts idx v = false) : pressureChange? view idx (number, v) = none := by
  unfold pressureChange?
  dsimp only
  rw [ImportView.real?_of_rejected h, ImportView.word64?_of_rejected h]
  split <;> rfl

theorem keyed_of_rejected {k : Multi} {g : Keyed k} (h : view.Rejects idx readings) :
    g.spec.absorb view idx readings = id := by
  rw [g.absorb_eq]
  refine changeAll_of_rejected h fun number v hv => ?_
  unfold Keyed.change?
  rw [ImportView.word64?_of_rejected hv]
  simp

theorem columns_of_rejected {k : Multi} {columns : List (UnitColumn k.Rec)}
    (h : view.Rejects idx readings) : absorbColumns k columns view idx readings = id := by
  rw [absorbColumns_eq_changeAll]
  refine changeAll_of_rejected h fun number v hv => ?_
  rw [columnOf?, ImportView.word64?_of_rejected hv]
  simp

theorem cpuClock_of_rejected (h : view.Rejects idx readings) :
    cpuClock.absorb view idx readings = id := by
  refine (absorbUnits_eq_changeAll .cpufreq view 0 idx (clockOf? view idx) readings).trans ?_
  refine changeAll_of_rejected h fun number v hv => ?_
  rw [clockOf?, ImportView.real?_of_rejected hv]
  simp

theorem interrupts_of_rejected (h : view.Rejects idx readings) :
    interrupts.absorb view idx readings = id := by
  rw [absorb_interrupts]
  refine changeAll_of_rejected h fun number v hv => ?_
  rw [countOf?, ImportView.word64?_of_rejected hv]
  rfl

theorem sensor_of_rejected {k : Multi} {g : Sensor k}
    (hchange : ∀ number v, view.accepts idx v = false → g.change? view idx (number, v) = none)
    (h : view.Rejects idx readings) : g.spec.absorb view idx readings = id := by
  rw [g.absorb_eq]
  refine changeAll_of_rejected h fun number v hv => ?_
  rw [Sensor.place?, hchange number v hv]
  simp

theorem changeBattery?_of_rejected {number : Option Int} {v : Value}
    (h : view.accepts idx v = false) : changeBattery? view idx (number, v) = none := by
  unfold changeBattery?
  rw [ImportView.word32?_of_rejected h, ImportView.string?_of_rejected h]
  by_cases hidx : idx = 0
  · rw [if_pos hidx]
    rfl
  · rw [if_neg hidx]
    rfl

end GroupSpec

namespace Group

open GroupSpec

/-- Values of another kind than that of their metric change nothing. -/
theorem absorb_of_rejected (g : Group) {view : ImportView} {idx : Nat} {readings : List Reading}
    (h : view.Rejects idx readings) : g.spec.absorb view idx readings = id := by
  cases g with
  | fileHeader => exact host_of_rejected h
  | recordHeader => exact uptime_of_rejected h
  | cpu | softnet => exact columns_of_rejected h
  | cpuClock => exact cpuClock_of_rejected h
  | interrupts => exact interrupts_of_rejected h
  | memory => exact memory_of_rejected h
  | hugePages => exact hugePages_of_rejected h
  | runQueue => exact runQueue_of_rejected h
  | nfsClient => exact nfsClient_of_rejected h
  | nfsServer => exact nfsServer_of_rejected h
  | cpuPressure | ioPressure | memoryPressure =>
    exact absorbSingle_of_rejected h fun _ _ hv => pressureChange?_of_rejected hv
  | disks | interfaces | interfaceErrors | serialLines | filesystems | fcHosts =>
    exact keyed_of_rejected h
  | fans | temperatures | voltages | usbDevices =>
    refine sensor_of_rejected (fun number v hv => ?_) h
    simp only [GroupSpec.fans, GroupSpec.temperatures, GroupSpec.voltages, GroupSpec.usbDevices,
      ImportView.word32?_of_rejected hv, ImportView.word64?_of_rejected hv,
      ImportView.real?_of_rejected hv, ImportView.string?_of_rejected hv]
    split <;> rfl
  | batteries => exact sensor_of_rejected (fun _ _ hv => changeBattery?_of_rejected hv) h
  | taskSwitches | swap | paging | blockIo | kernelTables | sockets | ip | ipErrors | icmp
  | icmpErrors | tcp | tcpErrors | udp | sockets6 | ip6 | ip6Errors | icmp6 | icmp6Errors
  | udp6 => exact flat_of_rejected h

end Group

namespace GroupSpec

variable {view : ImportView} {idx : Nat} {m : Descriptor} {d : DomainId} {n : Int} {v : Value}
  {before after : List Reading}

theorem label?_of_domain (hm : view.metrics[idx]? = some m) (hdomain : m.domain = some d) :
    view.label? idx (some n) = view.registry.label? d n := by
  simp [ImportView.label?, hm, hdomain]

theorem keyed_without {k : Multi} {g : Keyed k} (h : view.label? idx (some n) = none) :
    g.spec.absorb view idx (before ++ (some n, v) :: after) =
      g.spec.absorb view idx (before ++ after) := by
  rw [g.absorb_eq, g.absorb_eq]
  refine changeAll_without ?_
  unfold Keyed.change?
  rw [h]
  simp

theorem unitOf?_of_unlabelled {half : Nat} (hidx : half ≤ idx)
    (h : view.label? idx (some n) = none) :
    unitOf? view half idx (some n) = none := by
  rw [unitOf?, if_neg (by omega), h]
  rfl

theorem columns_without {k : Multi} {columns : List (UnitColumn k.Rec)}
    (hidx : columns.length ≤ idx) (h : view.label? idx (some n) = none) :
    absorbColumns k columns view idx (before ++ (some n, v) :: after) =
      absorbColumns k columns view idx (before ++ after) := by
  rw [absorbColumns_eq_changeAll, absorbColumns_eq_changeAll]
  refine changeAll_without ?_
  rw [columnOf?, unitOf?_of_unlabelled hidx h]
  simp

/-- The metrics of the aggregate have no instances. -/
theorem length_le_of_domain {R : Type} {cluster : UInt32} {all each : String} {unit : MetricUnit}
    {columns : List (UnitColumn R)}
    (hm : (unitMetrics cluster all each unit columns)[idx]? = some m)
    (hdomain : m.domain = some d) : columns.length ≤ idx := by
  by_contra hidx
  rw [unitMetrics, List.getElem?_append_left (by simpa using hidx), List.getElem?_map] at hm
  obtain ⟨c, -, rfl⟩ := Option.map_eq_some_iff.mp hm
  cases hdomain

theorem cpuClock_without (h : view.label? idx (some n) = none) :
    cpuClock.absorb view idx (before ++ (some n, v) :: after) =
      cpuClock.absorb view idx (before ++ after) := by
  refine (absorbUnits_eq_changeAll .cpufreq view 0 idx (clockOf? view idx) _).trans
    (Eq.trans (changeAll_without ?_)
      (absorbUnits_eq_changeAll .cpufreq view 0 idx (clockOf? view idx) _).symm)
  rw [unitOf?_of_unlabelled (Nat.zero_le idx) h]
  rfl

theorem cellOf?_of_unlabelled (hidx : idx ≠ sumMetric) (h : view.label? idx (some n) = none) :
    cellOf? view idx (some n) = none := by
  rw [cellOf?, if_neg hidx, h]
  split <;> rfl

theorem interrupts_without (hidx : idx ≠ sumMetric) (h : view.label? idx (some n) = none) :
    interrupts.absorb view idx (before ++ (some n, v) :: after) =
      interrupts.absorb view idx (before ++ after) := by
  rw [absorb_interrupts, absorb_interrupts]
  refine changeAll_without ?_
  simp only [countOf?, cellOf?_of_unlabelled hidx h]
  cases view.word64? idx v <;> rfl

theorem setWindow?_of_unknown (hn : n ∉ Domain.pressureWindows.map (·.1)) (x : UInt64) :
    setWindow? (some n) x = none := by
  simp only [Domain.pressureWindows, List.map_cons, List.map_nil, List.mem_cons, List.not_mem_nil,
    or_false, not_or] at hn
  obtain ⟨h10, h60, h300⟩ := hn
  unfold setWindow?
  split <;> first | rfl | (rename_i he; cases he; contradiction)

theorem pressureChange?_of_unknown (hidx : idx = 0 ∨ idx = 2)
    (hn : n ∉ Domain.pressureWindows.map (·.1)) :
    pressureChange? view idx (some n, v) = none := by
  rcases hidx with rfl | rfl <;>
  · simp only [pressureChange?, setWindow?_of_unknown hn]
    cases view.real? _ v <;> rfl

theorem absorbSingle_without {k : Single} {s : Slot} {change : Reading → Option (k.Rec → k.Rec)}
    {r : Reading} (h : change r = none) :
    absorbSingle k s change (before ++ r :: after) = absorbSingle k s change (before ++ after) := by
  rw [absorbSingle_eq_changeAll, absorbSingle_eq_changeAll]
  exact changeAll_without (by rw [h, Option.map_none])

theorem sensor_without {k : Multi} {g : Sensor k} (hn : n < 0) :
    g.spec.absorb view idx (before ++ (some n, v) :: after) =
      g.spec.absorb view idx (before ++ after) := by
  rw [g.absorb_eq, g.absorb_eq]
  refine changeAll_without ?_
  rw [Sensor.place?, Sensor.position?, Option.bind_some, if_pos hn]
  rfl

end GroupSpec

namespace Group

open GroupSpec

/-- The numbers of instances that a group skips unless they are registered. -/
def skips : Group → Int → Prop
  | .cpu, _ | .softnet, _ | .cpuClock, _ | .interrupts, _ | .disks, _ | .interfaces, _
  | .interfaceErrors, _ | .serialLines, _ | .filesystems, _ | .fcHosts, _ => True
  | .cpuPressure, n | .ioPressure, n | .memoryPressure, n => n ∉ Domain.pressureWindows.map (·.1)
  | .fans, n | .temperatures, n | .voltages, n | .usbDevices, n | .batteries, n => n < 0
  | _, _ => False

section Unregistered

variable {g : Group} {registry : Registry} {s : Slot} {idx : Nat} {m : Descriptor} {d : DomainId}
  {n : Int}

/-- The averages of pressure are the metrics with instances. -/
theorem average_of_domain (hg : g = .cpuPressure ∨ g = .ioPressure ∨ g = .memoryPressure)
    (hm : g.metrics[idx]? = some m) (hdomain : m.domain = some d) : idx = 0 ∨ idx = 2 := by
  by_contra hidx
  rcases hg with rfl | rfl | rfl <;> rcases idx with _ | _ | _ | _ | idx <;>
    first
      | exact hidx (Or.inl rfl)
      | exact hidx (Or.inr rfl)
      | (cases hm; cases hdomain)
      | cases hm

/-- What is left of readings without that of an instance that is not registered. -/
theorem absorb_without (hskips : g.skips n) (hm : g.metrics[idx]? = some m)
    (hdomain : m.domain = some d) (hn : registry.label? d n = none) (before after : List Reading)
    (v : Value) :
    g.spec.absorb ⟨g.metrics, registry, s⟩ idx (before ++ (some n, v) :: after) =
      g.spec.absorb ⟨g.metrics, registry, s⟩ idx (before ++ after) := by
  have hlabel : (⟨g.metrics, registry, s⟩ : ImportView).label? idx (some n) = none :=
    (label?_of_domain hm hdomain).trans hn
  cases g with
  | cpu => exact columns_without (k := .cpu) (length_le_of_domain hm hdomain) hlabel
  | softnet => exact columns_without (k := .softnet) (length_le_of_domain hm hdomain) hlabel
  | cpuClock => exact cpuClock_without hlabel
  | interrupts =>
    refine interrupts_without (fun hidx => ?_) hlabel
    subst hidx
    cases hm
    cases hdomain
  | disks | interfaces | interfaceErrors | serialLines | filesystems | fcHosts =>
    exact keyed_without hlabel
  | cpuPressure =>
    have hidx := average_of_domain (by simp) hm hdomain
    exact absorbSingle_without (k := .psiCpu) (pressureChange?_of_unknown hidx hskips)
  | ioPressure =>
    have hidx := average_of_domain (by simp) hm hdomain
    exact absorbSingle_without (k := .psiIo) (pressureChange?_of_unknown hidx hskips)
  | memoryPressure =>
    have hidx := average_of_domain (by simp) hm hdomain
    exact absorbSingle_without (k := .psiMem) (pressureChange?_of_unknown hidx hskips)
  | fans | temperatures | voltages | usbDevices | batteries => exact sensor_without hskips
  | _ => exact hskips.elim

end Unregistered

end Group

end ActivityArchive
