import ActivityArchive.Proofs.Group.InterruptEmitting
import ActivityArchive.Proofs.Group.Metrics
import ActivityArchive.Proofs.Group.Requests
import ActivityArchive.Proofs.Selection.Members
import ActivityArchive.Proofs.Session.Runs

/-!
What a selection lets into the domains of instances. Disks, interfaces and filesystems have to pass
their filters, CPUs have to be selected and planned for (`Numbering.confined`). No group asks for
anything else, neither when it is defined nor when a sample is exported (`Group.spec_confined`), and
none asks for a metric of all CPUs together where these are left out (`Group.wanted_of_asked`).
-/
namespace ActivityArchive

open Record

namespace Config

/-- Whether a CPU is selected, counted from zero. -/
def SelectsCpu (c : Config) (cpu : Nat) : Prop := ∀ cpus, c.cpus = some cpus → cpu ∈ cpus

theorem Selects.selectsCpu {c : Config} {count i : Nat} (h : c.Selects count i) (hi : 1 ≤ i) :
    c.SelectsCpu (i - 1) := by
  intro cpus hcpus
  rcases h with ⟨rfl, -⟩ | h
  · omega
  · rw [hcpus] at h
    obtain ⟨cpu, hcpu, rfl⟩ := h
    exact hcpu

theorem Selects.includeAll {c : Config} {count : Nat} (h : c.Selects count 0) :
    c.includeAll = true := by
  rcases h with ⟨-, hall⟩ | h
  · exact hall
  · split at h
    · omega
    · obtain ⟨cpu, -, hcpu⟩ := h
      omega

end Config

theorem contains_of_isShown {idx : Nat} {selection offline : Bitmap}
    (h : isShown idx selection offline = true) : selection.contains idx = true :=
  (Bool.and_eq_true _ _ ▸ h).1

theorem le_foldl_max {A : Type} (size : A → Nat) (xs : List A) (n : Nat) :
    n ≤ xs.foldl (fun n x => max n (size x)) n :=
  List.foldlRecOn (motive := (n ≤ ·)) xs _ (Nat.le_refl n) fun _ hm _ _ =>
    Nat.le_trans hm (Nat.le_max_left _ _)

theorem le_longest_append (k : Multi) (seen more : List Sample) :
    longest k seen ≤ longest k (seen ++ more) := by
  unfold longest
  rw [List.foldl_append]
  exact le_foldl_max _ more _

theorem Archive.interruptRows_le_append (seen more : List Sample) :
    interruptRows seen ≤ interruptRows (seen ++ more) := by
  unfold interruptRows
  rw [List.foldl_append]
  exact le_foldl_max _ more _

/-- The largest number of records of CPUs in a sample, of whichever kind. -/
def Archive.cpuRows (samples : List Sample) : Nat :=
  max (longest .cpu samples) (max (longest .softnet samples) (longest .cpufreq samples))

namespace Numbering

variable {config : Config} {seen more : List Sample} {d : DomainId} {l : String} {n : Int}

/-- The instance of a CPU that is selected and planned for. -/
def OfCpu (config : Config) (seen : List Sample) (n : Int) (l : String) : Prop :=
  ∃ cpu : Nat, n = cpu ∧ l = Domain.cpuLabel cpu ∧ config.SelectsCpu cpu ∧
    cpu + 1 < Archive.cpuRows seen

/-- A line as a CPU sees it that is selected and planned for. -/
def OfLine (config : Config) (seen : List Sample) (l : String) : Prop :=
  ∃ line cpu, l = Domain.lineLabel line cpu ∧ config.SelectsCpu cpu ∧
    cpu + 1 < Archive.interruptRows seen

/-- The domains that a selection confines, and what it lets into them. -/
def confinement (config : Config) (seen : List Sample) :
    List (DomainId × (Int → String → Prop)) :=
  [ (Domain.disk, fun _ l => passes config.disks l),
    (Domain.interface, fun _ l => passes config.interfaces l),
    (Domain.filesystem, fun _ l => passes config.filesystems l),
    (Domain.perCpu, OfCpu config seen),
    (Domain.perCpuInterrupt, fun _ l => OfLine config seen l) ]

/-- The instances that a selection allows. -/
def confined (config : Config) (seen : List Sample) : Numbering := ofRules (confinement config seen)

def confinedDomains : List DomainId :=
  [Domain.disk, Domain.interface, Domain.filesystem, Domain.perCpu, Domain.perCpuInterrupt]

theorem map_confinement (config : Config) (seen : List Sample) :
    (confinement config seen).map (·.1) = confinedDomains := rfl

theorem confined_eq {R : Int → String → Prop} (h : (d, R) ∈ confinement config seen) :
    confined config seen d = R :=
  ofRules_eq (map_confinement config seen ▸ by decide) h

theorem confined_disk :
    confined config seen Domain.disk = fun _ l => passes config.disks l = true :=
  confined_eq List.mem_cons_self

theorem confined_interface :
    confined config seen Domain.interface = fun _ l => passes config.interfaces l = true :=
  confined_eq (by simp [confinement])

theorem confined_filesystem :
    confined config seen Domain.filesystem = fun _ l => passes config.filesystems l = true :=
  confined_eq (by simp [confinement])

theorem confined_perCpu : confined config seen Domain.perCpu = OfCpu config seen :=
  confined_eq (by simp [confinement])

theorem confined_perCpuInterrupt :
    confined config seen Domain.perCpuInterrupt = fun _ l => OfLine config seen l :=
  confined_eq (by simp [confinement])

theorem admits_free {num : Option Int} (h : d ∉ confinedDomains) :
    (confined config seen).Admits d l num := by
  have hfree : ∀ n, confined config seen d n l :=
    fun n => free_ofRules (map_confinement config seen ▸ h) n l
  cases num with
  | none => exact hfree
  | some n => exact hfree n

/-- More samples at definition allow more. -/
theorem confined_append (h : confined config seen d n l) :
    confined config (seen ++ more) d n l := by
  have hcpu : Archive.cpuRows seen ≤ Archive.cpuRows (seen ++ more) := by
    have hcpus := le_longest_append .cpu seen more
    have hsoftnets := le_longest_append .softnet seen more
    have hclocks := le_longest_append .cpufreq seen more
    simp only [Archive.cpuRows]
    omega
  have hrows := Archive.interruptRows_le_append seen more
  by_cases hd : d ∈ confinedDomains
  · simp only [confinedDomains, List.mem_cons, List.not_mem_nil, or_false] at hd
    rcases hd with rfl | rfl | rfl | rfl | rfl
    · rwa [confined_disk] at h ⊢
    · rwa [confined_interface] at h ⊢
    · rwa [confined_filesystem] at h ⊢
    · rw [confined_perCpu] at h ⊢
      obtain ⟨cpu, hn, hl, hselected, hlt⟩ := h
      exact ⟨cpu, hn, hl, hselected, by omega⟩
    · rw [confined_perCpuInterrupt] at h ⊢
      obtain ⟨line, cpu, hl, hselected, hlt⟩ := h
      exact ⟨line, cpu, hl, hselected, by omega⟩
  · exact free_ofRules (map_confinement config (seen ++ more) ▸ hd) n l

end Numbering

/-- Activities planned for the samples seen, with nothing selected that the configuration does not
select among them. -/
structure Activities.Within (config : Config) (seen : List Sample) (a : Activities) : Prop where
  count : ∀ k, (a.multi k).count = longest k seen
  rows : a.irq.count = Archive.interruptRows seen
  selected : ∀ k i, (a.multi k).selection.contains i = true → config.Selects (longest k seen) i
  selectedRows : ∀ i, a.irq.selection.contains i = true →
    config.Selects (Archive.interruptRows seen) i

theorem Activities.Within.later {config : Config} {seen : List Sample} {a b : Activities}
    (h : a.Within config seen) (hlater : a.Later b) : b.Within config seen where
  count k := (hlater.count k).trans (h.count k)
  rows := (congrArg (·.getD 0) hlater.irq.planned).trans h.rows
  selected k i hi := h.selected k i ((hlater.multi k).2 ▸ hi)
  selectedRows i hi := h.selectedRows i (hlater.irq.selection ▸ hi)

namespace GroupSpec

open Numbering

/-- A group that asks for nothing but what the selection allows. -/
structure Confined (g : GroupSpec) : Prop where
  define : ∀ view seen, view.acts.Within view.config seen → ∀ d l num,
    .entry d l num ∈ g.define view → (confined view.config seen).Admits d l num
  emit : ∀ view seen, view.acts.Within view.config seen →
    view.acts.irq.grid.Sized → ∀ d l num,
    .entry d l num ∈ (g.emit view).2 → (confined view.config seen).Admits d l num

variable {g : GroupSpec} {config : Config} {seen : List Sample} {d : DomainId} {l : String}
  {num : Option Int} {idx : Nat}

theorem Writes.confined {k : Single} {F : Writer k} (h : g.Writes k F)
    (hF : ∀ isDefined r d l num, .entry d l num ∉ F isDefined r)
    (hdef : ∀ view d l num, .entry d l num ∈ g.define view → d ∉ confinedDomains) :
    g.Confined where
  define view seen _ d l num he := admits_free (hdef view d l num he)
  emit view seen _ _ d l num he := by
    rw [h.emit] at he
    cases hr : single? view k with
    | none => simp [hr] at he
    | some r => exact absurd (by simpa [hr] using he) (hF view.isDefined r d l num)

theorem free_bare (ht : ∀ view, g.define view = [.table]) (view : DefineView) (d : DomainId)
    (l : String) (num : Option Int) (he : .entry d l num ∈ g.define view) :
    d ∉ confinedDomains := by
  simp [ht] at he

theorem free_fixed {domain : DomainId} {entries : List Entry} (hd : domain ∉ confinedDomains)
    (ht : ∀ view, g.define view = .table :: fixed domain entries) (view : DefineView)
    (d : DomainId)
    (l : String) (num : Option Int) (he : .entry d l num ∈ g.define view) :
    d ∉ confinedDomains := by
  rw [ht] at he
  obtain ⟨x, -, he⟩ := List.mem_map.mp (List.mem_of_ne_of_mem (by simp) he)
  cases he
  exact hd

theorem Writes.confined_singular {k : Single} {values : k.Rec → List Value}
    (h : g.Writes k fun _ r => singular 0 (values r)) (ht : ∀ view, g.define view = [.table]) :
    g.Confined :=
  h.confined (fun _ _ _ _ _ => no_entry_singular) (free_bare ht)

theorem Writes.confined_fixed {k : Single} {values amounts : k.Rec → List Value} {n : Nat}
    {domain : DomainId} {entries : List Entry}
    (h : g.Writes k fun _ r => singular 0 (values r) ++ emitFixed n entries (amounts r))
    (hd : domain ∉ confinedDomains)
    (ht : ∀ view, g.define view = .table :: fixed domain entries) :
    g.Confined := by
  refine h.confined (fun _ r d l num he => ?_) (free_fixed hd ht)
  rcases List.mem_append.mp he with he | he
  · exact no_entry_singular he
  · exact no_entry_emitFixed he

theorem pressure_confined {k : Single} {F : k.Rec → List Emission} (h : g.Writes k fun _ => F)
    (ht : ∀ view, g.define view = .table :: fixed Domain.pressure Domain.pressureWindows)
    (hF : ∀ r d l num, .entry d l num ∉ F r) : g.Confined :=
  h.confined (fun _ => hF) (free_fixed (by decide) ht)

theorem memory_confined : memory.Confined := by
  refine memory_writes.confined (fun _ m d l num he => ?_) fun view d l num he => ?_
  · exact no_entry_singular (List.mem_filter.mp he).1
  · simp [memory] at he

theorem host_confined : host.Confined where
  define view seen _ d l num he := admits_free (free_bare (fun _ => rfl) view d l num he)
  emit view _ _ _ d l num he := by
    unfold host at he
    dsimp only at he
    split at he
    · exact absurd he no_entry_singular
    · simp at he

/-- Items are asked for by the labels that are shown. -/
theorem keyed_confined {k : Multi} (g : Keyed k)
    (h : ∀ config seen r label, g.shown? config r = some label →
      (confined config seen).Admits g.domain label (g.number r)) : g.spec.Confined where
  define view seen _ d l num he := by
    obtain ⟨r, -, hr⟩ := List.mem_filterMap.mp (List.mem_of_ne_of_mem (by simp) he)
    obtain ⟨label, hlabel, he⟩ := Option.map_eq_some_iff.mp hr
    cases he
    exact h view.config seen r _ hlabel
  emit view seen _ _ d l num he := by
    obtain ⟨r, -, he⟩ := List.mem_flatMap.mp he
    unfold Keyed.emissions at he
    split at he
    · rename_i label hlabel
      rcases List.mem_cons.mp he with he | he
      · cases he
        exact h view.config seen r _ hlabel
      · simp at he
    · simp at he

theorem sensor_confined {k : Multi} (g : Sensor k) (hd : g.domain ∉ confinedDomains) :
    g.spec.Confined where
  define view seen _ d l num he := by
    obtain ⟨sample, _, he⟩ := List.mem_flatMap.mp (List.mem_of_ne_of_mem (by simp) he)
    obtain ⟨i, _, he⟩ := List.mem_mapIdx.mp he
    cases he
    exact admits_free hd
  emit view seen _ _ d l num he := by
    obtain ⟨es, hes, he⟩ := List.mem_flatten.mp he
    obtain ⟨i, _, rfl⟩ := List.mem_mapIdx.mp hes
    rcases List.mem_cons.mp he with he | he
    · cases he
      exact admits_free hd
    · simp [ofInstance, List.mem_mapIdx] at he

/-- The instance of a CPU with a record of any kind. -/
theorem admits_cpuEntry {k : Multi} (hk : longest k seen ≤ Archive.cpuRows seen)
    (hpos : 1 ≤ idx)
    (hlt : idx < longest k seen) (hselected : config.Selects (longest k seen) idx) :
    (confined config seen).Admits (cpuEntry idx).1 (cpuEntry idx).2.1 (cpuEntry idx).2.2 := by
  show confined config seen Domain.perCpu _ _
  rw [confined_perCpu]
  exact ⟨idx - 1, rfl, rfl, hselected.selectsCpu hpos, by omega⟩

theorem define_confined_halves {half size : Nat} {k : Multi} {view : DefineView}
    (h : view.acts.Within view.config seen) (hk : longest k seen ≤ Archive.cpuRows seen)
    (he : .entry d l num ∈
      defineHalves half size (view.acts.multi k).count (view.acts.multi k).selection) :
    (confined view.config seen).Admits d l num := by
  simp only [defineHalves, List.mem_append] at he
  rcases he with (he | he) | he
  · split at he <;> simp at he
  · split at he <;> simp at he
  · obtain ⟨idx, hidx, he⟩ := List.mem_map.mp he
    cases he
    obtain ⟨hrange, hcontains⟩ := List.mem_filter.mp hidx
    rw [List.mem_range'_1, h.count k] at hrange
    exact admits_cpuEntry hk hrange.1 (by omega) (h.selected k idx hcontains)

theorem emit_confined_half {view : ExportView} {k : Multi} {width : Nat} {values : List Value}
    (hk : longest k seen ≤ Archive.cpuRows seen) (hlt : idx < longest k seen)
    (hselected : config.Selects (longest k seen) idx)
    (he : .entry d l num ∈ emitHalf view width idx values) :
    (confined config seen).Admits d l num := by
  unfold emitHalf at he
  split at he
  · split at he
    · exact absurd he no_entry_singular
    · simp at he
  · split at he
    · rcases List.mem_cons.mp he with he | he
      · cases he
        exact admits_cpuEntry hk (by omega) hlt hselected
      · simp [ofInstance, List.mem_mapIdx] at he
    · simp at he

/-- The records shown are selected among those planned for. -/
theorem selected_of_shown {R : Type} {a : Activity R} {record : Nat → Except BufferError R}
    {rs : List (Nat × R)} (h : shown a record = .ok rs) {x : Nat × R} (hx : x ∈ rs) :
    x.1 < a.count ∧ a.selection.contains x.1 = true := by
  obtain ⟨idx, hidx, hrecord⟩ := exists_of_mapM_ok h x hx
  obtain ⟨hlt, hshown⟩ := List.mem_filter.mp hidx
  rcases hr : record idx with e | r <;> rw [hr] at hrecord <;> cases hrecord
  exact ⟨List.mem_range.mp hlt, contains_of_isShown hshown⟩

theorem emit_confined_units {view : ExportView} {k : Multi} {a : Activity k.Rec} {width : Nat}
    {values : k.Rec → List Value} {record : Nat → Except BufferError k.Rec}
    (h : view.acts.Within view.config seen) (hk : longest k seen ≤ Archive.cpuRows seen)
    (ha : Prepares (view.acts.multi k) a)
    (he : .entry d l num ∈ emitUnits view width values (shown a record)) :
    (confined view.config seen).Admits d l num := by
  rcases hshown : shown a record with e | rs <;> rw [hshown] at he
  · simp [emitUnits] at he
  · obtain ⟨x, hx, he⟩ := List.mem_flatMap.mp he
    obtain ⟨hlt, hcontains⟩ := selected_of_shown hshown hx
    have hcount : a.count = longest k seen := (congrArg (·.getD 0) ha.planned).trans (h.count k)
    rw [ha.selection] at hcontains
    exact emit_confined_half hk (hcount ▸ hlt) (h.selected k x.1 hcontains) he

theorem cpu_confined : cpu.Confined where
  define view seen h d l num he :=
    define_confined_halves (k := .cpu) h (Nat.le_max_left _ _) he
  emit view seen h _ d l num he := by
    unfold cpu at he
    dsimp only at he
    split at he
    · simp at he
    · exact emit_confined_units (k := .cpu) h (Nat.le_max_left _ _) (prepareCpu_prepares _ _) he

theorem softnet_confined : softnet.Confined where
  define view seen h d l num he :=
    define_confined_halves (k := .softnet) h (by unfold Archive.cpuRows; omega) he
  emit view seen h _ d l num he := by
    unfold softnet at he
    dsimp only at he
    split at he
    · simp at he
    · exact emit_confined_units (k := .softnet) h (by unfold Archive.cpuRows; omega)
        (prepareSoftnet_prepares _ _) he

theorem cpuClock_confined : cpuClock.Confined where
  define view seen h d l num he :=
    define_confined_halves (k := .cpufreq) h (by unfold Archive.cpuRows; omega) he
  emit view seen h _ d l num he := by
    obtain ⟨⟨r, idx⟩, hx, he⟩ := List.mem_flatMap.mp he
    obtain ⟨hmem, hcontains⟩ := List.mem_filter.mp hx
    obtain ⟨hpos, hget⟩ := mem_drop_zipIdx hmem
    have hlt := (List.getElem?_eq_some_iff.mp hget).1
    have hcount : view.acts.cpufreq.count = longest .cpufreq seen := h.count .cpufreq
    rw [List.length_take] at hlt
    rcases List.mem_cons.mp he with he | he
    · cases he
      exact admits_cpuEntry (k := .cpufreq) (by unfold Archive.cpuRows; omega) hpos (by omega)
        (h.selected .cpufreq idx hcontains)
    · simp at he

theorem admits_cell {cpu : Nat} {name : String} (hpos : 1 ≤ cpu)
    (hlt : cpu < Archive.interruptRows seen)
    (hselected : config.Selects (Archive.interruptRows seen) cpu) :
    (confined config seen).Admits Domain.perCpuInterrupt
      (Domain.lineLabel name (cpu - 1)) none := by
  intro n
  rw [confined_perCpuInterrupt]
  exact ⟨name, cpu - 1, rfl, hselected.selectsCpu hpos, by omega⟩

theorem emit_confined_cell {isDefined : Nat → Bool} {cpu line : Nat} {name : String}
    {count : UInt64} (hlt : cpu < Archive.interruptRows seen)
    (hselected : config.Selects (Archive.interruptRows seen) cpu)
    (he : .entry d l num ∈ cellEmissions isDefined cpu line name count) :
    (confined config seen).Admits d l num := by
  unfold cellEmissions at he
  split at he
  · split at he
    · split at he <;> simp at he
    · split at he
      · rcases List.mem_cons.mp he with he | he
        · cases he
          exact admits_free (by decide)
        · simp at he
      · simp at he
  · split at he
    · rcases List.mem_cons.mp he with he | he
      · cases he
        exact admits_cell (by omega) hlt hselected
      · simp at he
    · simp at he

theorem interrupts_confined : interrupts.Confined where
  define view seen h d l num he := by
    simp only [interrupts, defineInterrupts, List.mem_append] at he
    rcases he with (he | he) | he
    · split at he
      · rcases List.mem_append.mp he with he | he
        · simp at he
        · obtain ⟨line, -, he⟩ := List.mem_map.mp he
          cases he
          exact admits_free (by decide)
      · simp at he
    · split at he <;> simp at he
    · obtain ⟨cpu, hcpu, he⟩ := List.mem_flatMap.mp he
      obtain ⟨line, -, he⟩ := List.mem_map.mp he
      obtain ⟨hrange, hcontains⟩ := List.mem_filter.mp hcpu
      rw [List.mem_range'_1, h.rows] at hrange
      cases he
      exact admits_cell hrange.1 (by omega) (h.selectedRows cpu hcontains)
  emit view seen h hsized d l num he := by
    rcases emit_interrupts view hsized with hem | ⟨b, rows, -, hrows, hem⟩ <;> rw [hem] at he
    · simp at he
    · obtain ⟨x, hx, he⟩ := List.mem_flatMap.mp he
      obtain ⟨y, -, he⟩ := List.mem_flatMap.mp he
      obtain ⟨hlt, hcontains⟩ := hrows x hx
      exact emit_confined_cell (h.rows ▸ hlt) (h.selectedRows x.1 hcontains) he

end GroupSpec

namespace Group

open GroupSpec Numbering

theorem spec_confined (g : Group) : g.spec.Confined := by
  cases g with
  | fileHeader => exact host_confined
  | recordHeader => exact uptime_writes.confined_singular fun _ => rfl
  | cpu => exact cpu_confined
  | softnet => exact softnet_confined
  | cpuClock => exact cpuClock_confined
  | interrupts => exact interrupts_confined
  | memory => exact memory_confined
  | hugePages => exact hugePages_writes.confined_singular fun _ => rfl
  | runQueue => exact runQueue_writes.confined_fixed (by decide) fun _ => rfl
  | nfsClient => exact nfsClient_writes.confined_fixed (by decide) fun _ => rfl
  | nfsServer => exact nfsServer_writes.confined_fixed (by decide) fun _ => rfl
  | cpuPressure =>
    exact pressure_confined cpuPressure_writes (fun _ => rfl) fun _ _ _ _ => no_entry_emitPressure
  | ioPressure =>
    exact pressure_confined ioPressure_writes (fun _ => rfl) fun _ _ _ _ => no_entry_emitBoth
  | memoryPressure =>
    exact pressure_confined memoryPressure_writes (fun _ => rfl) fun _ _ _ _ => no_entry_emitBoth
  | disks =>
    refine keyed_confined _ fun config seen r label h n => ?_
    rw [show GroupSpec.disks.domain = Domain.disk from rfl, confined_disk]
    exact (Keyed.label_of_shown h).2
  | interfaces | interfaceErrors =>
    refine keyed_confined _ fun config seen r label h n => ?_
    show confined config seen Domain.interface n label
    rw [confined_interface]
    exact (Keyed.label_of_shown h).2
  | filesystems =>
    refine keyed_confined _ fun config seen r label h n => ?_
    show confined config seen Domain.filesystem n label
    rw [confined_filesystem]
    exact (Keyed.label_of_shown h).2
  | serialLines | fcHosts => exact keyed_confined _ fun _ _ _ _ _ => admits_free (by decide)
  | fans | temperatures | voltages | usbDevices | batteries => exact sensor_confined _ (by decide)
  | taskSwitches | swap | paging | blockIo | kernelTables | sockets | ip | ipErrors | icmp
  | icmpErrors | tcp | tcpErrors | udp | sockets6 | ip6 | ip6Errors | icmp6 | icmp6Errors
  | udp6 => exact (flat_writes _ _ _ _).confined_singular fun _ => rfl

/-- The metrics of all CPUs together: the first halves of the catalogs of CPUs, and the totals of
the interrupts. -/
def globalMetrics : List Descriptor :=
  cpu.metrics.take 11 ++ softnet.metrics.take 6 ++ interrupts.metrics.take 2

example : (globalMetrics.drop 9).map (·.name) =
    ["kernel.all.cpu.guest", "kernel.all.cpu.guest_nice", "network.softnet.processed",
      "network.softnet.dropped", "network.softnet.time_squeeze", "network.softnet.received_rps",
      "network.softnet.flow_limit", "network.softnet.backlog_length", "kernel.all.intr",
      "kernel.all.interrupts.total"] := by decide

/-- Whether a configuration has a use for a metric. -/
def Wanted (config : Config) (d : Descriptor) : Prop :=
  d.id ∈ globalMetrics.map (·.id) → config.includeAll = true

theorem place_of_global {m : Descriptor} (h : m ∈ globalMetrics) :
    ∃ (g : Group) (idx : Nat), g.metrics[idx]? = some m ∧
      (g = cpu ∧ idx < 11 ∨ g = softnet ∧ idx < 6 ∨ g = interrupts ∧ idx < 2) := by
  have hplace : ∀ {g : Group} {n : Nat}, m ∈ g.metrics.take n →
      ∃ idx, g.metrics[idx]? = some m ∧ idx < n := by
    intro g n hm
    obtain ⟨idx, hidx⟩ := List.mem_iff_getElem?.mp hm
    rw [List.getElem?_take] at hidx
    split at hidx
    · exact ⟨idx, hidx, ‹_›⟩
    · cases hidx
  rcases List.mem_append.mp h with h | h
  · rcases List.mem_append.mp h with h | h
    · obtain ⟨idx, hget, hlt⟩ := hplace h
      exact ⟨cpu, idx, hget, Or.inl ⟨rfl, hlt⟩⟩
    · obtain ⟨idx, hget, hlt⟩ := hplace h
      exact ⟨softnet, idx, hget, Or.inr (Or.inl ⟨rfl, hlt⟩)⟩
  · obtain ⟨idx, hget, hlt⟩ := hplace h
    exact ⟨interrupts, idx, hget, Or.inr (Or.inr ⟨rfl, hlt⟩)⟩

theorem wanted_of_asked {g : Group} (view : DefineView) {seen : List Sample} {idx : Nat}
    {d : Descriptor} (hw : view.acts.Within view.config seen) (hidx : idx ∈ g.spec.asked view)
    (hd : g.metrics[idx]? = some d) : Wanted view.config d := by
  intro hglobal
  obtain ⟨m, hm, hid⟩ := List.mem_map.mp hglobal
  obtain ⟨g', idx', hget, hplace⟩ := place_of_global hm
  have hsame : some (g', idx') = some (g, idx) := by
    rw [← find?_metric hget, ← find?_metric hd, hid]
  cases hsame
  rcases hplace with ⟨rfl, hlt⟩ | ⟨rfl, hlt⟩ | ⟨rfl, hlt⟩
  · rcases (asked_halves (g := GroupSpec.cpu) rfl (by decide)).mp hidx with ⟨hzero, -⟩
      | ⟨-, hle, -⟩
    · exact (hw.selected .cpu 0 hzero).includeAll
    · omega
  · rcases (asked_halves (g := GroupSpec.softnet) rfl (by decide)).mp hidx with
      ⟨hzero, -⟩ | ⟨-, hle, -⟩
    · exact (hw.selected .softnet 0 hzero).includeAll
    · omega
  · have htotal : idx = sumMetric ∨ idx = lineMetric := by
      simp only [sumMetric, lineMetric]
      omega
    exact (hw.selectedRows 0 ((asked_totals view htotal).mp hidx)).includeAll

end Group

end ActivityArchive
