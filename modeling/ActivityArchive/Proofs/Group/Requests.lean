import ActivityArchive.Proofs.Group.SelfContained
import ActivityArchive.Proofs.Instance.Rules

/-!
The instances that groups ask for keep to the rules of their domains, when they are defined as well
as when a sample is exported. The batteries are the one group for which this depends on the samples.
-/
namespace ActivityArchive.GroupSpec

open Numbering

/-- Every instance that a group asks for is accepted. -/
structure KeepsTo (N : Numbering) (g : GroupSpec) : Prop where
  define : ∀ view d l num, .entry d l num ∈ g.define view → N.Accepts (d, l, num)
  emit : ∀ view, view.acts.irq.grid.Sized →
    ∀ d l num, .entry d l num ∈ (g.emit view).2 → N.Accepts (d, l, num)

variable {B : Int → String → Prop} {g : GroupSpec}

theorem no_entry_singular {start : Nat} {values : List Value} {d : DomainId} {l : String}
    {num : Option Int} : .entry d l num ∉ singular start values := by
  simp [singular, List.mem_mapIdx]

theorem no_entry_emitFixed {idx : Nat} {entries : List Entry} {values : List Value} {d : DomainId}
    {l : String} {num : Option Int} : .entry d l num ∉ emitFixed idx entries values := by
  simp [emitFixed]

theorem no_entry_emitPressure {idx : Nat} {avg : Window} {total : UInt64} {d : DomainId}
    {l : String} {num : Option Int} : .entry d l num ∉ emitPressure idx avg total := by
  simp [emitPressure, no_entry_emitFixed]

theorem Writes.keepsTo {k : Single} {F : Writer k} {N : Numbering} (h : g.Writes k F)
    (hF : ∀ isDefined r d l num, .entry d l num ∉ F isDefined r)
    (hdef : ∀ view d l num, .entry d l num ∈ g.define view → N.Accepts (d, l, num)) :
    g.KeepsTo N where
  define := hdef
  emit view _ d l num he := by
    rw [h.emit] at he
    cases hr : single? view k with
    | none => simp [hr] at he
    | some r => exact absurd (by simpa [hr] using he) (hF view.isDefined r d l num)

theorem define_bare {N : Numbering} (ht : ∀ view, g.define view = [.table]) (view : DefineView)
    (d : DomainId) (l : String) (num : Option Int) (he : .entry d l num ∈ g.define view) :
    N.Accepts (d, l, num) := by
  simp [ht] at he

theorem define_fixed {domain : DomainId} {entries : List Entry}
    (hr : (domain, listed entries) ∈ rules)
    (ht : ∀ view, g.define view = .table :: fixed domain entries) (view : DefineView)
    (d : DomainId) (l : String) (num : Option Int) (he : .entry d l num ∈ g.define view) :
    (withBatteries B).Accepts (d, l, num) := by
  rw [ht] at he
  obtain ⟨x, hx, he⟩ := List.mem_map.mp (List.mem_of_ne_of_mem (by simp) he)
  cases he
  exact accepts_ruled hr hx

theorem accepts_cpuEntry (idx : Nat) : (withBatteries B).Accepts (cpuEntry idx) :=
  accepts_ruled (R := paired (fun cpu : Nat => (cpu : Int)) Domain.cpuLabel) (by simp [rules])
    ⟨idx - 1, rfl, rfl⟩

theorem define_halves {half size : Nat} {count : DefineView → Nat}
    {selection : DefineView → Bitmap}
    (ht : ∀ view, g.define view = defineHalves half size (count view) (selection view))
    (view : DefineView) (d : DomainId) (l : String) (num : Option Int)
    (he : .entry d l num ∈ g.define view) : (withBatteries B).Accepts (d, l, num) := by
  rw [ht] at he
  simp only [defineHalves, List.mem_append] at he
  rcases he with (he | he) | he
  · split at he <;> simp at he
  · split at he <;> simp at he
  · obtain ⟨idx, _, he⟩ := List.mem_map.mp he
    cases he
    exact accepts_cpuEntry idx

theorem emit_half {view : ExportView} {width idx : Nat} {values : List Value} {d : DomainId}
    {l : String} {num : Option Int} (he : .entry d l num ∈ emitHalf view width idx values) :
    (withBatteries B).Accepts (d, l, num) := by
  unfold emitHalf at he
  split at he
  · split at he
    · exact absurd he no_entry_singular
    · simp at he
  · split at he
    · rcases List.mem_cons.mp he with he | he
      · cases he
        exact accepts_cpuEntry idx
      · simp [ofInstance, List.mem_mapIdx] at he
    · simp at he

theorem emit_units {R : Type} {view : ExportView} {width : Nat} {values : R → List Value}
    {records : Except BufferError (List (Nat × R))} {d : DomainId} {l : String} {num : Option Int}
    (he : .entry d l num ∈ emitUnits view width values records) :
    (withBatteries B).Accepts (d, l, num) := by
  unfold emitUnits at he
  split at he
  · obtain ⟨r, _, he⟩ := List.mem_flatMap.mp he
    exact emit_half he
  · simp at he

theorem cpu_keepsTo : cpu.KeepsTo (withBatteries B) where
  define := define_halves fun _ => rfl
  emit view _ d l num he := by
    unfold cpu at he
    dsimp only at he
    split at he
    · simp at he
    · exact emit_units he

theorem softnet_keepsTo : softnet.KeepsTo (withBatteries B) where
  define := define_halves fun _ => rfl
  emit view _ d l num he := by
    unfold softnet at he
    dsimp only at he
    split at he
    · simp at he
    · exact emit_units he

theorem cpuClock_keepsTo : cpuClock.KeepsTo (withBatteries B) where
  define := define_halves fun _ => rfl
  emit view _ d l num he := by
    obtain ⟨⟨r, idx⟩, _, he⟩ := List.mem_flatMap.mp he
    rcases List.mem_cons.mp he with he | he
    · cases he
      exact accepts_cpuEntry idx
    · simp at he

theorem accepts_line (l : String) : (withBatteries B).Accepts (Domain.interrupt, l, none) :=
  accepts_free (by decide)

theorem accepts_cell (l : String) : (withBatteries B).Accepts (Domain.perCpuInterrupt, l, none) :=
  accepts_free (by decide)

theorem emit_cell {isDefined : Nat → Bool} {cpu line : Nat} {name : String} {count : UInt64}
    {d : DomainId} {l : String} {num : Option Int}
    (he : .entry d l num ∈ cellEmissions isDefined cpu line name count) :
    (withBatteries B).Accepts (d, l, num) := by
  unfold cellEmissions at he
  split at he
  · split at he
    · split at he <;> simp at he
    · split at he
      · rcases List.mem_cons.mp he with he | he
        · cases he
          exact accepts_line _
        · simp at he
      · simp at he
  · split at he
    · rcases List.mem_cons.mp he with he | he
      · cases he
        exact accepts_cell _
      · simp at he
    · simp at he

theorem interrupts_keepsTo : interrupts.KeepsTo (withBatteries B) where
  define view d l num he := by
    simp only [interrupts, defineInterrupts, List.mem_append] at he
    rcases he with (he | he) | he
    · split at he
      · rcases List.mem_append.mp he with he | he
        · simp at he
        · obtain ⟨line, _, he⟩ := List.mem_map.mp he
          cases he
          exact accepts_line _
      · simp at he
    · split at he <;> simp at he
    · obtain ⟨cpu, _, he⟩ := List.mem_flatMap.mp he
      obtain ⟨line, _, he⟩ := List.mem_map.mp he
      cases he
      exact accepts_cell _
  emit view hsized d l num he := by
    rcases emit_interrupts view hsized with hem | ⟨b, rows, -, -, hem⟩
    · simp [hem] at he
    · rw [hem] at he
      obtain ⟨x, _, he⟩ := List.mem_flatMap.mp he
      obtain ⟨y, _, he⟩ := List.mem_flatMap.mp he
      exact emit_cell he

theorem Keyed.label_of_shown {k : Multi} {g : Keyed k} {c : Config} {r : k.Rec} {label : String}
    (h : g.shown? c r = some label) : g.label c r = label ∧ passes (g.filter c) label := by
  unfold shown? at h
  dsimp only at h
  split at h
  · rename_i hp
    cases h
    exact ⟨rfl, hp⟩
  · cases h

theorem keyed_keepsTo {k : Multi} (g : Keyed k)
    (h : ∀ c r, (withBatteries B).Accepts (g.domain, g.label c r, g.number r)) :
    g.spec.KeepsTo (withBatteries B) where
  define view d l num he := by
    obtain ⟨r, _, hr⟩ := List.mem_filterMap.mp (List.mem_of_ne_of_mem (by simp) he)
    obtain ⟨label, hlabel, he⟩ := Option.map_eq_some_iff.mp hr
    cases he
    exact (Keyed.label_of_shown hlabel).1 ▸ h view.config r
  emit view _ d l num he := by
    obtain ⟨r, _, he⟩ := List.mem_flatMap.mp he
    unfold Keyed.emissions at he
    split at he
    · rename_i label hlabel
      rcases List.mem_cons.mp he with he | he
      · cases he
        exact (Keyed.label_of_shown hlabel).1 ▸ h view.config r
      · simp at he
    · simp at he

theorem keyed_keepsTo_free {k : Multi} (g : Keyed k) (hd : g.domain ∉ ruled)
    (hnum : ∀ r, g.number r = none) : g.spec.KeepsTo (withBatteries B) := by
  refine keyed_keepsTo g fun c r => ?_
  rw [hnum]
  exact accepts_free hd

theorem sensor_keepsTo {k : Multi} (g : Sensor k) {L : Nat → String}
    (hr : (g.domain, paired (fun i : Nat => (i : Int)) L) ∈ rules)
    (hl : ∀ i r, g.label i r = L i) : g.spec.KeepsTo (withBatteries B) where
  define view d l num he := by
    obtain ⟨sample, _, he⟩ := List.mem_flatMap.mp (List.mem_of_ne_of_mem (by simp) he)
    obtain ⟨i, _, he⟩ := List.mem_mapIdx.mp he
    cases he
    exact accepts_ruled hr ⟨i, rfl, (hl i _).symm⟩
  emit view _ d l num he := by
    obtain ⟨es, hes, he⟩ := List.mem_flatten.mp he
    obtain ⟨i, _, rfl⟩ := List.mem_mapIdx.mp hes
    rcases List.mem_cons.mp he with he | he
    · cases he
      exact accepts_ruled hr ⟨i, rfl, (hl i _).symm⟩
    · simp [ofInstance, List.mem_mapIdx] at he

theorem Writes.keepsTo_singular {k : Single} {values : k.Rec → List Value} {N : Numbering}
    (h : g.Writes k fun _ r => singular 0 (values r)) (ht : ∀ view, g.define view = [.table]) :
    g.KeepsTo N :=
  h.keepsTo (fun _ _ _ _ _ => no_entry_singular) (define_bare ht)

theorem Writes.keepsTo_fixed {k : Single} {values amounts : k.Rec → List Value} {n : Nat}
    {domain : DomainId} {entries : List Entry}
    (h : g.Writes k fun _ r => singular 0 (values r) ++ emitFixed n entries (amounts r))
    (ht : ∀ view, g.define view = .table :: fixed domain entries)
    (hr : (domain, listed entries) ∈ rules) : g.KeepsTo (withBatteries B) := by
  refine h.keepsTo (fun _ r d l num he => ?_) (define_fixed hr ht)
  rcases List.mem_append.mp he with he | he
  · exact no_entry_singular he
  · exact no_entry_emitFixed he

theorem pressure_keepsTo {k : Single} {F : k.Rec → List Emission} (h : g.Writes k fun _ => F)
    (ht : ∀ view, g.define view = .table :: fixed Domain.pressure Domain.pressureWindows)
    (hF : ∀ r d l num, .entry d l num ∉ F r) : g.KeepsTo (withBatteries B) :=
  h.keepsTo (fun _ => hF) (define_fixed (by simp [rules]) ht)

theorem no_entry_emitBoth {p : Record.Pressure} {d : DomainId} {l : String} {num : Option Int} :
    .entry d l num ∉ emitBoth p := by
  simp [emitBoth, no_entry_emitPressure]

theorem memory_keepsTo {N : Numbering} : memory.KeepsTo N := by
  refine memory_writes.keepsTo (fun _ m d l num he => ?_) fun view d l num he => ?_
  · exact no_entry_singular (List.mem_filter.mp he).1
  · simp [memory] at he

theorem host_keepsTo {N : Numbering} : host.KeepsTo N where
  define := define_bare fun _ => rfl
  emit view _ d l num he := by
    unfold host at he
    dsimp only at he
    split at he
    · exact absurd he no_entry_singular
    · simp at he

end ActivityArchive.GroupSpec

namespace ActivityArchive.Group

open GroupSpec Numbering

theorem spec_keepsTo (B : Int → String → Prop) {g : Group} (h : g ≠ .batteries) :
    g.spec.KeepsTo (withBatteries B) := by
  cases g with
  | batteries => exact absurd rfl h
  | fileHeader => exact host_keepsTo
  | recordHeader => exact uptime_writes.keepsTo_singular fun _ => rfl
  | cpu => exact cpu_keepsTo
  | softnet => exact softnet_keepsTo
  | cpuClock => exact cpuClock_keepsTo
  | interrupts => exact interrupts_keepsTo
  | memory => exact memory_keepsTo
  | hugePages => exact hugePages_writes.keepsTo_singular fun _ => rfl
  | runQueue => exact runQueue_writes.keepsTo_fixed (fun _ => rfl) (by simp [rules])
  | nfsClient => exact nfsClient_writes.keepsTo_fixed (fun _ => rfl) (by simp [rules])
  | nfsServer => exact nfsServer_writes.keepsTo_fixed (fun _ => rfl) (by simp [rules])
  | cpuPressure =>
    exact pressure_keepsTo cpuPressure_writes (fun _ => rfl) fun _ _ _ _ => no_entry_emitPressure
  | ioPressure =>
    exact pressure_keepsTo ioPressure_writes (fun _ => rfl) fun _ _ _ _ => no_entry_emitBoth
  | memoryPressure =>
    exact pressure_keepsTo memoryPressure_writes (fun _ => rfl) fun _ _ _ _ => no_entry_emitBoth
  | disks | interfaces | interfaceErrors | filesystems | fcHosts =>
    exact keyed_keepsTo_free _ (by decide) fun _ => rfl
  | serialLines =>
    refine keyed_keepsTo _ fun _ r => accepts_ruled (R := paired signed32 serialLabel) ?_ ?_
    · simp [rules, GroupSpec.serialLines]
    · exact ⟨r.line, rfl, rfl⟩
  | fans =>
    exact sensor_keepsTo _ (L := fun i => "fan" ++ Text.decimal (i + 1))
      (by simp [rules, GroupSpec.fans]) fun _ _ => rfl
  | temperatures =>
    exact sensor_keepsTo _ (L := fun i => "temp" ++ Text.decimal (i + 1))
      (by simp [rules, GroupSpec.temperatures]) fun _ _ => rfl
  | voltages =>
    exact sensor_keepsTo _ (L := fun i => "in" ++ Text.decimal i)
      (by simp [rules, GroupSpec.voltages]) fun _ _ => rfl
  | usbDevices =>
    exact sensor_keepsTo _ (L := fun i => "usb" ++ Text.decimal i)
      (by simp [rules, GroupSpec.usbDevices]) fun _ _ => rfl
  | taskSwitches | swap | paging | blockIo | kernelTables | sockets | ip | ipErrors | icmp
  | icmpErrors | tcp | tcpErrors | udp | sockets6 | ip6 | ip6Errors | icmp6 | icmp6Errors
  | udp6 => exact (flat_writes _ _ _ _).keepsTo_singular fun _ => rfl

end ActivityArchive.Group
