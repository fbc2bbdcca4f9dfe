import ActivityArchive.Proofs.Activity.Clamping
import ActivityArchive.Proofs.Group.Aggregating

/-!
What a group emits does not depend on units that were not planned for: from activities that agree as
far as they were planned for, every group emits the same, and leaves them in agreement
(`Group.emit_clamped`).
-/
namespace ActivityArchive

open Activities Record

/-- A group that keeps to what was planned for of its part. -/
def GroupSpec.KeepsClamped (t : Part) (g : GroupSpec) : Prop :=
  ∀ (c : Counts) (view : ExportView) (b : Activities), t.Clamped c (view.acts.part t)
    (b.part t) → (g.emit { view with acts := b }).2 = (g.emit view).2 ∧
      t.Clamped c ((g.emit view).1.part t) ((g.emit { view with acts := b }).1.part t)

namespace GroupSpec

/-- Where the part has to agree as a whole. -/
theorem keepsClamped_of_eq {t : Part} {g : GroupSpec} (h : g.Local t)
    (ht : ∀ c x y, t.Clamped c x y ↔ x = y) : g.KeepsClamped t := by
  intro c view b hc
  obtain ⟨hemissions, hpart⟩ := h.emit_congr view b ((ht c _ _).mp hc).symm
  exact ⟨hemissions, (ht c _ _).mpr hpart.symm⟩

theorem Writes.keepsClamped {g : GroupSpec} {k : Single} {F : Writer k} (h : g.Writes k F) :
    g.KeepsClamped (.single k) :=
  keepsClamped_of_eq h.local fun _ _ _ => Iff.rfl

/-- Where the first records are read, as many as were planned for. -/
theorem keepsClamped_of_records {k : Multi} {g : GroupSpec}
    {E : Config → List k.Rec → List Emission}
    (hemit : ∀ view, g.emit view = (view.acts, E view.config
      (((view.acts.multi k).records view.slot).take (view.acts.multi k).count))) :
    g.KeepsClamped (.multi k) := by
  intro c view b hc
  have hk : Activity.Clamped (c.multi k) (view.acts.multi k) (b.multi k) := hc
  rw [hemit, hemit]
  exact ⟨congrArg (E view.config) (hk.records view.slot), hc⟩

/-- A group that shows the units of a kind, and their aggregate, once a sample has them. -/
structure ShowsUnits (g : Group) (k : Multi) [DecidableEq k.Rec] (add : k.Rec → k.Rec → k.Rec)
    (width : Nat) (values : k.Rec → List Value)
    (record : Activity k.Rec → Slot → Nat → Except BufferError k.Rec) : Prop
    extends Aggregates g k add where
  silent : ∀ view : ExportView, (view.acts.multi k).buffer.observed.get view.slot = 0 →
    (g.spec.emit view).2 = []
  emissions : ∀ view : ExportView, (view.acts.multi k).buffer.observed.get view.slot ≠ 0 →
    (g.spec.emit view).2 = emitUnits view width values
      (shown ((view.acts.multi k).aggregate add view.slot)
        (record ((view.acts.multi k).aggregate add view.slot) view.slot))

namespace ShowsUnits

variable {g : Group} {k : Multi} [DecidableEq k.Rec] {add : k.Rec → k.Rec → k.Rec} {width : Nat}
  {values : k.Rec → List Value}
  {record : Activity k.Rec → Slot → Nat → Except BufferError k.Rec}

/-- The plan stays as it is. -/
theorem planned (h : ShowsUnits g k add width values record) (view : ExportView) :
    ((g.spec.emit view).1.multi k).planned = (view.acts.multi k).planned ∧
      ((g.spec.emit view).1.multi k).selection = (view.acts.multi k).selection := by
  rw [h.emit]
  split
  · exact ⟨rfl, rfl⟩
  · exact ⟨Activity.planned_aggregate add _ _, Activity.selection_aggregate add _ _⟩

/-- Where nothing was planned for nothing is shown. -/
theorem emissions_of_count_zero (h : ShowsUnits g k add width values record) {view : ExportView}
    (hcount : (view.acts.multi k).count = 0) : (g.spec.emit view).2 = [] := by
  by_cases hnone : (view.acts.multi k).buffer.observed.get view.slot = 0
  · exact h.silent view hnone
  · have hcount : ((view.acts.multi k).aggregate add view.slot).count = 0 := by
      rw [Activity.count, Activity.planned_aggregate]
      exact hcount
    rw [h.emissions view hnone]
    simp only [shown, hcount]
    rfl

theorem keepsClamped (h : ShowsUnits g k add width values record)
    (hrecord : ∀ n (a b : Activity k.Rec), Activity.Prepared n a b → ∀ s, ∀ i < n,
      record b s i = record a s i) : g.spec.KeepsClamped (.multi k) := by
  intro c view b hc
  have hk : Activity.Clamped (c.multi k) (view.acts.multi k) (b.multi k) := hc
  rcases Nat.eq_zero_or_pos (c.multi k) with hzero | hpos
  · obtain ⟨hplanned, hselection⟩ := h.planned view
    obtain ⟨hplanned', hselection'⟩ := h.planned { view with acts := b }
    have hcount := hk.count.trans hzero
    refine ⟨?_, ?_⟩
    · rw [h.emissions_of_count_zero hcount, h.emissions_of_count_zero (hk.count'.trans hzero)]
    · show Activity.Clamped (c.multi k) _ _
      rw [hzero]
      refine Activity.clamped_zero ?_ ?_ ?_
      · exact (congrArg (·.getD 0) hplanned).trans hcount
      · exact hplanned'.trans (hk.planned.trans hplanned.symm)
      · exact hselection'.trans (hk.selection.trans hselection.symm)
  · -- Both samples have units, or neither has.
    have hobserved := hk.observed view.slot
    show _ ∧ Activity.Clamped (c.multi k) ((g.spec.emit view).1.multi k)
      ((g.spec.emit { view with acts := b }).1.multi k)
    rw [h.emit view, h.emit { view with acts := b }]
    by_cases hnone : (view.acts.multi k).buffer.observed.get view.slot = 0
    · have hnone' : (b.multi k).buffer.observed.get view.slot = 0 := by omega
      rw [if_pos hnone, if_pos hnone', h.silent view hnone, h.silent { view with acts := b } hnone']
      exact ⟨rfl, hk⟩
    · have hsome : (b.multi k).buffer.observed.get view.slot ≠ 0 := by omega
      have hprepared := hk.aggregate add view.slot
      have hshown := hprepared.shown (hrecord _ _ _ hprepared view.slot)
      rw [if_neg hnone, if_neg hsome, h.emissions view hnone,
        h.emissions { view with acts := b } hsome]
      exact ⟨congrArg (emitUnits view width values) hshown, hprepared.toClamped⟩

end ShowsUnits

theorem showsUnits_cpu : ShowsUnits .cpu .cpu CpuTimes.add 11 cpuValues shownCpu where
  toAggregates := aggregates_cpu
  silent _ h := congrArg Prod.snd (if_pos h)
  emissions _ h := congrArg Prod.snd (if_neg h)

theorem showsUnits_softnet :
    ShowsUnits .softnet .softnet Softnet.add 6 softnetValues fun a s => a.buffer.elementAt s where
  toAggregates := aggregates_softnet
  silent _ h := congrArg Prod.snd (if_pos h)
  emissions _ h := congrArg Prod.snd (if_neg h)

/-- The interval of a CPU is worked out from both slots. -/
theorem shownCpu_prepared {n : Nat} {a b : Activity CpuTimes}
    (h : Activity.Prepared n a b) (s : Slot)
    {i : Nat} (hi : i < n) : shownCpu b s i = shownCpu a s i := by
  have htickless : isTickless i b.offline = isTickless i a.offline := by
    funext interval
    rw [isTickless, isTickless, h.offline]
  rw [shownCpu, shownCpu, h.elementAt s hi, h.elementAt s.other hi, htickless]

theorem keepsClamped_cpu : cpu.KeepsClamped (.multi .cpu) :=
  showsUnits_cpu.keepsClamped fun _ _ _ h s _ hi => shownCpu_prepared h s hi

theorem keepsClamped_softnet : softnet.KeepsClamped (.multi .softnet) :=
  showsUnits_softnet.keepsClamped fun _ _ _ h s _ hi => h.elementAt s hi

section Interrupts

variable (view : ExportView)

theorem emit_interrupts_idle (h : (view.acts.irq.grid.observed.get view.slot).1 = 0) :
    interrupts.emit view = (view.acts, []) := if_pos h

theorem emit_interrupts_of_prepared {a : Interrupts} {es : List Emission}
    (h : (view.acts.irq.grid.observed.get view.slot).1 ≠ 0)
    (hprepare : prepareInterrupts view.acts.irq view.slot = .ok a)
    (hemit : emitInterrupts view.isDefined a view.slot
      (view.acts.irq.grid.observed.get view.slot).1 = .ok es) :
    interrupts.emit view = ({ view.acts with irq := a }, es) := by
  refine (if_neg h).trans ?_
  simp only [hprepare, hemit]

/-- Where no row was planned for nothing is emitted, and at most the set of CPUs offline changes. -/
theorem emit_interrupts_of_count_zero (hsized : view.acts.irq.grid.Sized)
    (hcount : view.acts.irq.count = 0) :
    (interrupts.emit view).2 = [] ∧
      ∃ offline, (interrupts.emit view).1.irq = { view.acts.irq with offline } := by
  by_cases hnone : (view.acts.irq.grid.observed.get view.slot).1 = 0
  · rw [emit_interrupts_idle view hnone]
    exact ⟨rfl, view.acts.irq.offline, rfl⟩
  · have hprepare := Interrupts.prepareInterrupts_of_le (a := view.acts.irq) view.slot (by omega)
    have hemit := emitInterrupts_ok
      (a := { view.acts.irq with offline := .new view.acts.irq.count })
      hsized view.isDefined view.slot (hsized.observed view.slot)
    rw [show Interrupts.count { view.acts.irq with offline := .new view.acts.irq.count } = 0 from
      hcount, Nat.zero_min] at hemit
    rw [emit_interrupts_of_prepared view hnone hprepare hemit]
    exact ⟨rfl, _, rfl⟩

theorem keepsClamped_interrupts : interrupts.KeepsClamped .interrupts := by
  intro c view b hc
  have hk : Interrupts.Clamped c.rows view.acts.irq b.irq := hc
  rcases Nat.eq_zero_or_pos c.rows with hzero | hpos
  · obtain ⟨hnone, offline, hirq⟩ :=
      emit_interrupts_of_count_zero view hk.grid.sized (hk.count.trans hzero)
    obtain ⟨hnone', offline', hirq'⟩ :=
      emit_interrupts_of_count_zero { view with acts := b } hk.grid.sized'
        (hk.count'.trans hzero)
    refine ⟨hnone'.trans hnone.symm, ?_⟩
    show Interrupts.Clamped c.rows (interrupts.emit view).1.irq
      (interrupts.emit { view with acts := b }).1.irq
    rw [hirq, hirq']
    exact { hk with }
  · -- Both samples have rows, or neither has.
    have hobserved := hk.grid.observed view.slot
    by_cases hnone : (view.acts.irq.grid.observed.get view.slot).1 = 0
    · have hnone' : (b.irq.grid.observed.get view.slot).1 = 0 := by omega
      rw [emit_interrupts_idle view hnone, emit_interrupts_idle { view with acts := b } hnone']
      exact ⟨rfl, hc⟩
    · have hsome : (b.irq.grid.observed.get view.slot).1 ≠ 0 := by omega
      obtain ⟨a', b', hprepare, hprepare', hprepared, hoffline, hcpus, hcpus'⟩ :=
        hk.prepare view.slot
      have hroom := hk.grid.sized.observed view.slot
      have hroom' := hk.grid.sized'.observed view.slot
      have hemit := emitInterrupts_ok hprepared.grid.sized view.isDefined view.slot
        (hcpus.symm ▸ hroom)
      have hemit' := hprepared.emit_eq view.slot hoffline view.isDefined hobserved.symm
        (hcpus.symm ▸ hroom) (hcpus'.symm ▸ hroom')
      rw [emit_interrupts_of_prepared view hnone hprepare hemit,
        emit_interrupts_of_prepared { view with acts := b } hsome hprepare'
          (hemit'.trans hemit)]
      exact ⟨rfl, hprepared⟩

end Interrupts

theorem keepsClamped_keyed {k : Multi} (g : Keyed k) : g.spec.KeepsClamped (.multi k) :=
  keepsClamped_of_records (E := fun config rs => rs.flatMap (g.emissions config)) fun _ => rfl

theorem keepsClamped_sensor {k : Multi} (g : Sensor k) : g.spec.KeepsClamped (.multi k) :=
  keepsClamped_of_records (E := fun _ rs => (rs.mapIdx g.emissions).flatten) fun _ => rfl

theorem keepsClamped_cpuClock : cpuClock.KeepsClamped (.multi .cpufreq) := by
  intro c view b hc
  have hk : Activity.Clamped (c.multi .cpufreq) view.acts.cpufreq b.cpufreq := hc
  refine ⟨?_, hc⟩
  unfold cpuClock
  dsimp only
  rw [hk.selection, hk.records]

end GroupSpec

namespace Group

open GroupSpec in
theorem spec_keepsClamped (g : Group) : g.spec.KeepsClamped g.part := by
  cases g with
  | fileHeader => exact keepsClamped_of_eq local_host fun _ _ _ => Iff.rfl
  | recordHeader => exact uptime_writes.keepsClamped
  | cpu => exact keepsClamped_cpu
  | softnet => exact keepsClamped_softnet
  | cpuClock => exact keepsClamped_cpuClock
  | interrupts => exact keepsClamped_interrupts
  | memory => exact memory_writes.keepsClamped
  | hugePages => exact hugePages_writes.keepsClamped
  | runQueue => exact runQueue_writes.keepsClamped
  | nfsClient => exact nfsClient_writes.keepsClamped
  | nfsServer => exact nfsServer_writes.keepsClamped
  | cpuPressure => exact cpuPressure_writes.keepsClamped
  | ioPressure => exact ioPressure_writes.keepsClamped
  | memoryPressure => exact memoryPressure_writes.keepsClamped
  | disks | interfaces | interfaceErrors | serialLines | filesystems | fcHosts =>
    exact keepsClamped_keyed _
  | fans | temperatures | voltages | usbDevices | batteries => exact keepsClamped_sensor _
  | taskSwitches | swap | paging | blockIo | kernelTables | sockets | ip | ipErrors | icmp
  | icmpErrors | tcp | tcpErrors | udp | sockets6 | ip6 | ip6Errors | icmp6 | icmp6Errors
  | udp6 => exact (flat_writes _ _ _ _).keepsClamped

/-- The same is emitted, and all parts stay in agreement. -/
theorem emit_clamped (g : Group) {c : Counts} (view : ExportView) {b : Activities}
    (h : Activities.Clamped c view.acts b) :
    (g.spec.emit { view with acts := b }).2 = (g.spec.emit view).2 ∧
      Activities.Clamped c (g.spec.emit view).1 (g.spec.emit { view with acts := b }).1 := by
  obtain ⟨hemissions, hpart⟩ := g.spec_keepsClamped c view b (h g.part)
  refine ⟨hemissions, fun t => ?_⟩
  by_cases ht : t = g.part
  · subst ht
    exact hpart
  · rw [g.spec_local.emit_part_ne view t ht,
      g.spec_local.emit_part_ne { view with acts := b } t ht]
    exact h t

end Group

end ActivityArchive
