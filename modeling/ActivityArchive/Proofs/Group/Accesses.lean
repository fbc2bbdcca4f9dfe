import ActivityArchive.Proofs.Activity.Accesses
import ActivityArchive.Proofs.Group.Aggregating
import ActivityArchive.Proofs.Group.Alike
import ActivityArchive.Proofs.Group.SelfContained

/-!
What groups access. A group reads the slot that it emits, and changes the records that readings ask
for, whatever numbers they have; it names no metric that its table does not have. Where all of this
is in range, nothing that is emitted is a fault (`Group.indexed_of_inRange`).
-/
namespace ActivityArchive

open Activities Record

namespace Activities

/-- Every part has room for what either slot observes. -/
structure Roomy (a : Activities) : Prop where
  single : ∀ k, (a.single k).Roomy
  multi : ∀ k, (a.multi k).Roomy
  irq : a.irq.grid.Sized

/-- Every part has room for what one slot observes. -/
structure Readable (s : Slot) (a : Activities) : Prop where
  single : ∀ k, ((a.single k).readAccess s).InRange
  multi : ∀ k, ((a.multi k).readAccess s).InRange
  irq : a.irq.grid.Sized

variable {a b : Activities} {s : Slot}

theorem Roomy.readable (h : a.Roomy) (s : Slot) : a.Readable s :=
  ⟨fun k => (h.single k).inRange_read s, fun k => (h.multi k).inRange_read s, h.irq⟩

/-- Activities whose slot can be compared can be read. -/
theorem Alike.readable (h : Alike s a b) : b.Readable s where
  single k := (h (.single k)).room'
  multi k := (h (.multi k)).room'
  irq := (h .interrupts).showing'.named.sized

theorem roomy_empty : empty.Roomy where
  single k := by
    simp only [empty, Groups.single_ofFun]
    exact Activity.roomy_empty
  multi k := by
    simp only [empty, Groups.multi_ofFun]
    exact Activity.roomy_empty
  irq := GridBuffer.sized_empty

theorem Roomy.replace_multi (h : a.Roomy) {k : Multi}
    (hother : ∀ t, t ≠ .multi k → b.part t = a.part t) (hk : (b.multi k).Roomy) :
    b.Roomy where
  single k' := by
    have hsame : b.single k' = a.single k' := hother (.single k') (by simp)
    exact hsame ▸ h.single k'
  multi k' := by
    by_cases hne : k' = k
    · exact hne ▸ hk
    · have hsame : b.multi k' = a.multi k' := hother (.multi k') (by simpa using hne)
      exact hsame ▸ h.multi k'
  irq := by
    have hsame : b.irq = a.irq := hother .interrupts (by simp)
    exact hsame ▸ h.irq

theorem Roomy.load (h : a.Roomy) (s : Slot) (sample : Sample) : (a.load s sample).Roomy where
  single k := by
    simp only [Activities.load, Groups.single_ofFun]
    exact (h.single k).load s _
  multi k := by
    simp only [Activities.load, Groups.multi_ofFun]
    exact (h.multi k).load s _
  irq := (Interrupts.later_load a.irq s sample.irq).sized h.irq

end Activities

theorem Aggregates.roomy {g : Group} {k : Multi} [DecidableEq k.Rec]
    {add : k.Rec → k.Rec → k.Rec}
    {view : ExportView} (h : Aggregates g k add) (hacts : view.acts.Roomy) :
    ((g.spec.emit view).1.multi k).Roomy := by
  rw [h.emit]
  split
  · exact hacts.multi k
  · exact (hacts.multi k).aggregate add view.slot

namespace GroupSpec

variable {g : GroupSpec} {size : Nat}

/-- The record that a reading changes, where its number gives a place. -/
def touchedAt (k : Multi) (s : Slot) (acts : Activities) : Option Nat → List Access
  | some i => [(acts.multi k).updateAccess s i]
  | none => []

/-- The record of the item that a reading belongs to, looked for first. -/
def Keyed.touched {k : Multi} (g : Keyed k) (view : ImportView) (idx : Nat) (r : Reading)
    (acts : Activities) : List Access :=
  match (view.label? idx r.1).bind g.owner? with
  | some (owns, _) => (acts.multi k).updateByAccesses view.slot owns
  | none => []

/-- The cell that a count is written to. -/
def touchedCell (view : ImportView) (idx : Nat) (r : Reading) (acts : Activities) : List Access :=
  match cellOf? view idx r.1 with
  | some (cpu, name) => acts.irq.absorbAccesses view.slot cpu name
  | none => []

/-- What units access that are aggregated and shown, where a sample has any. -/
def unitAccesses {R : Type} [Inhabited R] [DecidableEq R] (add : R → R → R) (a : Activity R)
    (s : Slot) : List Access :=
  if a.buffer.observed.get s = 0 then []
  else (if isAggregated a.count then (a.prepare s).unitAccesses s else []) ++
    (a.aggregate add s).shownAccesses

/-- The interval of a single CPU is worked out from the aggregate. -/
def loneAccesses (a : Activity CpuTimes) (s : Slot) : List Access :=
  if a.buffer.observed.get s = 0 ∨ isAggregated a.count then []
    else [(a.prepare s).buffer.access 0]

section InRange

variable {view : ImportView} {acts : Activities} {R : Type} [Inhabited R]
  {a : Activity R} {s : Slot}

theorem inRange_touchedAt (k : Multi) (s : Slot) (acts : Activities) (place? : Option Nat) :
    ∀ x ∈ touchedAt k s acts place?, x.InRange := by
  cases place? with
  | none => simp [touchedAt]
  | some i =>
    intro x hx
    obtain rfl := List.mem_singleton.mp hx
    exact Activity.inRange_update _ s i

theorem Keyed.inRange_touched {k : Multi} (g : Keyed k) (h : acts.Readable view.slot) (idx : Nat)
    (r : Reading) : ∀ x ∈ g.touched view idx r acts, x.InRange := by
  intro x hx
  unfold touched at hx
  split at hx
  · exact Activity.inRange_updateBy (h.multi k) _ x hx
  · cases hx

theorem inRange_touchedCell (h : acts.Readable view.slot) (idx : Nat) (r : Reading) :
    ∀ x ∈ touchedCell view idx r acts, x.InRange := by
  intro x hx
  unfold touchedCell at hx
  split at hx
  · exact Interrupts.inRange_absorb h.irq _ _ _ x hx
  · cases hx

theorem inRange_unitAccesses [DecidableEq R] (add : R → R → R) (a : Activity R) (s : Slot) :
    ∀ x ∈ unitAccesses add a s, x.InRange := by
  have hroom : (a.aggregate add s).count ≤ (a.aggregate add s).buffer.allocated := by
    have hprepare : a.count ≤ (a.prepare s).buffer.allocated := a.count_le_prepare s
    unfold Activity.aggregate
    dsimp only
    split
    · rw [SampleBuffer.allocated_fill]
      exact hprepare
    · exact hprepare
  intro x hx
  unfold unitAccesses at hx
  split at hx
  · cases hx
  · rcases List.mem_append.mp hx with hx | hx
    · split at hx
      · exact Activity.inRange_unit _ s x hx
      · cases hx
    · exact Activity.inRange_shown hroom x hx

theorem inRange_loneAccesses {a : Activity CpuTimes} (h : (a.readAccess s).InRange) :
    ∀ x ∈ loneAccesses a s, x.InRange := by
  have hobserved : a.buffer.observed.get s ≤ a.buffer.allocated := h
  have hfirst := (SampleBuffer.le_length_observe a.buffer s a.count).1
  have hsecond := (SampleBuffer.le_length_observe (a.buffer.observe s a.count) s.other a.count).1
  intro x hx
  unfold loneAccesses at hx
  split at hx
  · cases hx
  · rename_i hlone
    obtain rfl := List.mem_singleton.mp hx
    rw [not_or] at hlone
    have hroom := Nat.le_trans hobserved (Nat.le_trans hfirst hsecond)
    exact Nat.lt_of_lt_of_le (Nat.pos_of_ne_zero hlone.1) hroom

end InRange

end GroupSpec

/-- A value under an index that a table of a size has, or an instance, but no fault. -/
def Emission.Indexed (size : Nat) : Emission → Prop
  | .entry .. => True
  | .value idx .. => idx < size
  | .fault _ => False

namespace GroupSpec

variable {g : GroupSpec} {size : Nat} {view : ExportView}

theorem indexed_singular {start : Nat} {values : List Value} (h : start + values.length ≤ size) :
    ∀ e ∈ singular start values, e.Indexed size := by
  intro e he
  obtain ⟨i, hi, rfl⟩ := List.mem_mapIdx.mp he
  show start + i < size
  omega

theorem indexed_ofInstance {start : Nat} {label : String} {values : List Value}
    (h : start + values.length ≤ size) :
    ∀ e ∈ ofInstance start label values, e.Indexed size := by
  intro e he
  obtain ⟨i, hi, rfl⟩ := List.mem_mapIdx.mp he
  show start + i < size
  omega

theorem indexed_emitFixed {idx : Nat} {entries : List Entry} {values : List Value}
    (h : idx < size) :
    ∀ e ∈ emitFixed idx entries values, e.Indexed size := by
  intro e he
  obtain ⟨p, -, rfl⟩ := List.mem_map.mp he
  exact h

theorem indexed_emitPressure {idx : Nat} {avg : Window} {total : UInt64} (h : idx + 1 < size) :
    ∀ e ∈ emitPressure idx avg total, e.Indexed size := by
  intro e he
  rcases List.mem_append.mp he with he | he
  · exact indexed_emitFixed (by omega) e he
  · obtain rfl := List.mem_singleton.mp he
    exact h

theorem indexed_emitBoth {p : Pressure} (h : 3 < size) : ∀ e ∈ emitBoth p, e.Indexed size := by
  intro e he
  rcases List.mem_append.mp he with he | he
  · exact indexed_emitPressure (by omega) e he
  · exact indexed_emitPressure (by omega) e he

theorem Writes.indexed {k : Single} {F : Writer k} (h : g.Writes k F)
    (hF : ∀ isDefined r, ∀ e ∈ F isDefined r, e.Indexed g.metrics.length)
    (view : ExportView) :
    ∀ e ∈ (g.emit view).2, e.Indexed g.metrics.length := by
  rw [h.emit]
  cases single? view k with
  | none => simp
  | some r => exact hF view.isDefined r

/-- A group of one record with a fixed number of singular metrics. -/
theorem Writes.indexed_singular {k : Single} {values : k.Rec → List Value}
    (h : g.Writes k fun _ r => singular 0 (values r))
    (hlen : ∀ r, (values r).length ≤ g.metrics.length) (view : ExportView) :
    ∀ e ∈ (g.emit view).2, e.Indexed g.metrics.length := by
  refine h.indexed (fun _ r => GroupSpec.indexed_singular ?_) view
  rw [Nat.zero_add]
  exact hlen r

/-- A group that has one metric with fixed instances behind its singular ones. -/
theorem Writes.indexed_fixed {k : Single} {values amounts : k.Rec → List Value}
    {es : List Entry} {n : Nat}
    (h : g.Writes k fun _ r => singular 0 (values r) ++ emitFixed n es (amounts r))
    (hlen : ∀ r, (values r).length ≤ g.metrics.length) (hn : n < g.metrics.length)
    (view : ExportView) : ∀ e ∈ (g.emit view).2, e.Indexed g.metrics.length := by
  refine h.indexed (fun _ r e he => ?_) view
  rcases List.mem_append.mp he with he | he
  · refine GroupSpec.indexed_singular ?_ e he
    rw [Nat.zero_add]
    exact hlen r
  · exact indexed_emitFixed hn e he

theorem indexed_host (view : ExportView) :
    ∀ e ∈ (host.emit view).2, e.Indexed host.metrics.length := by
  show ∀ e ∈ (if view.isFirst then singular 0 (hostColumns.map (·.value view.acts.header))
    else []), _
  split
  · refine indexed_singular ?_
    rw [List.length_map]
    decide
  · simp

theorem indexed_memory (view : ExportView) :
    ∀ e ∈ (memory.emit view).2, e.Indexed memory.metrics.length := by
  refine memory_writes.indexed (fun isDefined m e he => ?_) view
  refine indexed_singular ?_ e (List.mem_filter.mp he).1
  rw [List.length_map]
  decide

theorem Keyed.indexed {k : Multi} (g : Keyed k)
    (h : ∀ r, ∀ v ∈ g.values r, v.1 < g.metrics.length)
    (view : ExportView) : ∀ e ∈ (g.spec.emit view).2, e.Indexed g.metrics.length := by
  intro e he
  obtain ⟨r, -, he⟩ := List.mem_flatMap.mp he
  unfold emissions at he
  split at he
  · rcases List.mem_cons.mp he with rfl | he
    · trivial
    · obtain ⟨v, hv, rfl⟩ := List.mem_map.mp he
      exact h r v hv
  · cases he

theorem Sensor.indexed {k : Multi} (g : Sensor k)
    (h : ∀ r, (g.values r).length ≤ g.metrics.length)
    (view : ExportView) : ∀ e ∈ (g.spec.emit view).2, e.Indexed g.metrics.length := by
  intro e he
  obtain ⟨es, hes, he⟩ := List.mem_flatten.mp he
  obtain ⟨i, _, rfl⟩ := List.mem_mapIdx.mp hes
  rcases List.mem_cons.mp he with rfl | he
  · trivial
  · refine indexed_ofInstance ?_ e he
    rw [Nat.zero_add]
    exact h _

theorem indexed_half {width idx : Nat} {values : List Value} (hlen : values.length = width)
    (hsize : width + width ≤ size) :
    ∀ e ∈ emitHalf view width idx values, e.Indexed size := by
  intro e he
  unfold emitHalf at he
  split at he
  · split at he
    · exact indexed_singular (by omega) e he
    · cases he
  · split at he
    · rcases List.mem_cons.mp he with rfl | he
      · trivial
      · exact indexed_ofInstance (by omega) e he
    · cases he

/-- Units whose records are in range are shown. -/
theorem indexed_units {R : Type} {a : Activity R} {width : Nat} {values : R → List Value}
    {record : Nat → Except BufferError R} (h : ∀ x ∈ a.shownAccesses, x.InRange)
    (hrecord : ∀ idx, (a.buffer.access idx).InRange → ∃ r, record idx = .ok r)
    (hlen : ∀ r, (values r).length = width) (hsize : width + width ≤ size) :
    ∀ e ∈ emitUnits view width values (shown a record), e.Indexed size := by
  obtain ⟨rs, hrs⟩ : ∃ rs, shown a record = .ok rs := by
    refine exists_mapM_ok fun idx hidx => ?_
    obtain ⟨r, hr⟩ := hrecord idx (h _ (List.mem_map_of_mem hidx))
    exact ⟨(idx, r), by rw [hr, Except.map]⟩
  intro e he
  unfold emitUnits at he
  rw [hrs] at he
  obtain ⟨x, -, he⟩ := List.mem_flatMap.mp he
  exact indexed_half (hlen x.2) hsize e he

/-- Units of a slot that are aggregated before they are shown. -/
theorem indexed_aggregated {R : Type} [Inhabited R] [DecidableEq R] {add : R → R → R}
    {a : Activity R}
    {s : Slot} {width : Nat} {values : R → List Value} {record : Nat → Except BufferError R}
    {es : List Emission} (hemit : es = if a.buffer.observed.get s = 0 then []
      else emitUnits view width values (shown (a.aggregate add s) record))
    (h : ∀ x ∈ unitAccesses add a s, x.InRange)
    (hrecord : ∀ idx, ((a.aggregate add s).buffer.access idx).InRange →
      ∃ r, record idx = .ok r)
    (hlen : ∀ r, (values r).length = width) (hsize : width + width ≤ size) :
    ∀ e ∈ es, e.Indexed size := by
  unfold unitAccesses at h
  intro e he
  rw [hemit] at he
  split at he
  · cases he
  · rename_i hsome
    rw [if_neg hsome] at h
    have hshown := fun x hx => h x (List.mem_append_right _ hx)
    exact indexed_units hshown hrecord hlen hsize e he

theorem indexed_cpu (h : ∀ x ∈ unitAccesses CpuTimes.add view.acts.cpu view.slot, x.InRange) :
    ∀ e ∈ (cpu.emit view).2, e.Indexed cpu.metrics.length :=
  indexed_aggregated (apply_ite Prod.snd _ _ _) h (fun _ hidx => shownCpu_ok hidx view.slot)
    (fun _ => rfl) (by decide)

theorem indexed_softnet
    (h : ∀ x ∈ unitAccesses Softnet.add view.acts.softnet view.slot, x.InRange) :
    ∀ e ∈ (softnet.emit view).2, e.Indexed softnet.metrics.length :=
  indexed_aggregated (apply_ite Prod.snd _ _ _) h
    (fun idx hidx => (SampleBuffer.elementAt_ok_iff _ view.slot idx).mpr hidx)
      (fun _ => rfl) (by decide)

theorem indexed_cpuClock (view : ExportView) :
    ∀ e ∈ (cpuClock.emit view).2, e.Indexed cpuClock.metrics.length := by
  intro e he
  obtain ⟨x, -, he⟩ := List.mem_flatMap.mp he
  simp only [List.mem_cons, List.not_mem_nil, or_false] at he
  rcases he with rfl | rfl
  · trivial
  · exact Nat.one_pos

theorem indexed_cell (isDefined : Nat → Bool) (cpu line : Nat) (name : String) (count : UInt64) :
    ∀ e ∈ cellEmissions isDefined cpu line name count, e.Indexed interruptMetrics.length := by
  have hsum : sumMetric < interruptMetrics.length := by decide
  have hline : lineMetric < interruptMetrics.length := by decide
  have hcell : cpuLineMetric < interruptMetrics.length := by decide
  intro e he
  unfold cellEmissions at he
  split at he
  · split at he <;> split at he <;> simp only [List.mem_cons, List.not_mem_nil, or_false] at he
    · exact he ▸ hsum
    · rcases he with rfl | rfl
      · trivial
      · exact hline
  · split at he <;> simp only [List.mem_cons, List.not_mem_nil, or_false] at he
    rcases he with rfl | rfl
    · trivial
    · exact hcell

theorem indexed_interrupts (h : ∀ x ∈ view.acts.irq.emitAccesses view.slot, x.InRange) :
    ∀ e ∈ (interrupts.emit view).2, e.Indexed interruptMetrics.length := by
  by_cases hnone : (view.acts.irq.grid.observed.get view.slot).1 = 0
  · have hemit : interrupts.emit view = (view.acts, []) := if_pos hnone
    rw [hemit]
    simp
  · unfold Interrupts.emitAccesses at h
    rw [if_neg hnone] at h
    obtain ⟨b, hprepare⟩ : ∃ b, prepareInterrupts view.acts.irq view.slot = .ok b := by
      refine Interrupts.prepare_of_inRange fun hagg x hx => h x (List.mem_append_left _ ?_)
      rw [if_pos hagg]
      exact hx
    rw [hprepare] at h
    have hrows := Interrupts.emit_of_inRange (s := view.slot)
      (fun x hx => h x (List.mem_append_right _ hx)) view.isDefined
    intro e he
    unfold interrupts at he
    simp only [if_neg hnone, hprepare, hrows] at he
    obtain ⟨cpu, -, he⟩ := List.mem_flatMap.mp he
    obtain ⟨x, -, he⟩ := List.mem_flatMap.mp he
    exact indexed_cell view.isDefined cpu x.2 x.1.1 x.1.2 e he

section Consulted

variable {isDefined : Nat → Bool} {width : Nat}

theorem emitUnits_congr {R : Type} {values : R → List Value}
    {records : Except BufferError (List (Nat × R))}
    (h : isDefined 0 = view.isDefined 0) (hwidth : isDefined width = view.isDefined width) :
    emitUnits { view with isDefined } width values records =
    emitUnits view width values records := by
  have hhalf : ∀ idx vs, emitHalf { view with isDefined } width idx vs =
      emitHalf view width idx vs := by
    intro idx vs
    simp only [emitHalf, h, hwidth]
  unfold emitUnits
  simp only [hhalf]

theorem emit_cpu_congr (h : isDefined 0 = view.isDefined 0)
    (hwidth : isDefined 11 = view.isDefined 11) :
    cpu.emit { view with isDefined } = cpu.emit view := by
  simp only [cpu, emitUnits_congr h hwidth]

theorem emit_softnet_congr (h : isDefined 0 = view.isDefined 0)
    (hwidth : isDefined 6 = view.isDefined 6) :
    softnet.emit { view with isDefined } = softnet.emit view := by
  simp only [softnet, emitUnits_congr h hwidth]

theorem emit_memory_congr (h : ∀ idx < memoryColumns.length, isDefined idx = view.isDefined idx) :
    memory.emit { view with isDefined } = memory.emit view := by
  rw [memory_writes.emit, memory_writes.emit]
  show (view.acts, ((single? view .memory).map (writeMemory isDefined)).getD []) = _
  have hwrite : writeMemory isDefined = writeMemory view.isDefined := by
    funext m
    refine List.filter_congr fun e he => ?_
    obtain ⟨i, hi, rfl⟩ := List.mem_mapIdx.mp he
    rw [List.length_map] at hi
    exact h (0 + i) (by omega)
  rw [hwrite]

theorem emit_interrupts_congr (hsum : isDefined sumMetric = view.isDefined sumMetric)
    (hline : isDefined lineMetric = view.isDefined lineMetric)
    (hcell : isDefined cpuLineMetric = view.isDefined cpuLineMetric) :
    interrupts.emit { view with isDefined } = interrupts.emit view := by
  have hrow : ∀ lines cpu, rowEmissions isDefined lines cpu =
      rowEmissions view.isDefined lines cpu := by
    intro lines cpu
    funext row
    simp only [rowEmissions, cellEmissions, hsum, hline, hcell]
  have hemit : ∀ a rows, emitInterrupts isDefined a view.slot rows =
      emitInterrupts view.isDefined a view.slot rows := by
    intro a rows
    simp only [emitInterrupts, hrow]
  simp only [interrupts, hemit]

end Consulted

end GroupSpec

namespace Group

open GroupSpec

/-- What a reading of a metric accesses. Groups of one record change that one. -/
def touched (g : Group) (view : ImportView) (idx : Nat) (r : Reading) (acts : Activities) :
    List Access :=
  match g with
  | .cpu => touchedAt .cpu view.slot acts (unitOf? view 11 idx r.1)
  | .softnet => touchedAt .softnet view.slot acts (unitOf? view 6 idx r.1)
  | .cpuClock => touchedAt .cpufreq view.slot acts (unitOf? view 0 idx r.1)
  | .disks => GroupSpec.disks.touched view idx r acts
  | .interfaces => GroupSpec.interfaces.touched view idx r acts
  | .interfaceErrors => GroupSpec.interfaceErrors.touched view idx r acts
  | .serialLines => GroupSpec.serialLines.touched view idx r acts
  | .filesystems => GroupSpec.filesystems.touched view idx r acts
  | .fcHosts => GroupSpec.fcHosts.touched view idx r acts
  | .fans => touchedAt .fan view.slot acts (Sensor.position? r.1)
  | .temperatures => touchedAt .temp view.slot acts (Sensor.position? r.1)
  | .voltages => touchedAt .voltage view.slot acts (Sensor.position? r.1)
  | .usbDevices => touchedAt .usb view.slot acts (Sensor.position? r.1)
  | .batteries => touchedAt .bat view.slot acts (Sensor.position? r.1)
  | .interrupts => touchedCell view idx r acts
  | g =>
    match g.part with
    | .single k => [(acts.single k).updateAccess view.slot 0]
    | _ => []

/-- What a group accesses of its part when it emits a sample. -/
def emitAccesses (g : Group) (view : ExportView) : List Access :=
  match g with
  | .cpu =>
    unitAccesses CpuTimes.add view.acts.cpu view.slot ++ loneAccesses view.acts.cpu view.slot
  | .softnet => unitAccesses Softnet.add view.acts.softnet view.slot
  | .interrupts => view.acts.irq.emitAccesses view.slot
  | g =>
    match g.part with
    | .single k => [(view.acts.single k).readAccess view.slot]
    | .multi k => [(view.acts.multi k).readAccess view.slot]
    | _ => []

/-- The metrics of which a group asks whether they are defined. -/
def consulted : Group → List Nat
  | .cpu => [0, 11]
  | .softnet => [0, 6]
  | .memory => List.range memoryColumns.length
  | .interrupts => [sumMetric, lineMetric, cpuLineMetric]
  | _ => []

/-- What a group accesses at the end of a record. -/
def finishAccesses (g : Group) (s : Slot) (acts : Activities) : List Access :=
  match g with
  | .cpu => (List.range (acts.cpu.buffer.observed.get s)).map acts.cpu.buffer.access
  | _ => []

theorem inRange_touched {view : ImportView} {acts : Activities} (h : acts.Readable view.slot)
    (g : Group) (idx : Nat) (r : Reading) : ∀ x ∈ g.touched view idx r acts, x.InRange := by
  cases g with
  | cpu | softnet | cpuClock | fans | temperatures | voltages | usbDevices | batteries =>
    exact inRange_touchedAt _ view.slot acts _
  | disks | interfaces | interfaceErrors | serialLines | filesystems | fcHosts =>
    exact Keyed.inRange_touched _ h idx r
  | interrupts => exact inRange_touchedCell h idx r
  | fileHeader => simp [touched, part]
  | _ =>
    intro x hx
    obtain rfl := List.mem_singleton.mp hx
    exact Activity.inRange_update _ _ _

theorem inRange_emit {view : ExportView} (h : view.acts.Readable view.slot) (g : Group) :
    ∀ x ∈ g.emitAccesses view, x.InRange := by
  cases g with
  | cpu =>
    intro x hx
    rcases List.mem_append.mp hx with hx | hx
    · exact inRange_unitAccesses _ _ _ x hx
    · exact inRange_loneAccesses (h.multi .cpu) x hx
  | softnet => exact inRange_unitAccesses _ _ _
  | interrupts => exact Interrupts.inRange_emit h.irq view.slot
  | fileHeader => simp [emitAccesses, part]
  | cpuClock | fans | temperatures | voltages | usbDevices | batteries | disks | interfaces
  | interfaceErrors | serialLines | filesystems | fcHosts =>
    intro x hx
    obtain rfl := List.mem_singleton.mp hx
    exact h.multi _
  | _ =>
    intro x hx
    obtain rfl := List.mem_singleton.mp hx
    exact h.single _

/-- Nothing is a fault that is emitted where all accesses are in range. -/
theorem indexed_of_inRange (g : Group) {view : ExportView}
    (h : ∀ x ∈ g.emitAccesses view, x.InRange) :
    ∀ e ∈ (g.spec.emit view).2, e.Indexed g.metrics.length := by
  cases g with
  | fileHeader => exact indexed_host view
  | recordHeader => exact uptime_writes.indexed_singular (fun _ => Nat.le_refl _) view
  | cpu => exact indexed_cpu fun x hx => h x (List.mem_append_left _ hx)
  | softnet => exact indexed_softnet h
  | cpuClock => exact indexed_cpuClock view
  | interrupts => exact indexed_interrupts h
  | memory => exact indexed_memory view
  | hugePages => exact hugePages_writes.indexed_singular (fun _ => Nat.le_refl _) view
  | runQueue => exact runQueue_writes.indexed_fixed (fun _ => Nat.le_succ _) (by decide) view
  | nfsClient => exact nfsClient_writes.indexed_fixed (fun _ => Nat.le_succ _) (by decide) view
  | nfsServer => exact nfsServer_writes.indexed_fixed (fun _ => Nat.le_succ _) (by decide) view
  | cpuPressure =>
    exact cpuPressure_writes.indexed (fun _ _ => indexed_emitPressure (by decide)) view
  | ioPressure => exact ioPressure_writes.indexed (fun _ _ => indexed_emitBoth (by decide)) view
  | memoryPressure =>
    exact memoryPressure_writes.indexed (fun _ _ => indexed_emitBoth (by decide)) view
  | disks | interfaces | interfaceErrors | serialLines | filesystems | fcHosts =>
    refine Keyed.indexed _ (fun r v hv => ?_) view
    have hidx := List.mem_map_of_mem (f := Prod.fst) hv
    revert hidx
    simp only [GroupSpec.disks, GroupSpec.interfaces, GroupSpec.interfaceErrors,
      GroupSpec.serialLines, GroupSpec.filesystems, GroupSpec.fcHosts, map_fst_numbered,
      List.map_cons, List.map_nil, List.length_cons, List.length_nil, List.mem_range,
      List.mem_cons, List.not_mem_nil, or_false]
    omega
  | fans | temperatures | voltages | usbDevices | batteries =>
    exact Sensor.indexed _ (fun _ => Nat.le_refl _) view
  | taskSwitches | swap | paging | blockIo | kernelTables | sockets | ip | ipErrors | icmp
  | icmpErrors | tcp | tcpErrors | udp | sockets6 | ip6 | ip6Errors | icmp6 | icmp6Errors
  | udp6 => exact (flat_writes _ _ _ _).indexed_singular (fun _ => Nat.le_refl _) view

/-- What a group emits does not depend on what is said of metrics that it does not ask for. -/
theorem emit_consulted (g : Group) {view : ExportView} {isDefined : Nat → Bool}
    (h : ∀ idx ∈ g.consulted, isDefined idx = view.isDefined idx) :
    g.spec.emit { view with isDefined } = g.spec.emit view := by
  cases g with
  | cpu => exact emit_cpu_congr (h 0 (by decide)) (h 11 (by decide))
  | softnet => exact emit_softnet_congr (h 0 (by decide)) (h 6 (by decide))
  | memory => exact emit_memory_congr fun idx hidx => h idx (List.mem_range.mpr hidx)
  | interrupts =>
    exact emit_interrupts_congr (h sumMetric (by decide)) (h lineMetric (by decide))
      (h cpuLineMetric (by decide))
  | _ => rfl

theorem lt_of_consulted {g : Group} {idx : Nat} (h : idx ∈ g.consulted) :
    idx < g.metrics.length := by
  cases g with
  | cpu | softnet | interrupts =>
    simp only [consulted, List.mem_cons, List.not_mem_nil, or_false] at h
    rcases h with rfl | rfl | rfl <;> decide
  | memory => exact List.mem_range.mp h
  | _ => cases h

/-- Only groups that aggregate make room when they emit, and only for their own part. -/
theorem roomy_emit {view : ExportView} (h : view.acts.Roomy) (g : Group) :
    (g.spec.emit view).1.Roomy := by
  have hother : ∀ t, t ≠ g.part → (g.spec.emit view).1.part t = view.acts.part t :=
    (spec_local g).emit_part_ne view
  cases g with
  | cpu => exact h.replace_multi hother (aggregates_cpu.roomy h)
  | softnet => exact h.replace_multi hother (aggregates_softnet.roomy h)
  | interrupts =>
    have hlater := (spec_selfContained .interrupts).later view h.irq
    refine ⟨fun k => ?_, fun k => ?_, hlater.irq.sized h.irq⟩
    · have hsame : (interrupts.spec.emit view).1.single k = view.acts.single k :=
        hother (.single k) (by simp [part])
      exact hsame ▸ h.single k
    · have hsame : (interrupts.spec.emit view).1.multi k = view.acts.multi k :=
        hother (.multi k) (by simp [part])
      exact hsame ▸ h.multi k
  | _ => exact h

theorem inRange_finish {s : Slot} {acts : Activities} (h : acts.Readable s) (g : Group) :
    ∀ x ∈ g.finishAccesses s acts, x.InRange := by
  cases g with
  | cpu =>
    intro x hx
    obtain ⟨idx, hidx, rfl⟩ := List.mem_map.mp hx
    exact Nat.lt_of_lt_of_le (List.mem_range.mp hidx) (h.multi .cpu)
  | _ => simp [finishAccesses]

end Group

end ActivityArchive
