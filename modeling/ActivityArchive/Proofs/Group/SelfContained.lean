import ActivityArchive.Proofs.Group.Support

/-!
Every group is self-contained. Groups of one record and groups of items define their whole table;
memory, the CPUs and the interrupts define parts of theirs, and look at what is defined before they
emit.
-/
namespace ActivityArchive.GroupSpec

open Record

theorem spans_flat (name : String) (k : Single) {counters : List (Counter k.Rec)} {rows : List Row}
    (h : counters.length = rows.length) :
    Spans (flat name k counters rows).metrics 0 counters.length none := by
  have hlen : (flat name k counters rows).metrics.length = counters.length := by
    simp [flat, h]
  rw [← hlen]
  refine spans_of_all fun m hm => ?_
  obtain ⟨i, hi, rfl⟩ := List.getElem_of_mem hm
  simp [flat, Row.descriptor]

theorem flat_selfContained (name : String) (k : Single) {counters : List (Counter k.Rec)}
    {rows : List Row} (h : counters.length = rows.length) :
    (flat name k counters rows).SelfContained :=
  (flat_writes name k counters rows).selfContained_singular (fun _ => rfl) fun r => by
    rw [List.length_map]
    exact spans_flat name k h

theorem host_selfContained : host.SelfContained := by
  have htab : host.Tabular fun _ => [] := tabular_bare fun _ => rfl
  refine ⟨htab.definable, fun _ _ => .refl _, fun dv ev hd _ _ => .of_backed ?_⟩
  show ∀ e ∈ (if ev.isFirst then singular 0 (hostColumns.map (·.value ev.acts.header))
    else []), _
  split
  · have hs : Spans host.metrics 0 (hostColumns.map (·.value ev.acts.header)).length none := rfl
    exact backed_singular hs fun i hi => (hd _).mpr (htab.mem_asked dv (hs.lt hi))
  · simp

theorem mem_shownMemory_lt {families : MemoryFamilies} {idx : Nat}
    (h : idx ∈ shownMemory families) : idx < memory.metrics.length := by
  have hlen : memory.metrics.length = 19 := rfl
  rw [hlen]
  simp only [shownMemory, List.mem_append] at h
  rcases h with (h | h) | h <;> split at h <;>
    simp only [List.not_mem_nil, List.mem_range'_1] at h <;> omega

theorem memory_selfContained : memory.SelfContained := by
  refine memory_writes.selfContained (fun view => definable_oneByOne fun x hx => ?_)
    fun dv isDefined m hd e he => ?_
  · obtain ⟨idx, hidx, rfl⟩ := List.mem_map.mp hx
    exact mem_shownMemory_lt hidx
  · obtain ⟨hmem, hdef⟩ := List.mem_filter.mp he
    obtain ⟨i, hi, rfl⟩ := List.mem_mapIdx.mp hmem
    have hs : Spans memory.metrics 0 (memoryColumns.map (·.value m)).length none := rfl
    obtain ⟨c, hc, hdom⟩ := hs.getElem? hi
    exact ⟨hdef, c, hc, by simp [hdom]⟩

theorem emitPressure_backed {metrics : List Descriptor} {defined : Nat → Prop}
    {known : DomainId → String → Prop} {idx : Nat} {avg : Window} {total : UInt64}
    (h : Spans metrics idx 1 (some Domain.pressure)) (h' : Spans metrics (idx + 1) 1 none)
    (hl : ∀ e ∈ Domain.pressureWindows, known Domain.pressure e.2)
    (hdef : ∀ i < metrics.length, defined i) :
    ∀ e ∈ emitPressure idx avg total, e.Backed metrics defined known := by
  intro e he
  rcases List.mem_append.mp he with he | he
  · exact backed_emitFixed h hl (hdef idx (h.lt Nat.one_pos)) e he
  · obtain rfl := List.mem_singleton.mp he
    obtain ⟨m, hm, hd⟩ := h'.getElem? Nat.one_pos
    exact ⟨hdef _ (h'.lt Nat.one_pos), m, hm, by simp [hd]⟩

/-- Groups of pressure differ in how many lines they write. -/
theorem pressure_selfContained {g : GroupSpec} {k : Single} {F : k.Rec → List Emission}
    (h : g.Writes k fun _ => F)
    (ht : ∀ view, g.define view = .table :: fixed Domain.pressure Domain.pressureWindows)
    (hF : ∀ (defined : Nat → Prop) (known : DomainId → String → Prop),
      (∀ e ∈ Domain.pressureWindows, known Domain.pressure e.2) →
      (∀ i < g.metrics.length, defined i) →
      ∀ r, ∀ e ∈ F r, e.Backed g.metrics defined known) : g.SelfContained := by
  have htab := tabular_fixed ht
  refine h.selfContained htab.definable fun dv isDefined r hd => hF _ _ ?_ ?_ r
  · exact fun x hx => ⟨some x.1, htab.entry_mem (List.mem_map.mpr ⟨x, hx, rfl⟩)⟩
  · exact fun i hi => (hd i).mpr (htab.mem_asked dv hi)

theorem cpuPressure_selfContained : cpuPressure.SelfContained :=
  pressure_selfContained cpuPressure_writes (fun _ => rfl) fun _ _ hl hdef _ =>
    emitPressure_backed rfl rfl hl hdef

theorem emitBoth_backed {metrics : List Descriptor} {defined : Nat → Prop}
    {known : DomainId → String → Prop} (h : Spans metrics 0 1 (some Domain.pressure))
    (h1 : Spans metrics 1 1 none) (h2 : Spans metrics 2 1 (some Domain.pressure))
    (h3 : Spans metrics 3 1 none) (hl : ∀ e ∈ Domain.pressureWindows, known Domain.pressure e.2)
    (hdef : ∀ i < metrics.length, defined i) (p : Pressure) :
    ∀ e ∈ emitBoth p, e.Backed metrics defined known := by
  intro e he
  rcases List.mem_append.mp he with he | he
  · exact emitPressure_backed h h1 hl hdef e he
  · exact emitPressure_backed h2 h3 hl hdef e he

theorem ioPressure_selfContained : ioPressure.SelfContained :=
  pressure_selfContained ioPressure_writes (fun _ => rfl) fun _ _ hl hdef =>
    emitBoth_backed rfl rfl rfl rfl hl hdef

theorem memoryPressure_selfContained : memoryPressure.SelfContained :=
  pressure_selfContained memoryPressure_writes (fun _ => rfl) fun _ _ hl hdef =>
    emitBoth_backed rfl rfl rfl rfl hl hdef

/-- An instance with its values behind it. -/
theorem supported_item {metrics : List Descriptor} {defined : Nat → Prop}
    {known : DomainId → String → Prop} {d : DomainId} {l : String} {num : Option Int}
    {es : List Emission}
    (h : ∀ e ∈ es, e.Backed metrics defined fun d' l' => known d' l' ∨ (d' = d ∧ l' = l)) :
    Supported metrics defined known (.entry d l num :: es) := by
  show Supported metrics defined (fun d' l' => known d' l' ∨ (d' = d ∧ l' = l)) es
  exact .of_backed h

theorem map_fst_numbered (values : List Value) :
    (numbered values).map (·.1) = List.range values.length := by
  rw [numbered, List.mapIdx_eq_zipIdx_map, List.map_map, List.range_eq_range']
  exact List.zipIdx_map_snd 0 values

/-- All records have values of the same metrics. -/
theorem keyed_selfContained {k : Multi} (g : Keyed k) (is : List Nat)
    (hdom : ∀ m ∈ g.metrics, m.domain = some g.domain)
    (hval : ∀ r, (g.values r).map (·.1) = is)
    (hlt : ∀ i ∈ is, i < g.metrics.length) : g.spec.SelfContained := by
  have htab : g.spec.Tabular fun view =>
      (view.discovery.flatMap (·.multi k)).filterMap fun r =>
        (g.shown? view.config r).map fun label => .entry g.domain label (g.number r) := by
    refine ⟨fun _ => rfl, fun view x hx => ?_⟩
    obtain ⟨r, _, hr⟩ := List.mem_filterMap.mp hx
    obtain ⟨label, _, rfl⟩ := Option.map_eq_some_iff.mp hr
    exact ⟨_, _, _, rfl⟩
  refine ⟨htab.definable, fun _ _ => .refl _, fun dv ev hd _ _ => Supported.flatMap
    fun r _ => ?_⟩
  unfold Keyed.emissions
  split
  · rename_i label _
    refine supported_item fun e he => ?_
    obtain ⟨⟨idx, v⟩, hp, rfl⟩ := List.mem_map.mp he
    have hidx : idx < g.metrics.length := hlt idx (hval r ▸ List.mem_map.mpr ⟨_, hp, rfl⟩)
    obtain ⟨m, hm, hmd⟩ := (spans_of_all hdom).getElem? hidx
    rw [Nat.zero_add] at hm
    refine ⟨(hd _).mpr (htab.mem_asked dv hidx), m, hm, fun d hd' => ⟨label, rfl, ?_⟩⟩
    obtain rfl : g.domain = d := Option.some.inj (hmd.symm.trans hd')
    exact Or.inr ⟨rfl, rfl⟩
  · trivial

theorem sensor_selfContained {k : Multi} (g : Sensor k)
    (hs : ∀ r, Spans g.metrics 0 (g.values r).length (some g.domain)) :
    g.spec.SelfContained := by
  have htab : g.spec.Tabular fun view => view.discovery.flatMap fun sample =>
      (sample.multi k).mapIdx fun i r => .entry g.domain (g.label i r) (some (i : Int)) := by
    refine ⟨fun _ => rfl, fun view x hx => ?_⟩
    obtain ⟨sample, _, hx⟩ := List.mem_flatMap.mp hx
    obtain ⟨i, _, rfl⟩ := List.mem_mapIdx.mp hx
    exact ⟨_, _, _, rfl⟩
  refine ⟨htab.definable, fun _ _ => .refl _, fun dv ev hd _ _ => ?_⟩
  show Supported _ _ _ (List.flatten _)
  rw [← List.flatMap_id]
  refine Supported.flatMap fun es hes => ?_
  obtain ⟨i, hi, rfl⟩ := List.mem_mapIdx.mp hes
  refine supported_item (backed_ofInstance (hs _) (Or.inr ⟨rfl, rfl⟩) fun j hj => ?_)
  exact (hd _).mpr (htab.mem_asked dv ((hs _).lt hj))

/-- Both halves of a catalog are defined as a whole, or not at all. -/
theorem asked_halves {g : GroupSpec} {view : DefineView} {half size count : Nat}
    {selection : Bitmap} (h : g.define view = defineHalves half size count selection)
    (hle : half ≤ size) {idx : Nat} :
    idx ∈ g.asked view ↔ (selection.contains 0 ∧ idx < half) ∨
      (selectedUnits count selection ≠ [] ∧ half ≤ idx ∧ idx < size) := by
  have hentries : ∀ is : List Nat, (is.map fun i => Definition.entry (cpuEntry i).1
    (cpuEntry i).2.1
      (cpuEntry i).2.2).flatMap (Definition.indices g.metrics.length) = [] := by
    intro is
    simp [Definition.indices, List.flatMap_map]
  have hmetrics : ∀ is : List Nat,
      (is.map .metric).flatMap (Definition.indices g.metrics.length) = is := by
    intro is
    simp [Definition.indices, List.flatMap_map]
  rw [asked, h]
  simp only [defineHalves, List.flatMap_append, List.mem_append, hentries, List.not_mem_nil,
    or_false]
  refine or_congr ?_ ?_
  · by_cases hc : selection.contains 0 <;> simp [hc, hmetrics]
  · by_cases hc : (selectedUnits count selection).isEmpty
    · simp [List.isEmpty_iff.mp hc]
    · rw [if_neg hc, hmetrics, List.mem_range'_1]
      have hne : selectedUnits count selection ≠ [] := fun hn => hc (by simp [hn])
      simp only [hne, ne_eq, not_false_eq_true, true_and]
      omega

theorem definable_halves {size half count : Nat} {selection : Bitmap} (hle : half ≤ size) :
    Definable size false (defineHalves half size count selection) := by
  refine definable_oneByOne fun x hx => ?_
  simp only [defineHalves, List.mem_append] at hx
  rcases hx with (hx | hx) | hx
  · split at hx
    · obtain ⟨idx, hidx, rfl⟩ := List.mem_map.mp hx
      exact Nat.lt_of_lt_of_le (List.mem_range.mp hidx) hle
    · simp at hx
  · split at hx
    · simp at hx
    · obtain ⟨idx, hidx, rfl⟩ := List.mem_map.mp hx
      rw [List.mem_range'_1] at hidx
      show idx < size
      omega
  · obtain ⟨i, _, rfl⟩ := List.mem_map.mp hx
    trivial

theorem supported_half {metrics : List Descriptor} {known : DomainId → String → Prop}
    {view : ExportView} {width idx : Nat} {values : List Value} (hlen : values.length = width)
    (hall : Spans metrics 0 width none) (heach : Spans metrics width width (some Domain.perCpu))
    (h0 : view.isDefined 0 → ∀ i < width, view.isDefined i)
    (hw : view.isDefined width → ∀ i < width, view.isDefined (width + i)) :
    Supported metrics (view.isDefined ·) known (emitHalf view width idx values) := by
  subst hlen
  unfold emitHalf
  split
  · split
    · rename_i hd
      refine .of_backed (backed_singular hall fun i hi => ?_)
      rw [Nat.zero_add]
      exact h0 hd i hi
    · trivial
  · split
    · rename_i hd
      exact supported_item (backed_ofInstance heach (Or.inr ⟨rfl, rfl⟩) fun i hi => hw hd i hi)
    · trivial

theorem spans_unitMetrics {R : Type} (cluster : UInt32) (all each : String) (unit : MetricUnit)
    (columns : List (UnitColumn R)) :
    Spans (unitMetrics cluster all each unit columns) 0 columns.length none ∧
      Spans (unitMetrics cluster all each unit columns) columns.length columns.length
        (some Domain.perCpu) := by
  constructor
  · simp [Spans, unitMetrics, Function.comp_def, List.map_const']
  · simp [Spans, unitMetrics, Function.comp_def, List.map_const', List.take_of_length_le]

/-- Every record of the plan can be shown. -/
theorem shown_ok {R : Type} {a : Activity R} {record : Nat → Except BufferError R}
    (h : ∀ idx < a.count, ∃ r, record idx = .ok r) : ∃ rs, shown a record = .ok rs := by
  refine exists_mapM_ok fun idx hidx => ?_
  obtain ⟨r, hr⟩ := h idx (List.mem_range.mp (List.mem_filter.mp hidx).1)
  exact ⟨(idx, r), by rw [hr, Except.map]⟩

/-- The CPUs that a group works out before it shows them. -/
structure Prepares {R : Type} (a b : Activity R) : Prop where
  planned : b.planned = a.planned
  selection : b.selection = a.selection
  count_le : a.count ≤ b.buffer.cells.length

theorem prepares_prepare {R : Type} [Inhabited R] (a : Activity R) (s : Slot) :
    Prepares a (a.prepare s) :=
  ⟨rfl, rfl, a.count_le_prepare s⟩

theorem prepares_fill {R : Type} [Inhabited R] (a : Activity R) (s : Slot) (rs : List R)
    (offline : Bitmap) :
    Prepares a { a.prepare s with buffer := (a.prepare s).buffer.fill s rs, offline } := by
  refine ⟨rfl, rfl, ?_⟩
  rw [SampleBuffer.length_fill]
  exact a.count_le_prepare s

theorem prepareCpu_prepares (a : Activity CpuTimes) (s : Slot) : Prepares a (prepareCpu a s) := by
  unfold prepareCpu
  dsimp only
  split
  · exact prepares_fill a s _ _
  · exact prepares_prepare a s

theorem prepareSoftnet_prepares (a : Activity Softnet) (s : Slot) :
    Prepares a (prepareSoftnet a s) := by
  unfold prepareSoftnet
  dsimp only
  split
  · exact prepares_fill a s _ _
  · exact prepares_prepare a s

theorem shownCpu_ok {a : Activity CpuTimes} {idx : Nat} (h : idx < a.buffer.cells.length)
    (s : Slot) : ∃ r, shownCpu a s idx = .ok r := by
  obtain ⟨curr, hcurr⟩ := SampleBuffer.elementAt_ok h s
  obtain ⟨prev, hprev⟩ := SampleBuffer.elementAt_ok h s.other
  unfold shownCpu
  rw [hcurr, hprev]
  by_cases h0 : idx = 0
  · exact ⟨curr, by simp [h0, bind, Except.bind, pure, Except.pure]⟩
  · exact ⟨_, by simp [h0, bind, Except.bind, pure, Except.pure]; rfl⟩

/-- The definition of the halves is what `supported_half` asks of a view. -/
theorem halves_defined {g : GroupSpec} {dv : DefineView} {ev : ExportView} {half size count : Nat}
    {selection : Bitmap} (h : g.define dv = defineHalves half size count selection)
    (hpos : 0 < half) (hsize : size = half + half)
    (hd : ∀ idx, ev.isDefined idx ↔ idx ∈ g.asked dv) :
    (ev.isDefined 0 → ∀ i < half, ev.isDefined i) ∧
      (ev.isDefined half → ∀ i < half, ev.isDefined (half + i)) := by
  have hle : half ≤ size := by omega
  simp only [hd, asked_halves h hle]
  constructor
  · rintro (⟨hc, _⟩ | ⟨_, h0, _⟩) i hi
    · exact Or.inl ⟨hc, hi⟩
    · omega
  · rintro (⟨_, h0⟩ | ⟨hne, _⟩) i hi
    · omega
    · exact Or.inr ⟨hne, by omega, by omega⟩

theorem supported_units {R : Type} {metrics : List Descriptor}
    {known : DomainId → String → Prop} {view : ExportView} {width : Nat}
    {values : R → List Value}
    {records : Except BufferError (List (Nat × R))} (hrec : ∃ rs, records = .ok rs)
    (hlen : ∀ r, (values r).length = width)
    (hspans : Spans metrics 0 width none ∧ Spans metrics width width (some Domain.perCpu))
    (hdef : (view.isDefined 0 → ∀ i < width, view.isDefined i) ∧
      (view.isDefined width → ∀ i < width, view.isDefined (width + i))) :
    Supported metrics (view.isDefined ·) known (emitUnits view width values records) := by
  obtain ⟨rs, rfl⟩ := hrec
  exact Supported.flatMap fun r _ => supported_half (hlen r.2) hspans.1 hspans.2 hdef.1 hdef.2

theorem cpu_selfContained : cpu.SelfContained where
  definable view := definable_halves (by decide)
  later view _ := by
    have hp := prepareCpu_prepares view.acts.cpu view.slot
    unfold cpu
    dsimp only
    split
    · exact .refl _
    · exact Activities.later_of_multi (k := .cpu) hp.planned hp.selection
  supported dv ev hd _ _ := by
    have hp := prepareCpu_prepares ev.acts.cpu ev.slot
    have hdef := halves_defined (g := cpu) rfl (by decide) rfl hd
    have hspans := spans_unitMetrics 0 "kernel.all.cpu." "kernel.percpu.cpu." .msec cpuColumns
    show Supported cpu.metrics _ _ (if ev.acts.cpu.buffer.observed.get ev.slot = 0 then _ else _ :
      Activities × List Emission).2
    split
    · trivial
    · refine supported_units (shown_ok fun idx hidx => shownCpu_ok ?_ _) (fun _ => rfl) hspans hdef
      rw [Activity.count, hp.planned] at hidx
      exact Nat.lt_of_lt_of_le hidx hp.count_le

theorem softnet_selfContained : softnet.SelfContained where
  definable view := definable_halves (by decide)
  later view _ := by
    have hp := prepareSoftnet_prepares view.acts.softnet view.slot
    unfold softnet
    dsimp only
    split
    · exact .refl _
    · exact Activities.later_of_multi (k := .softnet) hp.planned hp.selection
  supported dv ev hd _ _ := by
    have hp := prepareSoftnet_prepares ev.acts.softnet ev.slot
    have hdef := halves_defined (g := softnet) rfl (by decide) rfl hd
    have hspans := spans_unitMetrics 57 "network.softnet." "network.softnet.percpu." .count
      softnetColumns
    show Supported softnet.metrics _ _ (if ev.acts.softnet.buffer.observed.get ev.slot = 0
      then _ else _ : Activities × List Emission).2
    split
    · trivial
    · refine supported_units (shown_ok fun idx hidx => SampleBuffer.elementAt_ok ?_ _)
        (fun _ => rfl) hspans hdef
      rw [Activity.count, hp.planned] at hidx
      exact Nat.lt_of_lt_of_le hidx hp.count_le

theorem mem_drop_zipIdx {A : Type} {xs : List A} {x : A} {n i : Nat}
    (h : (x, i) ∈ xs.zipIdx.drop n) : n ≤ i ∧ xs[i]? = some x := by
  obtain ⟨j, hj⟩ := List.mem_iff_getElem?.mp h
  rw [List.getElem?_drop, List.getElem?_zipIdx] at hj
  obtain ⟨y, hy, hxy⟩ := Option.map_eq_some_iff.mp hj
  simp only [Prod.mk.injEq, Nat.zero_add] at hxy
  obtain ⟨rfl, rfl⟩ := hxy
  exact ⟨Nat.le_add_right n j, hy⟩

theorem cpuClock_selfContained : cpuClock.SelfContained where
  definable view := definable_halves (by decide)
  later view _ := .refl _
  supported dv ev hd hlater _ := by
    obtain ⟨hplan, hsel⟩ := hlater.multi .cpufreq
    have hcount : ev.acts.cpufreq.count = dv.acts.cpufreq.count := hlater.count .cpufreq
    refine Supported.flatMap fun x hx => ?_
    obtain ⟨r, idx⟩ := x
    obtain ⟨hmem, hcontains⟩ := List.mem_filter.mp hx
    obtain ⟨hpos, hget⟩ := mem_drop_zipIdx hmem
    have hlt : idx < dv.acts.cpufreq.count := by
      have := (List.getElem?_eq_some_iff.mp hget).1
      rw [List.length_take] at this
      omega
    have hshown : idx ∈ selectedUnits dv.acts.cpufreq.count dv.acts.cpufreq.selection :=
      List.mem_filter.mpr ⟨List.mem_range'_1.mpr ⟨hpos, by omega⟩, hsel ▸ hcontains⟩
    have hdef : ev.isDefined 0 := by
      rw [hd, asked_halves (g := cpuClock) rfl (by decide)]
      exact Or.inr ⟨List.ne_nil_of_mem hshown, by decide⟩
    exact ⟨⟨hdef, _, rfl,
      fun d hdom => ⟨_, rfl, Or.inr ⟨(Option.some.inj hdom).symm, rfl⟩⟩⟩, trivial⟩

theorem supported_cell {known : DomainId → String → Prop} (isDefined : Nat → Bool)
    (cpu line : Nat) (name : String) (count : UInt64) :
    Supported interruptMetrics (isDefined ·) known
      (cellEmissions isDefined cpu line name count) := by
  unfold cellEmissions
  split
  · split
    · split
      · rename_i h
        exact ⟨⟨h, _, rfl, by simp⟩, trivial⟩
      · trivial
    · split
      · rename_i h
        exact ⟨⟨h, _, rfl, fun d hd =>
          ⟨_, rfl, Or.inr ⟨(Option.some.inj hd).symm, rfl⟩⟩⟩, trivial⟩
      · trivial
  · split
    · rename_i h
      exact ⟨⟨h.2, _, rfl, fun d hd =>
        ⟨_, rfl, Or.inr ⟨(Option.some.inj hd).symm, rfl⟩⟩⟩, trivial⟩
    · trivial

theorem definable_interrupts (a : Interrupts) :
    Definable interruptMetrics.length false (defineInterrupts a) := by
  refine definable_oneByOne fun x hx => ?_
  simp only [defineInterrupts, List.mem_append] at hx
  rcases hx with (hx | hx) | hx
  · split at hx
    · rcases List.mem_append.mp hx with hx | hx
      · simp only [List.mem_cons, List.not_mem_nil, or_false] at hx
        rcases hx with rfl | rfl <;> decide
      · obtain ⟨line, _, rfl⟩ := List.mem_map.mp hx
        trivial
    · simp at hx
  · split at hx
    · simp at hx
    · obtain rfl := List.mem_singleton.mp hx
      decide
  · obtain ⟨cpu, _, hx⟩ := List.mem_flatMap.mp hx
    obtain ⟨line, _, rfl⟩ := List.mem_map.mp hx
    trivial

theorem later_irq {a : Activities} {b : Interrupts} (h : Interrupts.Later a.irq b) :
    a.Later { a with irq := b } :=
  ⟨fun _ => ⟨rfl, rfl⟩, h⟩

/-- What interrupts emit where the grid is sized: rows that are planned for and selected. -/
theorem emit_interrupts (view : ExportView) (h : view.acts.irq.grid.Sized) :
    interrupts.emit view = (view.acts, []) ∨
      ∃ (b : Interrupts) (rows : List (Nat × List UInt64)), Interrupts.Later view.acts.irq b ∧
        (∀ x ∈ rows, x.1 < view.acts.irq.count ∧
          view.acts.irq.selection.contains x.1 = true) ∧
        interrupts.emit view = ({ view.acts with irq := b }, rows.flatMap fun x =>
          rowEmissions view.isDefined b.lines x.1 x.2) := by
  unfold interrupts
  dsimp only
  split
  · exact Or.inl rfl
  · obtain ⟨b, hprep, hlater, hcpus⟩ := prepareInterrupts_ok h view.slot
    have hrows : (view.acts.irq.grid.observed.get view.slot).1 ≤ b.grid.cpus :=
      hcpus ▸ h.observed view.slot
    refine Or.inr ⟨b, ((List.range (min b.count
      (view.acts.irq.grid.observed.get view.slot).1)).filter fun cpu =>
        isShown cpu b.selection b.offline).map fun cpu =>
          (cpu, (b.grid.rowCells cpu).map (·.get view.slot)), hlater, fun x hx => ?_, ?_⟩
    · obtain ⟨cpu, hcpu, rfl⟩ := List.mem_map.mp hx
      obtain ⟨hlt, hshown⟩ := List.mem_filter.mp hcpu
      have hcount : b.count = view.acts.irq.count := congrArg (·.getD 0) hlater.planned
      have hlt := List.mem_range.mp hlt
      have hshown := (Bool.and_eq_true _ _ ▸ hshown).1
      rw [hlater.selection] at hshown
      exact ⟨by omega, hshown⟩
    · simp only [hprep, emitInterrupts_ok (hlater.sized h) _ _ hrows, List.flatMap_map]

theorem interrupts_selfContained : interrupts.SelfContained where
  definable view := definable_interrupts view.acts.irq
  later view hsized := by
    rcases emit_interrupts view hsized with he | ⟨b, rows, hlater, -, he⟩
    · rw [he]
      exact .refl _
    · rw [he]
      exact later_irq hlater
  supported dv ev _ _ hsized := by
    rcases emit_interrupts ev hsized with he | ⟨b, rows, -, -, he⟩
    · rw [he]
      trivial
    · rw [he]
      refine Supported.flatMap fun x _ => Supported.flatMap fun y _ => ?_
      exact supported_cell ev.isDefined x.1 y.2 y.1.1 y.1.2

end ActivityArchive.GroupSpec

namespace ActivityArchive.Group

open GroupSpec

theorem spec_selfContained (g : Group) : g.spec.SelfContained := by
  cases g with
  | fileHeader => exact host_selfContained
  | recordHeader => exact uptime_writes.selfContained_singular (fun _ => rfl) fun _ => rfl
  | cpu => exact cpu_selfContained
  | softnet => exact softnet_selfContained
  | cpuClock => exact cpuClock_selfContained
  | interrupts => exact interrupts_selfContained
  | memory => exact memory_selfContained
  | hugePages => exact hugePages_writes.selfContained_singular (fun _ => rfl) fun _ => rfl
  | runQueue => exact runQueue_writes.selfContained_fixed (fun _ => rfl) (fun _ => rfl) rfl
  | nfsClient => exact nfsClient_writes.selfContained_fixed (fun _ => rfl) (fun _ => rfl) rfl
  | nfsServer => exact nfsServer_writes.selfContained_fixed (fun _ => rfl) (fun _ => rfl) rfl
  | cpuPressure => exact cpuPressure_selfContained
  | ioPressure => exact ioPressure_selfContained
  | memoryPressure => exact memoryPressure_selfContained
  | disks => exact keyed_selfContained _ (List.range' 2 11) (by decide) (fun _ => rfl) (by decide)
  | interfaces =>
    exact keyed_selfContained _ (List.range 7) (by decide) (fun _ => map_fst_numbered _) (by decide)
  | interfaceErrors =>
    exact keyed_selfContained _ (List.range 9) (by decide) (fun _ => map_fst_numbered _) (by decide)
  | serialLines =>
    exact keyed_selfContained _ (List.range 6) (by decide) (fun _ => map_fst_numbered _) (by decide)
  | filesystems =>
    exact keyed_selfContained _ (List.range 8) (by decide) (fun _ => map_fst_numbered _) (by decide)
  | fcHosts =>
    exact keyed_selfContained _ (List.range 4) (by decide) (fun _ => map_fst_numbered _) (by decide)
  | fans | temperatures | voltages | usbDevices | batteries =>
    exact sensor_selfContained _ fun _ => rfl
  | taskSwitches | swap | paging | blockIo | kernelTables | sockets | ip | ipErrors | icmp
  | icmpErrors | tcp | tcpErrors | udp | sockets6 | ip6 | ip6Errors | icmp6 | icmp6Errors
  | udp6 => exact flat_selfContained _ _ rfl

end ActivityArchive.Group
