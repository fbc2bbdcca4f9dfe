import ActivityArchive.Proofs.Archive.Cpus
import ActivityArchive.Proofs.Session.Texts

/-!
The aggregate of all CPUs over a run. A record shows, where its sample has CPUs at all, the sum of
the counters that the session remembers of them, and it remembers what it saw since the last sample
without CPUs. So a total falls only behind such a gap, and by no more than what the CPUs had that
are offline there (`totals_between_records`).
-/
namespace ActivityArchive

open Activities GroupSpec Record

section Values

variable {R : Type} {view : ExportView} {width idx : Nat} {values : R → List Value}
  {label : Option String} {v : Value}

/-- The first half of a catalog holds the values of record 0. -/
theorem mem_emitUnits {rs : List (Nat × R)} (hidx : idx < width) :
    .value idx label v ∈ emitUnits view width values (.ok rs) ↔
      view.isDefined 0 = true ∧ label = none ∧ ∃ r, (0, r) ∈ rs ∧
      (values r)[idx]? = some v := by
  have hhalf : ∀ row : Nat × R, .value idx label v ∈ emitHalf view width row.1
    (values row.2) ↔
      row.1 = 0 ∧ view.isDefined 0 = true ∧ label = none ∧ (values row.2)[idx]? = some v := by
    intro row
    rw [emitHalf]
    by_cases hzero : row.1 = 0
    · by_cases hdef : view.isDefined 0 = true
      · simp only [hzero, hdef, if_true, singular, List.mem_mapIdx, List.getElem?_eq_some_iff]
        simp [eq_comm]
      · simp [hzero, hdef]
    · by_cases hdef : view.isDefined width = true
      · simp only [hzero, hdef, if_true, if_false, false_and, iff_false,
          List.mem_cons, reduceCtorEq, false_or, ofInstance, List.mem_mapIdx, not_exists]
        rintro i hi hvalue
        cases hvalue
        omega
      · simp [hzero, hdef]
  simp only [emitUnits, List.mem_flatMap, hhalf]
  constructor
  · rintro ⟨⟨_, r⟩, hrow, rfl, hdef, hlabel, hv⟩
    exact ⟨hdef, hlabel, r, hrow, hv⟩
  · rintro ⟨hdef, hlabel, r, hrow, hv⟩
    exact ⟨(0, r), hrow, rfl, hdef, hlabel, hv⟩

/-- The records shown, when all of them are there. -/
theorem shown_eq {a : Activity R} {record : Nat → Except BufferError R} {f : Nat → R}
    (h : ∀ i < a.count, record i = .ok (f i)) :
    shown a record = .ok (((List.range a.count).filter fun i =>
      isShown i a.selection a.offline).map fun i => (i, f i)) := by
  refine mapM_ok fun i hi => ?_
  rw [h i (List.mem_range.mp (List.mem_filter.mp hi).1), Except.map]

end Values

/-- Where the aggregate is selected, a slot that was aggregated shows it as record 0. -/
theorem shown_total {a : Activity CpuTimes} {s : Slot} {earlier : List (List CpuTimes)}
    (h : a.Recalls s.other earlier) (hcount : 1 < a.count)
    (hselected : a.selection.contains 0 = true) (cpus : List CpuTimes) :
    ∃ rs, shown ((a.load s cpus).aggregate CpuTimes.add s)
        (shownCpu ((a.load s cpus).aggregate CpuTimes.add s) s) = .ok rs ∧
      ∀ r, (0, r) ∈ rs ↔ r = (knownUnits a.count (earlier ++ [cpus])).foldl
        CpuTimes.add default := by
  have hlatest : Activity.HoldsLatest CpuTimes.add a.count earlier cpus
      ((a.load s cpus).aggregate CpuTimes.add s) s := h.aggregate hcount
  have hagg := Activity.aggregated CpuTimes.add (a.load s cpus) s hcount
  have hkept : ((a.load s cpus).aggregate CpuTimes.add s).count = a.count := by
    rw [Activity.count, hagg.planned]
    rfl
  have hok : ∀ i, ∃ r, i < a.count →
      shownCpu ((a.load s cpus).aggregate CpuTimes.add s) s i = .ok r := by
    intro i
    by_cases hi : i < a.count
    · obtain ⟨r, hr⟩ := shownCpu_ok (Nat.lt_of_lt_of_le hi hagg.room) s
      exact ⟨r, fun _ => hr⟩
    · exact ⟨default, fun h => absurd h hi⟩
  choose f hf using hok
  have hzero : f 0 = (knownUnits a.count (earlier ++ [cpus])).foldl CpuTimes.add default := by
    have hfirst := hf 0 (by omega)
    rw [shownCpu, hlatest.total] at hfirst
    exact (Except.ok.inj hfirst).symm
  have hshown : isShown 0 ((a.load s cpus).aggregate CpuTimes.add s).selection
      ((a.load s cpus).aggregate CpuTimes.add s).offline = true := by
    have hselection : ((a.load s cpus).aggregate CpuTimes.add s).selection = a.selection :=
      hagg.selection
    have hoffline : ((a.load s cpus).aggregate CpuTimes.add s).offline.contains 0 = false := by
      rw [← Bool.not_eq_true, hlatest.offline 0]
      omega
    rw [isShown, hselection, hselected, hoffline]
    rfl
  refine ⟨_, shown_eq fun i hi => hf i (hkept ▸ hi), fun r => ?_⟩
  rw [hkept, ← hzero]
  simp only [List.mem_map, List.mem_filter, List.mem_range, Prod.mk.injEq]
  constructor
  · rintro ⟨i, -, rfl, rfl⟩
    rfl
  · rintro rfl
    exact ⟨0, ⟨by omega, hshown⟩, rfl, rfl⟩

namespace Archive

open Session

variable {config : Config} {header : HostHeader} {discovery earlier samples : List Sample}
  {store : Store} {s : Session} {x : Sample} {record : StoredRecord}

/-- The counters of the CPUs that are remembered after some samples. -/
def remembered (count : Nat) (samples : List (List CpuTimes)) : List CpuTimes :=
  knownUnits count (sinceGap samples)

/-- What is written of the aggregate of a sample. -/
theorem mem_emissions_cpu (hrun : Exported config header discovery earlier s)
    (h : Written (defineView config header discovery) store s x record)
    (henabled : config.enables Group.cpu.name = true) (hcount : 2 ≤ longest .cpu discovery)
    (hall : config.includeAll = true) {idx : Nat} {label : Option String} {v : Value}
    (hidx : idx < cpuColumns.length) :
    .value idx label v ∈ (s.loaded x).emissions .cpu ↔ x.cpu ≠ [] ∧ label = none ∧
      (cpuValues ((remembered (longest .cpu discovery) (earlier.map (·.cpu) ++ [x.cpu])).foldl
        CpuTimes.add default))[idx]? = some v := by
  obtain ⟨hplan, hrecalls⟩ := hrun.recalls_sinceGap aggregates_cpu henabled hcount
  have hplan : s.acts.cpu.count = longest .cpu discovery := hplan
  have hrecalls : s.acts.cpu.Recalls s.slot.other (sinceGap (earlier.map (·.cpu))) := hrecalls
  have hload : (s.loaded x).acts.cpu = s.acts.cpu.load s.slot x.cpu := rfl
  have hobs : (s.loaded x).acts.cpu.buffer.observed.get s.slot = x.cpu.length := by
    rw [hload, Activity.observed_load]
  by_cases hnil : x.cpu = []
  · have hemit : (s.loaded x).emissions .cpu = [] :=
      congrArg Prod.snd (if_pos (hobs.trans (congrArg List.length hnil)))
    simp [hemit, hnil]
  · have hselects : (config.cpuSelection (longest .cpu discovery)).contains 0 = true :=
      (config.contains_cpuSelection _ 0).mpr (Or.inl ⟨rfl, hall⟩)
    have hselection : s.acts.cpu.selection = config.cpuSelection (longest .cpu discovery) :=
      ((h.later.multi .cpu).2).trans (selection_cpu config header discovery)
    have hdefined : ((s.loaded x).view .cpu).isDefined 0 = true := by
      have hg := hrun.mem_defined aggregates_cpu henabled hcount
      refine ((h.handles .cpu hg 0).trans (asked_halves (g := cpu) rfl (by decide))).mpr (Or.inl ?_)
      rw [selection_cpu]
      exact ⟨hselects, by decide⟩
    obtain ⟨rs, hshown, hzero⟩ := shown_total hrecalls (hplan ▸ hcount)
      (hselection ▸ hselects) x.cpu
    have hemit : (s.loaded x).emissions .cpu =
        emitUnits ((s.loaded x).view .cpu) 11 cpuValues (.ok rs) := by
      rw [← hshown]
      exact congrArg Prod.snd (if_neg fun hempty =>
        hnil (List.length_eq_zero_iff.mp (hobs.symm.trans hempty)))
    rw [hemit, mem_emitUnits (show idx < 11 from hidx), remembered, sinceGap_concat _ hnil]
    simp [hdefined, hnil, hzero, hplan]

variable {c : UnitColumn CpuTimes} {f : CpuTimes → UInt64} {count i k : Nat} {y : List CpuTimes}
  {known : List (List CpuTimes)}

/-- Where a column of the aggregate stands in the catalog. -/
theorem column_metric (hc : c ∈ cpuColumns) : ∃ (idx : Nat) (m : Descriptor),
    idx < cpuColumns.length ∧ Group.cpu.metrics[idx]? = some m ∧
      m.name = "kernel.all.cpu." ++ c.name ∧ m.domain = none ∧
      ∀ r, (cpuValues r)[idx]? = some (.u64 (c.value r)) := by
  obtain ⟨idx, hidx⟩ := List.mem_iff_getElem?.mp hc
  have hlt := (List.getElem?_eq_some_iff.mp hidx).1
  refine ⟨idx, ⟨.pack 60 0 c.item, "kernel.all.cpu." ++ c.name, .u64, .counter, none, .msec⟩,
    hlt, ?_, rfl, rfl, fun r => ?_⟩
  · show (unitMetrics 0 "kernel.all.cpu." "kernel.percpu.cpu." .msec cpuColumns)[idx]? = _
    rw [unitMetrics, List.getElem?_append_left (by simpa using hlt), List.getElem?_map, hidx]
    rfl
  · rw [cpuValues, List.getElem?_map, hidx]
    rfl

/-- No other metric has the name of a metric of the aggregate. -/
theorem unique_name :
    ∀ m ∈ Group.cpu.metrics.take cpuColumns.length, ∀ m' ∈ Group.metricsOfAll,
    m'.name = m.name → m' = m := by
  decide +kernel

/-- What a record shows of the aggregate. -/
theorem text?_total (hrun : Run config header discovery samples store)
    (henabled : config.enables Group.cpu.name = true) (hcount : 2 ≤ longest .cpu discovery)
    (hall : config.includeAll = true) (hx : samples[k]? = some x) (hc : c ∈ cpuColumns) :
    store.text? k ("kernel.all.cpu." ++ c.name) none = if x.cpu = [] then none
      else some (Text.decimal (c.value ((remembered (longest .cpu discovery)
        ((samples.map (·.cpu)).take (k + 1))).foldl CpuTimes.add default)).toNat) := by
  obtain ⟨hmetrics, hlen, hwritten⟩ := hrun.recorded
  obtain ⟨hk, -⟩ := List.getElem?_eq_some_iff.mp hx
  have hrecord : store.records[k]? = some store.records[k] := List.getElem?_eq_getElem (hlen ▸ hk)
  obtain ⟨s, hexported, h⟩ := hwritten k x _ hx hrecord
  obtain ⟨idx, m, hidx, hm, hname, hdomain, hvalue⟩ := column_metric hc
  have hupto : (samples.map (·.cpu)).take (k + 1) = (samples.take k).map (·.cpu) ++ [x.cpu] := by
    rw [List.take_add_one, List.getElem?_map, hx, List.map_take]
    rfl
  have hemissions : ∀ label v, .value idx label v ∈ (s.loaded x).emissions .cpu ↔ _ ∧
      label = none ∧ _ :=
    fun _ _ => mem_emissions_cpu hexported h henabled hcount hall hidx
  have htaken : m ∈ Group.cpu.metrics.take cpuColumns.length :=
    List.mem_of_getElem? ((List.getElem?_take_of_lt hidx).trans hm)
  have hone : ∀ m' ∈ store.metrics, m'.name = m.name → m' = m := fun m' hm' =>
    unique_name m htaken m' (hmetrics m' hm')
  have hg := hexported.mem_defined aggregates_cpu henabled hcount
  have htext := h.transcript.text?_of_emitted (P := x.cpu ≠ []) none _ hrecord hm
    (h.defined ▸ hg) hone
    (fun hsome => (hemissions none _).mpr ⟨hsome, rfl, hvalue _⟩) fun label v he => by
      obtain ⟨hsome, -, hv⟩ := (hemissions label v).mp he
      exact ⟨hsome, fun _ => Option.some.inj (hv.symm.trans (hvalue _))⟩
  rw [hdomain, ite_not] at htext
  rw [hupto, ← hname]
  exact htext

/-- Counters that do not fall from one sample to a later one that shows their CPU, too. -/
def Rises (count : Nat) (x y : List CpuTimes) : Prop :=
  ∀ i < count, 1 ≤ i → x.getD i default ≠ default → y.getD i default ≠ default →
    ∀ f ∈ CpuTimes.words, f (x.getD i default) ≤ f (y.getD i default)

instance (count : Nat) (x y : List CpuTimes) : Decidable (Rises count x y) :=
  inferInstanceAs (Decidable (∀ i < count, 1 ≤ i → x.getD i default ≠ default →
    y.getD i default ≠ default → ∀ f ∈ CpuTimes.words, f (x.getD i default) ≤ f
      (y.getD i default)))

theorem latest_le (h : ∀ x ∈ known, Rises count x y) (hf : f ∈ CpuTimes.words)
    (hi : i < count)
    (hpos : 1 ≤ i) (hy : y.getD i default ≠ default) :
    f (latest i known) ≤ f (y.getD i default) := by
  by_cases hblank : latest i known = default
  · rw [hblank, CpuTimes.word_default hf]
    exact UInt64.zero_le
  · obtain ⟨x, hx, hlatest⟩ := (latest_eq i known).resolve_left hblank
    rw [← hlatest] at hblank ⊢
    exact h x hx i hi hpos hblank hy f hf

/-- Last known counters of the CPUs that a sample does not show. -/
def absentUnits (count : Nat) (known : List (List CpuTimes)) (y : List CpuTimes) : List CpuTimes :=
  ((List.range' 1 (count - 1)).filter fun i => y.getD i default = default).map (latest · known)

/-- While every sample has CPUs the total does not fall. -/
theorem sumOf_concat (h : ∀ x ∈ known, Rises count x y) (hf : f ∈ CpuTimes.words) :
    CpuTimes.sumOf f (knownUnits count known) ≤ CpuTimes.sumOf f
      (knownUnits count (known ++ [y])) := by
  have hle := CpuTimes.sumOf_map_le (f := f) (x := (latest · known))
    (y := (latest · (known ++ [y])))
    (fun _ => false) (List.range' 1 (count - 1)) ?_
  · rwa [List.filter_eq_nil_iff.mpr (by simp)] at hle
  · intro i hi _
    obtain ⟨hpos, hlt⟩ := List.mem_range'_1.mp hi
    rw [latest_append, lastKnown]
    split
    · exact UInt64.le_refl _
    · rename_i hy
      exact latest_le h hf (by omega) hpos hy

/-- Where nothing is remembered the CPUs that a sample does not show are missing from the total. -/
theorem sumOf_fresh (h : ∀ x ∈ known, Rises count x y) (hf : f ∈ CpuTimes.words) :
    CpuTimes.sumOf f (knownUnits count known) ≤
      CpuTimes.sumOf f (knownUnits count [y]) + CpuTimes.sumOf f (absentUnits count known y) := by
  refine CpuTimes.sumOf_map_le _ _ fun i hi hshown => ?_
  obtain ⟨hpos, hlt⟩ := List.mem_range'_1.mp hi
  have hy : y.getD i default ≠ default := of_decide_eq_false hshown
  have hfirst : latest i [y] = y.getD i default := by
    show latest i ([] ++ [y]) = _
    rw [latest_append, lastKnown, if_neg hy]
  rw [hfirst]
  exact latest_le h hf (by omega) hpos hy

/-- The metrics of the aggregate that are counters of the CPUs, each summed up by itself. -/
def summedColumns : List (UnitColumn CpuTimes) :=
  cpuColumns.filter fun c => c.name ∈
    ["sys", "idle", "wait.total", "irq.soft", "irq.hard", "steal", "guest", "guest_nice"]

theorem words_of_summed (hc : c ∈ summedColumns) :
    c ∈ cpuColumns ∧ c.value ∈ CpuTimes.words := by
  refine ⟨List.mem_of_mem_filter hc, ?_⟩
  simp [summedColumns, cpuColumns] at hc
  rcases hc with rfl | rfl | rfl | rfl | rfl | rfl | rfl | rfl <;> simp [CpuTimes.words]

/-- The sum of a counter over all CPUs that are remembered after some samples. -/
def total (f : CpuTimes → UInt64) (count : Nat) (samples : List (List CpuTimes)) : Nat :=
  CpuTimes.sumOf f (remembered count samples)

/-- From one sample with CPUs to the next one. -/
theorem total_le {cpus : List (List CpuTimes)} {j : Nat} (hrises : cpus.Pairwise (Rises count))
    (hf : f ∈ CpuTimes.words) (hy : cpus[k]? = some y) (hne : y ≠ []) (hjk : j < k)
    (hgap : ∀ i, j < i → i < k → cpus[i]? = some []) :
    total f count (cpus.take (j + 1)) ≤ total f count (cpus.take (k + 1)) +
      if k = j + 1 then 0
      else CpuTimes.sumOf f (absentUnits count (sinceGap (cpus.take (j + 1))) y) := by
  have hbelow : ∀ x ∈ sinceGap (cpus.take (j + 1)), Rises count x y := by
    intro x hx
    obtain ⟨i, hi⟩ := List.mem_iff_getElem?.mp (mem_of_mem_sinceGap hx)
    rw [List.getElem?_take] at hi
    split at hi
    · obtain ⟨hk, rfl⟩ := List.getElem?_eq_some_iff.mp hy
      obtain ⟨hi', rfl⟩ := List.getElem?_eq_some_iff.mp hi
      exact List.pairwise_iff_getElem.mp hrises i k hi' hk (by omega)
    · cases hi
  have hupto : sinceGap (cpus.take (k + 1)) = sinceGap (cpus.take k) ++ [y] := by
    rw [List.take_add_one, hy]
    exact sinceGap_concat _ hne
  rw [total, total, remembered, remembered, hupto]
  by_cases hnext : k = j + 1
  · rw [if_pos hnext, hnext, Nat.add_zero]
    exact sumOf_concat hbelow hf
  · have hforgotten : sinceGap (cpus.take k) = [] := by
      obtain ⟨k, rfl⟩ : ∃ k', k = k' + 1 := ⟨k - 1, by omega⟩
      rw [List.take_add_one, hgap k (by omega) (by omega)]
      exact sinceGap_gap _
    rw [if_neg hnext, hforgotten, List.nil_append]
    exact sumOf_fresh hbelow hf

/-- Records carry a total where their sample has CPUs. A total does not fall from one record to the
next, and behind a gap it falls by no more than the last known counters of the CPUs that are offline
there, which nothing remembers any more. -/
theorem totals_between_records (config : Config) (header : HostHeader)
    (discovery samples : List Sample) (store : Store)
    (hrun : Run config header discovery samples store)
    (henabled : config.enables Group.cpu.name = true) (hcount : 2 ≤ longest .cpu discovery)
    (hall : config.includeAll = true)
    (hrises : (samples.map (·.cpu)).Pairwise (Rises (longest .cpu discovery)))
    (hfits : ∀ k < samples.length, ∀ c ∈ summedColumns,
      total c.value (longest .cpu discovery) ((samples.map (·.cpu)).take (k + 1)) < UInt64.size) :
    store.records.length = samples.length ∧ ∀ c ∈ summedColumns,
      (∀ k x, samples[k]? = some x → store.text? k ("kernel.all.cpu." ++ c.name) none =
        if x.cpu = [] then none
        else some (Text.decimal
          (total c.value (longest .cpu discovery) ((samples.map (·.cpu)).take (k + 1))))) ∧
      ∀ j k x y, samples[j]? = some x → samples[k]? = some y → x.cpu ≠ [] →
      y.cpu ≠ [] → j < k →
        (∀ i z, j < i → i < k → samples[i]? = some z → z.cpu = []) →
        total c.value (longest .cpu discovery) ((samples.map (·.cpu)).take (j + 1)) ≤
          total c.value (longest .cpu discovery) ((samples.map (·.cpu)).take (k + 1)) +
            if k = j + 1 then 0
            else CpuTimes.sumOf c.value (absentUnits (longest .cpu discovery)
              (sinceGap ((samples.map (·.cpu)).take (j + 1))) y.cpu) := by
  refine ⟨hrun.recorded.2.1, fun c hc => ?_⟩
  obtain ⟨hcolumn, hword⟩ := words_of_summed hc
  refine ⟨fun k x hx => ?_, fun j k x y _ hy _ hne hjk hgap => ?_⟩
  · have hk := (List.getElem?_eq_some_iff.mp hx).1
    rw [text?_total hrun henabled hcount hall hx hcolumn,
      CpuTimes.toNat_sum hword (hfits k hk c hc)]
    rfl
  · have hy' : (samples.map (·.cpu))[k]? = some y.cpu := by simp [hy]
    refine total_le hrises hword hy' hne hjk fun i hji hik => ?_
    have hk := (List.getElem?_eq_some_iff.mp hy).1
    have hi : samples[i]? = some samples[i] := List.getElem?_eq_getElem (by omega)
    rw [List.getElem?_map, hi, Option.map_some, hgap i _ hji hik hi]

/-- Two CPUs, no CPUs, and the first CPU alone. -/
def beforeGap : Sample := { Sample.blank with cpu := [{}, { sys := 10 }, { sys := 5 }] }

def behindGap : Sample := { Sample.blank with cpu := [{}, { sys := 11 }] }

/-- The ticks of the second CPU are lost in the gap. -/
theorem total_falls_behind_gap :
    ∃ store, Run {} {} [beforeGap] [beforeGap, Sample.blank, behindGap] store ∧
      store.records.length = 3 ∧
      store.text? 0 "kernel.all.cpu.sys" none = some "15" ∧
      store.text? 1 "kernel.all.cpu.sys" none = none ∧
      store.text? 2 "kernel.all.cpu.sys" none = some "11" ∧
      total (·.sys) 3 [beforeGap.cpu] ≤ total (·.sys) 3 [beforeGap.cpu, [], behindGap.cpu] +
      5 := by
  have hknown : ∀ x ∈ [beforeGap, Sample.blank, behindGap], BatteriesKnown [beforeGap] x := by
    intro x hx i b hb
    simp only [List.mem_cons, List.not_mem_nil, or_false] at hx
    rcases hx with rfl | rfl | rfl <;> cases hb
  obtain ⟨store, hrun⟩ := exists_run {} {} (by decide) hknown
  obtain ⟨hlen, htotals⟩ := totals_between_records {} {} [beforeGap]
    [beforeGap, Sample.blank, behindGap] store hrun rfl (by decide) rfl (by decide +kernel)
    (by decide +kernel)
  obtain ⟨htext, hle⟩ :=
    htotals ⟨22, 2, "sys", (·.sys), some fun x c => { c with sys := x }⟩
    (by simp [summedColumns, cpuColumns])
  refine ⟨store, hrun, hlen, (htext 0 _ rfl).trans (by decide +kernel),
    (htext 1 _ rfl).trans (by decide +kernel), (htext 2 _ rfl).trans (by decide +kernel), ?_⟩
  refine hle 0 2 beforeGap behindGap rfl rfl (by decide) (by decide) (by decide)
    fun i z hi hi' hz => ?_
  obtain rfl : i = 1 := by omega
  cases hz
  rfl

end Archive

end ActivityArchive
