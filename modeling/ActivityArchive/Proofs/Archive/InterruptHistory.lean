import ActivityArchive.Proofs.Archive.Interrupts
import ActivityArchive.Proofs.Group.InterruptEmitting
import ActivityArchive.Proofs.Session.Texts

/-!
What a record shows in its interrupt totals of the samples before its own. A table with rows of CPUs
is summed up alike in every run. A table of row 0 alone is shown as it is until a larger table was
loaded, and from then on its totals are zero (`recorded_interrupt_totals`).
-/
namespace ActivityArchive.Archive

open Activities GroupSpec Interrupts Record Session

variable {config : Config} {header : HostHeader} {discovery earlier samples : List Sample}
  {store : Store}
  {s : Session} {x : Sample} {record : StoredRecord} {t : InterruptTable} {k : Nat}

theorem interruptRows_concat (samples : List Sample) (x : Sample) :
    interruptRows (samples ++ [x]) = max (interruptRows samples)
      (x.irq.elim 0 (·.counts.length)) := by
  rw [interruptRows, List.foldl_append]
  rfl

/-- What is written as the total of a line of a table behind some samples. -/
def recordedTotal (count : Nat) (earlier : List Sample) (t : InterruptTable) (name : String) :
    UInt64 :=
  if t.counts.length = 1 then (if 2 ≤ interruptRows earlier then 0 else t.lastAt 0 name)
  else t.sumAt (min count t.counts.length) name

theorem shownTotal_eq {count : Nat} (hx : x.irq = some t) (hrows : t.counts ≠ [])
    (name : String) :
    t.shownTotal count (1 < interruptRows (earlier ++ [x])) name =
      recordedTotal count earlier t name := by
  have hpos : 0 < t.counts.length := List.length_pos_of_ne_nil hrows
  have hwide : interruptRows (earlier ++ [x]) = max (interruptRows earlier) t.counts.length := by
    rw [interruptRows_concat, hx]
    rfl
  rw [InterruptTable.shownTotal, recordedTotal, hwide]
  by_cases hone : t.counts.length = 1
  · have hnone : t.sumAt (min count t.counts.length) name = 0 := by
      have hmin : min count t.counts.length - 1 = 0 := by omega
      rw [InterruptTable.sumAt, hmin]
      rfl
    rw [if_pos hone, hnone]
    by_cases hlarge : 2 ≤ interruptRows earlier
    · rw [if_pos hlarge, if_pos (by omega)]
    · rw [if_neg hlarge, if_neg (by omega)]
  · rw [if_neg hone, if_pos (by omega)]

/-- The totals that are written of a sample, after whatever samples were exported before it. -/
theorem emits_totals (hrun : Exported config header discovery earlier s)
    (h : Written (defineView config header discovery) store s x record)
    (henabled : config.enables Group.interrupts.name = true) (hrows : 2 ≤ interruptRows discovery)
    (hsum : SumFirst discovery) (hx : x.irq = some t) (label : Option String) (v : Value) :
    (.value sumMetric label v ∈ (s.loaded x).emissions .interrupts ↔
      t.counts ≠ [] ∧ config.includeAll = true ∧ label = none ∧
        v = .u64 (recordedTotal (interruptRows discovery) earlier t sumLine)) ∧
    (.value lineMetric label v ∈ (s.loaded x).emissions .interrupts ↔
      t.counts ≠ [] ∧ config.includeAll = true ∧
        ∃ name ∈ (s.acts.irq.load s.slot (some t)).lines, name ≠ sumLine ∧
        label = some name ∧
          v = .u64 (recordedTotal (interruptRows discovery) earlier t name)) := by
  obtain ⟨hlisted, hcount, hcpus⟩ := listed_exported hrun henabled hrows hsum
  obtain ⟨-, -, hselection⟩ := listed_defineView config header hsum hrows
  have hmem := mem_defined_interrupts hrun henabled hrows
  have hirq : ((s.loaded x).view .interrupts).acts.irq = s.acts.irq.load s.slot (some t) := by
    rw [← hx]
    rfl
  have hlater := later_load s.acts.irq s.slot (some t)
  have hloaded : (s.acts.irq.load s.slot (some t)).count = interruptRows discovery := by
    rw [Interrupts.count, hlater.planned]
    exact hcount
  have hroom : (s.acts.irq.load s.slot (some t)).grid.cpus = interruptRows (earlier ++ [x]) := by
    rw [cpus_load, hcpus, interruptRows_concat, hx]
    rfl
  have hselected : (s.acts.irq.load s.slot (some t)).selection.contains 0 = true ↔
      config.includeAll = true := by
    rw [hlater.selection, h.later.irq.selection, hselection, config.contains_cpuSelection]
    simp only [Config.Selects, true_and, or_iff_left_iff_imp]
    cases config.cpus with
    | none => omega
    | some cpus => simp
  have hdefined : ∀ idx, idx = sumMetric ∨ idx = lineMetric →
      (((s.loaded x).view .interrupts).isDefined idx = true ↔ config.includeAll = true) := by
    intro idx hidx
    refine (h.handles .interrupts hmem idx).trans ((asked_totals _ hidx).trans ?_)
    rw [← h.later.irq.selection, ← hlater.selection]
    exact hselected
  have hwrites := writesTotals ((s.loaded x).view .interrupts) (t := t)
    (by rw [hirq]; exact (hlisted.named.loaded t s.slot).1)
    (by rw [hirq]; exact (hlisted.load s.slot (some t)).first) (by rw [hirq, hloaded]; exact hrows)
  rw [hirq, hloaded, hroom] at hwrites
  have htotal : t.counts ≠ [] → ∀ name,
      t.shownTotal (interruptRows discovery) (1 < interruptRows (earlier ++ [x])) name =
        recordedTotal (interruptRows discovery) earlier t name := shownTotal_eq hx
  constructor
  · refine (hwrites.sum label v).trans (and_congr_right fun hne => ?_)
    rw [hirq, hselected, hdefined _ (Or.inl rfl), htotal hne]
    simp
  · refine (hwrites.line label v).trans (and_congr_right fun hne => ?_)
    rw [hirq, hselected, hdefined _ (Or.inr rfl)]
    simp only [htotal hne]
    simp

/-- No other metric has the name of a total. -/
theorem unique_total : ∀ m ∈ Group.interrupts.metrics.take 2, ∀ m' ∈ Group.metricsOfAll,
    m'.name = m.name → m' = m := by
  decide +kernel

/-- The totals that a record of a run shows. They depend on its sample, on the rows and the
selection the session was defined with and, for a table of one row, on whether a larger one was
exported before. -/
theorem recorded_interrupt_totals (hrun : Run config header discovery samples store)
    (henabled : config.enables Group.interrupts.name = true) (hrows : 2 ≤ interruptRows discovery)
    (hsum : SumFirst discovery) (hx : samples[k]? = some x) (ht : x.irq = some t) :
    let total := recordedTotal (interruptRows discovery) (samples.take k) t
    let text := fun name => if config.includeAll = true ∧ t.counts ≠ [] then
      some (Text.decimal (total name).toNat) else none
    store.text? k "kernel.all.intr" none = text sumLine ∧
      ∀ name ∈ t.lines, name ≠ sumLine →
        store.text? k "kernel.all.interrupts.total" (some name) = text name := by
  intro total text
  obtain ⟨hmetrics, hlen, hwritten⟩ := hrun.recorded
  obtain ⟨hk, -⟩ := List.getElem?_eq_some_iff.mp hx
  have hrecord : store.records[k]? = some store.records[k] := List.getElem?_eq_getElem (hlen ▸ hk)
  obtain ⟨s, hexported, h⟩ := hwritten k x _ hx hrecord
  have hg := mem_defined_interrupts hexported henabled hrows
  have hemits := emits_totals hexported h henabled hrows hsum ht
  have hone : ∀ idx < 2, ∀ m, Group.interrupts.metrics[idx]? = some m →
    ∀ m' ∈ store.metrics,
      m'.name = m.name → m' = m := by
    intro idx hidx m hm m' hm'
    have htake : m ∈ Group.interrupts.metrics.take 2 :=
      List.mem_of_getElem? ((List.getElem?_take_of_lt hidx).trans hm)
    exact unique_total m htake m' (hmetrics m' hm')
  constructor
  · have hm : Group.interrupts.metrics[sumMetric]? = some _ := rfl
    refine h.transcript.text?_of_emitted none (.u64 (total sumLine)) hrecord hm hg
      (hone _ (by decide) _ hm) (fun hP => ?_) fun label' v' he => ?_
    · exact (hemits none _).1.mpr ⟨hP.2, hP.1, rfl, rfl⟩
    · obtain ⟨hne, hall, -, hv⟩ := (hemits label' v').1.mp he
      exact ⟨⟨hall, hne⟩, fun _ => hv⟩
  · intro name hname hnot
    have hm : Group.interrupts.metrics[lineMetric]? = some _ := rfl
    have hknown : name ∈ (s.acts.irq.load s.slot (some t)).lines :=
      ((listed_exported hexported henabled hrows hsum).1.named.loaded t s.slot).1.lines name hname
    refine h.transcript.text?_of_emitted (some name) (.u64 (total name)) hrecord hm hg
      (hone _ (by decide) _ hm) (fun hP => ?_) fun label' v' he => ?_
    · exact (hemits (some name) _).2.mpr ⟨hP.2, hP.1, name, hknown, hnot, rfl, rfl⟩
    · obtain ⟨hne, hall, name', -, -, rfl, hv⟩ := (hemits label' v').2.mp he
      refine ⟨⟨hall, hne⟩, fun hlabel => ?_⟩
      obtain rfl : name' = name := Option.some.inj hlabel
      exact hv

def aggregateOnly : InterruptTable := ⟨["sum", "NMI"], [[7, 5]]⟩

def withOneCpu : InterruptTable := ⟨["sum", "NMI"], [[0, 0], [4, 3]]⟩

/-- The same sample before and after one with the row of a CPU. -/
theorem same_sample_loses_totals :
    ∃ store, Run {} {} [sampleOf withOneCpu]
        [sampleOf aggregateOnly, sampleOf withOneCpu, sampleOf aggregateOnly] store ∧
      store.text? 0 "kernel.all.intr" none = some "7" ∧
      store.text? 0 "kernel.all.interrupts.total" (some "NMI") = some "5" ∧
      store.text? 2 "kernel.all.intr" none = some "0" ∧
      store.text? 2 "kernel.all.interrupts.total" (some "NMI") = some "0" := by
  have hknown : ∀ x ∈ [sampleOf aggregateOnly, sampleOf withOneCpu, sampleOf aggregateOnly],
      BatteriesKnown [sampleOf withOneCpu] x := by
    intro x hx i b hb
    simp only [List.mem_cons, List.not_mem_nil, or_false] at hx
    rcases hx with rfl | rfl | rfl <;> cases hb
  have hsum : SumFirst [sampleOf withOneCpu] := by
    intro x hx t ht
    obtain rfl := List.mem_singleton.mp hx
    cases ht
    rfl
  obtain ⟨store, hrun⟩ := exists_run {} {} (by decide) hknown
  obtain ⟨hsum₀, hline₀⟩ :=
    recorded_interrupt_totals hrun rfl (by decide) hsum (k := 0) rfl rfl
  obtain ⟨hsum₂, hline₂⟩ :=
    recorded_interrupt_totals hrun rfl (by decide) hsum (k := 2) rfl rfl
  refine ⟨store, hrun, hsum₀.trans (by decide),
    (hline₀ "NMI" (by decide) (by decide)).trans (by decide),
    hsum₂.trans (by decide), (hline₂ "NMI" (by decide) (by decide)).trans (by decide)⟩

end ActivityArchive.Archive
