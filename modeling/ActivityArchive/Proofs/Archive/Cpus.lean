import ActivityArchive.Proofs.Group.CpuRestoring
import ActivityArchive.Proofs.Session.LastKnown
import ActivityArchive.Proofs.Session.Reading
import Mathlib.Data.List.GetD

/-!
What comes back of CPU times. A record read back shows of each CPU the times that its sample has,
idle time only where the CPU did not tick since its last known times, and nothing of an offline CPU;
of the aggregate it shows the sum of all last known times (`import_export_cpus`).
-/
namespace ActivityArchive.Archive

open Activities GroupSpec Record Session

variable {config : Config} {header : HostHeader} {discovery earlier : List Sample} {store : Store}
  {s t t' : Session} {x y : Sample} {record : StoredRecord}

/-- Samples that show CPUs, and whose times can be taken apart and added up. -/
structure CpusFit (count : Nat) (samples : List (List CpuTimes)) : Prop where
  present : ∀ cpus ∈ samples, cpus ≠ []
  guest : ∀ cpus ∈ samples, ∀ c ∈ cpus, c.IncludesGuest
  ticks : ∀ cpus ∈ samples, ∀ c ∈ cpus, c.total < UInt64.size
  sums : ∀ k < samples.length, ∀ f ∈ CpuTimes.words,
    CpuTimes.sumOf f (knownUnits count (samples.take (k + 1))) < UInt64.size

/-- The samples up to one of them. -/
theorem CpusFit.take_concat {count k : Nat} {samples : List (List CpuTimes)} {cpus : List CpuTimes}
    (h : CpusFit count samples) (hk : samples[k]? = some cpus) :
    CpusFit count (samples.take k ++ [cpus]) := by
  have hupto : samples.take k ++ [cpus] = samples.take (k + 1) := by
    rw [List.take_add_one, hk]
    rfl
  rw [hupto]
  refine ⟨fun y hy => h.present y (List.mem_of_mem_take hy),
    fun y hy => h.guest y (List.mem_of_mem_take hy), fun y hy =>
      h.ticks y (List.mem_of_mem_take hy),
    fun j hj => ?_⟩
  rw [List.length_take, Nat.lt_min] at hj
  rw [List.take_take, Nat.min_eq_left (by omega)]
  exact h.sums j hj.2

theorem CpusFit.sums_concat {count : Nat} {earlier : List (List CpuTimes)} {cpus : List CpuTimes}
    (h : CpusFit count (earlier ++ [cpus])) : ∀ f ∈ CpuTimes.words,
      CpuTimes.sumOf f (knownUnits count (earlier ++ [cpus])) < UInt64.size := by
  have hlast := h.sums earlier.length (by simp)
  rwa [List.take_of_length_le (by simp)] at hlast

/-- What is read back of a sample, given the samples before it. -/
structure CpusReturned (count : Nat) (earlier : List (List CpuTimes)) (cpus back : List CpuTimes) :
    Prop where
  length : back.length ≤ count
  unit : ∀ i, 1 ≤ i → i < count → back.getD i default =
    if cpus.getD i default = default then default
    else if (latest i earlier).total < (cpus.getD i default).total then cpus.getD i default
    else { idle := 100 }
  total : ∀ f ∈ CpuTimes.words, (f (back.getD 0 default)).toNat =
    CpuTimes.sumOf f (knownUnits count (earlier ++ [cpus]))

theorem selection_cpu (config : Config) (header : HostHeader) (discovery : List Sample) :
    (defineView config header discovery).acts.cpu.selection =
      config.cpuSelection (longest .cpu discovery) := by
  rw [← (multi_defineView config header discovery .cpu).2]
  rfl

theorem contains_cpu (hall : config.SelectsAll (longest .cpu discovery)) {i : Nat}
    (hi : i < longest .cpu discovery) :
    (config.cpuSelection (longest .cpu discovery)).contains i = true :=
  (config.contains_cpuSelection _ i).mpr (hall.selects hi)

/-- Both halves of the catalog are defined where everything is selected. -/
theorem defined_halves (h : Written (defineView config header discovery) store s x record)
    (hg : .cpu ∈ s.defined) (hcount : 2 ≤ longest .cpu discovery)
    (hall : config.SelectsAll (longest .cpu discovery)) :
    ((s.loaded x).view .cpu).isDefined 0 = true ∧
      ((s.loaded x).view .cpu).isDefined cpuColumns.length = true := by
  have hasked : ∀ idx, ((s.loaded x).view .cpu).isDefined idx = true ↔ _ := fun idx =>
    (h.handles .cpu hg idx).trans (asked_halves (g := cpu) rfl (by decide))
  have hplan : (defineView config header discovery).acts.cpu.count = longest .cpu discovery :=
    (multi_defineView config header discovery .cpu).2
  rw [hasked, hasked, selection_cpu, hplan]
  have hone : 1 ∈ selectedUnits (longest .cpu discovery)
      (config.cpuSelection (longest .cpu discovery)) :=
    List.mem_filter.mpr ⟨List.mem_range'_1.mpr (by omega), contains_cpu hall hcount⟩
  exact ⟨Or.inl ⟨contains_cpu hall (by omega), by decide⟩,
    Or.inr ⟨List.ne_nil_of_mem hone, by decide, by decide⟩⟩

/-- What is written of the CPUs of a sample. -/
theorem emissions_cpu (hrun : Exported config header discovery earlier s)
    (h : Written (defineView config header discovery) store s x record)
    (henabled : config.enables Group.cpu.name = true) (hcount : 2 ≤ longest .cpu discovery)
    (hall : config.SelectsAll (longest .cpu discovery))
    (hne : ∀ cpus ∈ earlier.map (·.cpu) ++ [x.cpu], cpus ≠ [])
    (hticks : ∀ cpus ∈ earlier.map (·.cpu) ++ [x.cpu], ∀ c ∈ cpus, c.total < UInt64.size) :
    (s.loaded x).emissions .cpu = writtenUnits ((s.loaded x).view .cpu) cpuColumns
      ((shownUnits (longest .cpu discovery) x.cpu).map fun i =>
        (i, shownTimes (longest .cpu discovery) (earlier.map (·.cpu)) x.cpu i)) := by
  obtain ⟨hplan, hrecalls⟩ := hrun.recalls aggregates_cpu henabled hcount fun y hy =>
    hne y.cpu (List.mem_append_left _ (List.mem_map_of_mem hy))
  have hplan : s.acts.cpu.count = longest .cpu discovery := hplan
  have hrecalls : s.acts.cpu.Recalls s.slot.other (earlier.map (·.cpu)) := hrecalls
  have hselection : s.acts.cpu.selection = config.cpuSelection (longest .cpu discovery) :=
    ((h.later.multi .cpu).2).trans (selection_cpu config header discovery)
  have hload : (s.loaded x).acts.cpu = s.acts.cpu.load s.slot x.cpu := rfl
  have hobs : (s.loaded x).acts.cpu.buffer.observed.get s.slot ≠ 0 := by
    rw [hload, Activity.observed_load]
    exact fun hzero => hne x.cpu (by simp) (List.length_eq_zero_iff.mp hzero)
  have hemit : (s.loaded x).emissions .cpu = emitUnits ((s.loaded x).view .cpu) 11 cpuValues
      (shown ((s.acts.cpu.load s.slot x.cpu).aggregate CpuTimes.add s.slot)
        (shownCpu ((s.acts.cpu.load s.slot x.cpu).aggregate CpuTimes.add s.slot) s.slot)) :=
    congrArg Prod.snd (if_neg hobs)
  have hshown : shown ((s.acts.cpu.load s.slot x.cpu).aggregate CpuTimes.add s.slot)
      (shownCpu ((s.acts.cpu.load s.slot x.cpu).aggregate CpuTimes.add s.slot) s.slot) = .ok _ :=
    shown_cpu hrecalls (hplan ▸ hcount)
      (fun i hi => hselection ▸ contains_cpu hall (hplan ▸ hi)) hticks
  rw [hemit, hshown, hplan]
  rfl

theorem mem_shownUnits {count i : Nat} {cpus : List CpuTimes} :
    i ∈ shownUnits count cpus ↔
      i = 0 ∨ (1 ≤ i ∧ i < count) ∧ cpus.getD i default ≠ default := by
  rw [shownUnits, List.mem_cons, List.mem_filter, List.mem_range'_1, decide_eq_true_eq]
  refine or_congr_right (and_congr_left' ?_)
  omega

theorem nodup_shownUnits (count : Nat) (cpus : List CpuTimes) : (shownUnits count cpus).Nodup := by
  refine List.nodup_cons.mpr ⟨fun hzero => ?_, (List.nodup_range' 1).filter _⟩
  have hpos := List.mem_range'_1.mp (List.mem_filter.mp hzero).1
  omega

theorem lookup_graph_eq {A : Type} (f : Nat → A) (units : List Nat) (i : Nat) :
    (units.map fun i => (i, f i)).lookup i = if i ∈ units then some (f i) else none := by
  by_cases hi : i ∈ units
  · rw [if_pos hi, List.lookup_graph f hi]
  · rw [if_neg hi]
    refine List.lookup_eq_none_iff.mpr fun row hrow => ?_
    obtain ⟨j, hj, rfl⟩ := List.mem_map.mp hrow
    exact bne_iff_ne.mpr fun he => hi (he ▸ hj)

/-- What is taken in of the CPUs, before guest time is put back. -/
theorem builds_cpus (h : Written (defineView config header discovery) store s x record)
    (hg : .cpu ∈ s.defined) (hcount : 2 ≤ longest .cpu discovery)
    (hall : config.SelectsAll (longest .cpu discovery)) {f : Nat → CpuTimes}
    (hemit : (s.loaded x).emissions .cpu = writtenUnits ((s.loaded x).view .cpu) cpuColumns
      ((shownUnits (longest .cpu discovery) x.cpu).map fun i => (i, f i))) (acts : Activities) :
    Activity.Builds .curr (longest .cpu discovery)
      (fun i z => if i ∈ shownUnits (longest .cpu discovery) x.cpu then copyColumns
        cpuColumns (f i) z
        else z) acts.cpu
      (takeAll store.instances (store.decode record).sets acts).cpu := by
  have hsplit : (shownUnits (longest .cpu discovery) x.cpu).map (fun i => (i, f i)) = [(0, f 0)] ++
      ((List.range' 1 (longest .cpu discovery - 1)).filter fun i =>
        x.cpu.getD i default ≠ default).map fun i => (i, f i) := rfl
  have hsecond : ∀ row ∈ ((List.range' 1 (longest .cpu discovery - 1)).filter fun i =>
      x.cpu.getD i default ≠ default).map fun i => (i, f i),
        1 ≤ row.1 ∧ row.1 < longest .cpu discovery := by
    intro row hrow
    obtain ⟨i, hi, rfl⟩ := List.mem_map.mp hrow
    have hrange := List.mem_range'_1.mp (List.mem_filter.mp hi).1
    exact ⟨hrange.1, by omega⟩
  have hnd : (((shownUnits (longest .cpu discovery) x.cpu).map fun i => (i, f i)).map
      (·.1)).Nodup := by
    rw [List.map_map]
    exact (List.map_id _).symm ▸ nodup_shownUnits _ x.cpu
  rw [hsplit] at hemit hnd
  have hbuild := h.transcript.builds_units (n := longest .cpu discovery) perUnit_cpu hg hemit
    (defined_halves h hg hcount hall) (by simp) (fun row hrow => (hsecond row hrow).1)
    (fun row hrow => by
      rcases List.mem_append.mp hrow with hrow | hrow
      · rw [List.mem_singleton.mp hrow]
        omega
      · exact (hsecond row hrow).2) hnd acts
  refine hbuild.congr fun i z => ?_
  rw [← hsplit]
  rw [lookup_graph_eq]
  split <;> rfl

/-- The times that were shown, read back record by record. -/
theorem getD_cpus (h : Written (defineView config header discovery) store s x record)
    (hg : .cpu ∈ s.defined) (hcount : 2 ≤ longest .cpu discovery)
    (hall : config.SelectsAll (longest .cpu discovery)) {f : Nat → CpuTimes}
    (hemit : (s.loaded x).emissions .cpu = writtenUnits ((s.loaded x).view .cpu) cpuColumns
      ((shownUnits (longest .cpu discovery) x.cpu).map fun i => (i, f i)))
    (hguest : ∀ i, (f i).IncludesGuest) (hblank : t.acts.Blank)
    (hread : Imported store.instances t (store.decode record) y t') :
    y.cpu.length ≤ longest .cpu discovery ∧ ∀ i, y.cpu.getD i default =
      if i ∈ shownUnits (longest .cpu discovery) x.cpu then f i else default := by
  have hbuild := builds_cpus h hg hcount hall hemit t.acts
  have hblank : t.acts.cpu.Holds .curr [] := hblank.multi .cpu
  have hwithin := hbuild.within (hblank.within_nil _)
  have hback : y.cpu = ((takeAll store.instances (store.decode record).sets t.acts).cpu.records
      .curr).map CpuTimes.withGuest := by
    have hfinish : (finish (takeAll store.instances (store.decode record).sets t.acts)).cpu = _ :=
      finish_part .cpu (takeAll store.instances (store.decode record).sets t.acts)
    have hy : y.cpu = _ := hread.multi .cpu
    rw [hy]
    exact (congrArg (fun a : Activity CpuTimes => a.records .curr) hfinish).trans
      (Activity.records_fill_map _ _ _)
  refine ⟨?_, fun i => ?_⟩
  · rw [hback, List.length_map]
    exact hwithin.length_records
  · have hdefault : (default : CpuTimes).withGuest = default := rfl
    have hrecord := hbuild.recordAt i
    rw [hblank.recordAt_nil] at hrecord
    rw [hback, ← hdefault, List.getD_map, hwithin.getD_records, hrecord]
    by_cases hi : i ∈ shownUnits (longest .cpu discovery) x.cpu
    · rw [if_pos hi, if_pos hi, withGuest_copyColumns (hguest i)]
    · rw [if_neg hi, if_neg hi]

/-- Times that are shown and read back. -/
theorem returned_of_shownTimes {count : Nat} {earlier : List (List CpuTimes)}
    {cpus back : List CpuTimes} (h : CpusFit count (earlier ++ [cpus]))
    (hlength : back.length ≤ count)
    (hback : ∀ i, back.getD i default =
      if i ∈ shownUnits count cpus then shownTimes count earlier cpus i else default) :
    CpusReturned count earlier cpus back := by
  refine ⟨hlength, fun i hpos hi => ?_, fun f hf => ?_⟩
  · have hshown : i ∈ shownUnits count cpus ↔ cpus.getD i default ≠ default := by
      rw [mem_shownUnits]
      exact ⟨fun h => (h.resolve_left (by omega)).2, fun h => Or.inr ⟨⟨hpos, hi⟩, h⟩⟩
    rw [hback i]
    by_cases hblank : cpus.getD i default = default
    · rw [if_neg fun hmem => hshown.mp hmem hblank, if_pos hblank]
    · rw [if_pos (hshown.mpr hblank), if_neg hblank, shownTimes, if_neg (by omega)]
      rfl
  · rw [hback 0, if_pos (mem_shownUnits.mpr (Or.inl rfl)), shownTimes, if_pos rfl]
    exact CpuTimes.toNat_sum hf (h.sums_concat f hf)

/-- The CPU times of every record of a run, read back in whatever order records are read. -/
theorem import_export_cpus (config : Config) (header : HostHeader) (discovery samples : List Sample)
    (store : Store) (hrun : Run config header discovery samples store)
    (henabled : config.enables Group.cpu.name = true) (hcount : 2 ≤ longest .cpu discovery)
    (hall : config.SelectsAll (longest .cpu discovery))
    (hfits : CpusFit (longest .cpu discovery) (samples.map (·.cpu))) :
    store.fetch.length = samples.length ∧
      ∀ (k : Nat) (x : Sample) (r : FetchedRecord), samples[k]? = some x →
      store.fetch[k]? = some r →
        ∀ t, Reader store.instances t → ∃ y t', t.importRecord r = (.ok y, t') ∧
          CpusReturned (longest .cpu discovery) ((samples.take k).map (·.cpu)) x.cpu y.cpu := by
  obtain ⟨hlen, hwritten⟩ := hrun.written
  refine ⟨hlen, fun k x r hx hr t ht => ?_⟩
  obtain ⟨s, record, hexported, h, rfl⟩ := hwritten k x r hx hr
  obtain ⟨y, t', himport, hread⟩ := ht.importRecord_ok (store.decode record)
  refine ⟨y, t', himport, ?_⟩
  have hk : (samples.map (·.cpu))[k]? = some x.cpu := by
    rw [List.getElem?_map, hx]
    rfl
  have hupto : CpusFit (longest .cpu discovery) ((samples.take k).map (·.cpu) ++ [x.cpu]) :=
    List.map_take ▸ hfits.take_concat hk
  have hg := hexported.mem_defined aggregates_cpu henabled hcount
  have hemit := emissions_cpu hexported h henabled hcount hall hupto.present hupto.ticks
  obtain ⟨hshort, hback⟩ := getD_cpus h hg hcount hall hemit
    (includesGuest_shownTimes hupto.guest hupto.sums_concat) ht.importing.blank hread
  exact returned_of_shownTimes hupto hshort hback

/-- A sample with two CPUs, and one in which the first has not ticked and the second is offline. -/
def twoCpus : Sample :=
  { Sample.blank with cpu := [{}, { user := 7, guest := 2, idle := 9 }, { sys := 4, steal := 1 }] }

def firstCpu : Sample := { Sample.blank with cpu := [{}, { user := 7, guest := 2, idle := 9 }] }

theorem idleCpu_comes_back :
    ∃ store, Run {} {} [twoCpus] [twoCpus, firstCpu] store ∧ ∃ r, store.fetch[1]? = some r ∧
      ∃ t, Reader store.instances t ∧ ∃ y t', t.importRecord r = (.ok y, t') ∧
        y.cpu.length ≤ 3 ∧ y.cpu.getD 1 default = { idle := 100 } ∧
        y.cpu.getD 2 default = {} ∧
        (y.cpu.getD 0 default).user.toNat = 7 ∧ (y.cpu.getD 0 default).sys.toNat = 4 := by
  have hknown : ∀ x ∈ [twoCpus, firstCpu], BatteriesKnown [twoCpus] x := by
    intro x hx i b hb
    simp only [List.mem_cons, List.not_mem_nil, or_false] at hx
    rcases hx with rfl | rfl <;> cases hb
  obtain ⟨store, hrun⟩ := exists_run {} {} (by decide) hknown
  obtain ⟨hlen, hback⟩ := import_export_cpus {} {} [twoCpus] [twoCpus, firstCpu] store hrun rfl
    (by decide) ⟨rfl, by simp⟩ ⟨by decide, by decide, by decide, by decide⟩
  obtain ⟨r, hr⟩ : ∃ r, store.fetch[1]? = some r :=
    ⟨_, List.getElem?_eq_getElem (by rw [hlen]; decide)⟩
  obtain ⟨t, ht⟩ := exists_reader store.instances
  obtain ⟨y, t', himport, hcpus⟩ := hback 1 firstCpu r rfl hr t ht
  refine ⟨store, hrun, r, hr, t, ht, y, t', himport, hcpus.length, ?_, ?_, ?_, ?_⟩
  · exact (hcpus.unit 1 (by decide) (by decide)).trans (by decide)
  · exact (hcpus.unit 2 (by decide) (by decide)).trans (by decide)
  · exact (hcpus.total (·.user) (by simp [CpuTimes.words])).trans (by decide)
  · exact (hcpus.total (·.sys) (by simp [CpuTimes.words])).trans (by decide)

end ActivityArchive.Archive
