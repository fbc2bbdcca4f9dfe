import ActivityArchive.Proofs.Activity.LastKnown
import ActivityArchive.Proofs.Group.Aggregating
import ActivityArchive.Proofs.Group.Restoring
import ActivityArchive.Proofs.Session.Carrying
import ActivityArchive.Proofs.Session.Runs

/-!
The counters that a session remembers of its CPUs. After every export the slot just written holds
the last known counters of each CPU and their sum, and the offline bitmap the CPUs that the sample
does not show (`last_known_counters`).
-/
namespace ActivityArchive

open Activities Record

instance : DecidableEq (Multi.cpu).Rec := inferInstanceAs (DecidableEq CpuTimes)

instance : DecidableEq (Multi.softnet).Rec := inferInstanceAs (DecidableEq Softnet)

namespace Session

variable {config : Config} {header : HostHeader} {discovery samples : List Sample} {s s' : Session}
  {x : Sample} {g : Group} {k : Multi} [DecidableEq k.Rec] {add : k.Rec → k.Rec → k.Rec}

/-- One export loads the sample into the slot that is next, and aggregates it there. -/
theorem Took.aggregate (h : Took s x s') (hagg : Aggregates g k add) (hg : g ∈ s.defined)
    (hne : x.multi k ≠ []) :
    s'.acts.multi k = ((s.acts.multi k).load s.slot (x.multi k)).aggregate add s.slot := by
  have hload : (s.loaded x).acts.multi k = (s.acts.multi k).load s.slot (x.multi k) :=
    Groups.multi_ofFun _ _ k
  have hobs : ((s.loaded x).acts.multi k).buffer.observed.get s.slot ≠ 0 := by
    rw [hload, Activity.observed_load]
    exact fun h0 => hne (List.length_eq_zero_iff.mp h0)
  rw [multi_of_part hagg.part (h.part g hg), hagg.emit, ← hload]
  exact if_neg hobs

theorem Exported.mem_defined (h : Exported config header discovery samples s)
    (hagg : Aggregates g k add) (henabled : config.enables g.name = true)
    (hcount : 1 < longest k discovery) : g ∈ s.defined := by
  have hpresent : g.spec.isPresent (defineView config header discovery).acts = true := by
    rw [hagg.present, (multi_defineView config header discovery k).2]
    exact decide_eq_true (by omega)
  have henabled : (defineView config header discovery).config.enables g.name = true := henabled
  rw [h.defined.2]
  refine List.mem_filter.mpr ⟨Group.mem_all g, ?_⟩
  rw [taken, henabled, hpresent]
  simp

/-- A sample without records of a group is loaded and not aggregated. -/
theorem Took.load (h : Took s x s') (hagg : Aggregates g k add) (hg : g ∈ s.defined)
    (hnil : x.multi k = []) : s'.acts.multi k = (s.acts.multi k).load s.slot [] := by
  have hload : (s.loaded x).acts.multi k = (s.acts.multi k).load s.slot [] :=
    (Groups.multi_ofFun _ _ k).trans (by rw [hnil])
  have hobs : ((s.loaded x).acts.multi k).buffer.observed.get s.slot = 0 := by
    rw [hload, Activity.observed_load]
    rfl
  rw [multi_of_part hagg.part (h.part g hg), hagg.emit, ← hload]
  exact if_pos hobs

/-- Before each export the other slot recalls the samples since the last one without records. -/
theorem Exported.recalls_sinceGap (h : Exported config header discovery samples s)
    (hagg : Aggregates g k add) (henabled : config.enables g.name = true)
    (hcount : 1 < longest k discovery) :
    (s.acts.multi k).count = longest k discovery ∧
      (s.acts.multi k).Recalls s.slot.other (sinceGap (samples.map (·.multi k))) := by
  induction h with
  | define hnew hdef =>
    obtain ⟨hbuffer, hcounts⟩ := multi_defineView config header discovery k
    rw [(define_ok hnew hdef).2.2.1]
    refine ⟨hcounts, fun i _ _ => ?_⟩
    rw [Activity.recordAt, hbuffer]
    rfl
  | @exportRecord samples s s' store store' x hrun hexp ih =>
    obtain ⟨hcounts, hrecalls⟩ := ih
    have htook := took_of_exportRecord hrun.nodup hexp
    have hmem := hrun.mem_defined hagg henabled hcount
    have hone : 1 < (s.acts.multi k).count := hcounts ▸ hcount
    rw [htook.session.2.2, Slot.other_other, List.map_append]
    by_cases hnil : x.multi k = []
    · have hmulti := htook.load hagg hmem hnil
      have hgap : sinceGap (samples.map (·.multi k) ++ [x].map (·.multi k)) = [] := by
        rw [List.map_cons, hnil]
        exact sinceGap_gap _
      rw [hmulti, hgap]
      refine ⟨hcounts, fun i _ _ => ?_⟩
      rw [Activity.recordAt_load]
      rfl
    · have hmulti := htook.aggregate hagg hmem hnil
      have hkept : (s'.acts.multi k).count = (s.acts.multi k).count := by
        rw [hmulti, Activity.count,
          (Activity.aggregated add ((s.acts.multi k).load s.slot (x.multi k)) s.slot hone).planned]
        rfl
      have hlatest : Activity.HoldsLatest add (s'.acts.multi k).count
          (sinceGap (samples.map (·.multi k))) (x.multi k) (s'.acts.multi k) s.slot := by
        rw [hkept, hmulti]
        exact hrecalls.aggregate hone
      refine ⟨hkept.trans hcounts, ?_⟩
      rw [List.map_cons, List.map_nil, sinceGap_concat _ hnil]
      exact hlatest.recalls

/-- Before each export the other slot recalls all samples so far, if none was without records. -/
theorem Exported.recalls (h : Exported config header discovery samples s)
    (hagg : Aggregates g k add) (henabled : config.enables g.name = true)
    (hcount : 1 < longest k discovery) (hne : ∀ y ∈ samples, y.multi k ≠ []) :
    (s.acts.multi k).count = longest k discovery ∧
      (s.acts.multi k).Recalls s.slot.other (samples.map (·.multi k)) := by
  have hall : ∀ rs ∈ samples.map (·.multi k), rs ≠ [] := by
    intro rs hrs
    obtain ⟨y, hy, rfl⟩ := List.mem_map.mp hrs
    exact hne y hy
  exact sinceGap_eq hall ▸ h.recalls_sinceGap hagg henabled hcount

/-- What the slot just written holds. -/
theorem Exported.holdsLatest (h : Exported config header discovery (samples ++ [x]) s)
    (hagg : Aggregates g k add) (henabled : config.enables g.name = true)
    (hcount : 1 < longest k discovery) (hne : ∀ y ∈ samples ++ [x], y.multi k ≠ []) :
    Activity.HoldsLatest add (longest k discovery) (samples.map (·.multi k)) (x.multi k)
      (s.acts.multi k) s.slot.other := by
  obtain ⟨s₀, store, store', hrun, hexp⟩ := exported_append h
  obtain ⟨hcounts, hrecalls⟩ := hrun.recalls hagg henabled hcount fun y hy =>
    hne y (List.mem_append_left _ hy)
  have htook := took_of_exportRecord hrun.nodup hexp
  have hmem := hrun.mem_defined hagg henabled hcount
  rw [htook.aggregate hagg hmem (hne x (by simp)), htook.session.2.2, Slot.other_other, ← hcounts]
  exact hrecalls.aggregate (hcounts ▸ hcount)

/-- The counters of an offline CPU are carried from slot to slot, for the times of the CPUs and for
their packet queues alike. -/
theorem last_known_counters (config : Config) (header : HostHeader)
    (discovery samples : List Sample)
    (x : Sample) (s : Session) (h : Exported config header discovery (samples ++ [x]) s) :
    (config.enables Group.cpu.name = true → 2 ≤ longest .cpu discovery →
      (∀ y ∈ samples ++ [x], y.cpu ≠ []) →
        Activity.HoldsLatest CpuTimes.add (longest .cpu discovery) (samples.map (·.cpu)) x.cpu
          s.acts.cpu s.slot.other) ∧
    (config.enables Group.softnet.name = true → 2 ≤ longest .softnet discovery →
      (∀ y ∈ samples ++ [x], y.softnet ≠ []) →
        Activity.HoldsLatest Softnet.add (longest .softnet discovery) (samples.map (·.softnet))
          x.softnet s.acts.softnet s.slot.other) :=
  ⟨h.holdsLatest aggregates_cpu, h.holdsLatest aggregates_softnet⟩

/-- A sample with two CPUs, and one that shows the first record of them only. -/
def bothUnits : Sample :=
  { Sample.blank with cpu := [{}, { user := 7 }], softnet := [{}, { processed := 3 }] }

def firstUnit : Sample := { Sample.blank with cpu := [{ user := 9 }], softnet := [{}] }

theorem offline_counters_carried :
    ∃ s, Exported {} {} [bothUnits] ([bothUnits] ++ [firstUnit]) s ∧
    s.acts.cpu.buffer.elementAt s.slot.other 1 = .ok { user := 7 } ∧
    s.acts.softnet.buffer.elementAt s.slot.other 1 = .ok { processed := 3 } ∧
    s.acts.cpu.offline.contains 1 = true ∧ s.acts.softnet.offline.contains 1 = true := by
  obtain ⟨hdefine, -, hready⟩ := define_iff {} {} [bothUnits]
  have hok := hdefine.mpr (Or.inr (by decide))
  have hknown : ∀ x ∈ [bothUnits, firstUnit], BatteriesKnown [bothUnits] x := by
    intro x hx i b hb
    simp only [List.mem_cons, List.not_mem_nil, or_false] at hx
    rcases hx with rfl | rfl <;> cases hb
  obtain ⟨hexport, -⟩ := exportAll_ok (hready hok) hknown
  have hnew : Exported {} {} [bothUnits] [] ((initial {}).define .empty {} [bothUnits]).2.1 :=
    .define (new_eq {}) (Prod.ext hok rfl)
  have hrun := hnew.exportAll (Prod.ext hexport rfl)
  obtain ⟨hcpu, hsoftnet⟩ := last_known_counters {} {} [bothUnits] [bothUnits] firstUnit _ hrun
  have hcpu := hcpu rfl (by decide) (by decide)
  have hsoftnet := hsoftnet rfl (by decide) (by decide)
  refine ⟨_, hrun, hcpu.unit 1 (by decide) (by decide), hsoftnet.unit 1 (by decide) (by decide),
    ?_, ?_⟩
  · exact (hcpu.offline 1).mpr (by decide)
  · exact (hsoftnet.offline 1).mpr (by decide)

end Session

end ActivityArchive
