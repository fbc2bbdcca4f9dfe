import ActivityArchive.Proofs.Activity.LastKnown
import ActivityArchive.Proofs.Group.UnitRestoring
import ActivityArchive.Proofs.Record.CpuTimes

/-!
CPU times shown and read back. A record shows the aggregate and the CPUs that are online, with idle
time only where a CPU did not tick (`shown_cpu`); guest time, taken off when a record is shown, is
put back once when it is finished (`withGuest_copyColumns`).
-/
namespace ActivityArchive

open Activities GroupSpec Record

/-- The last known counters of all CPUs. -/
def knownUnits (count : Nat) (samples : List (List CpuTimes)) : List CpuTimes :=
  (List.range' 1 (count - 1)).map (latest · samples)

/-- What is shown of a record. -/
def shownTimes (count : Nat) (earlier : List (List CpuTimes)) (cpus : List CpuTimes) (i : Nat) :
    CpuTimes :=
  if i = 0 then (knownUnits count (earlier ++ [cpus])).foldl CpuTimes.add default
  else if (latest i earlier).total < (cpus.getD i default).total then cpus.getD i default
  else .tickless

/-- The records that are shown: the aggregate, and the CPUs that are online. -/
def shownUnits (count : Nat) (cpus : List CpuTimes) : List Nat :=
  0 :: (List.range' 1 (count - 1)).filter fun i => cpus.getD i default ≠ default

theorem perUnit_cpu : PerUnit .cpu .cpu cpuColumns := ⟨rfl, rfl, _, _, _, _, rfl⟩

variable {a : Activity CpuTimes} {s : Slot} {earlier : List (List CpuTimes)} {cpus : List CpuTimes}
  {i : Nat}

theorem isShown_aggregated (h : a.Recalls s.other earlier) (hcount : 1 < a.count)
    (hselected : ∀ i < a.count, a.selection.contains i = true) (hi : i < a.count) :
    isShown i ((a.load s cpus).aggregate CpuTimes.add s).selection
      ((a.load s cpus).aggregate CpuTimes.add s).offline = true ↔
        i = 0 ∨ cpus.getD i default ≠ default := by
  have hagg := Activity.aggregated CpuTimes.add (a.load s cpus) s hcount
  have hselection : ((a.load s cpus).aggregate CpuTimes.add s).selection = a.selection :=
    hagg.selection
  rw [isShown, hselection, hselected i hi, Bool.true_and, Bool.not_eq_true', ← Bool.not_eq_true,
    (h.aggregate hcount).offline i]
  constructor
  · intro hnot
    by_cases hzero : i = 0
    · exact Or.inl hzero
    · exact Or.inr fun hblank => hnot ⟨by omega, hi, hblank⟩
  · rintro (rfl | hne) ⟨hpos, -, hblank⟩
    · omega
    · exact hne hblank

/-- The indices of the records that are shown. -/
theorem filter_isShown (h : a.Recalls s.other earlier) (hcount : 1 < a.count)
    (hselected : ∀ i < a.count, a.selection.contains i = true) :
    ((List.range a.count).filter fun i =>
        isShown i ((a.load s cpus).aggregate CpuTimes.add s).selection
          ((a.load s cpus).aggregate CpuTimes.add s).offline) = shownUnits a.count cpus := by
  have hrange : List.range a.count = 0 :: List.range' 1 (a.count - 1) :=
    List.range_eq_range'.trans (List.range'_eq_cons_iff.mpr ⟨rfl, by omega, rfl⟩)
  have hzero : isShown 0 ((a.load s cpus).aggregate CpuTimes.add s).selection
      ((a.load s cpus).aggregate CpuTimes.add s).offline = true :=
    (isShown_aggregated h hcount hselected (by omega)).mpr (Or.inl rfl)
  rw [hrange, List.filter_cons_of_pos (by exact hzero), shownUnits]
  refine congrArg _ (List.filter_congr fun i hi => ?_)
  obtain ⟨hpos, hlt⟩ := List.mem_range'_1.mp hi
  rw [Bool.eq_iff_iff, isShown_aggregated h hcount hselected (by omega), decide_eq_true_eq]
  exact or_iff_right (by omega)

/-- What is shown of a CPU that is online, or of the aggregate. -/
theorem shownCpu_eq (h : a.Recalls s.other earlier) (hcount : 1 < a.count)
    (hticks : ∀ y ∈ earlier ++ [cpus], ∀ c ∈ y, c.total < UInt64.size) (hi : i < a.count)
    (honline : i = 0 ∨ cpus.getD i default ≠ default) :
    shownCpu ((a.load s cpus).aggregate CpuTimes.add s) s i =
      .ok (shownTimes a.count earlier cpus i) := by
  have hlatest : Activity.HoldsLatest CpuTimes.add a.count earlier cpus
      ((a.load s cpus).aggregate CpuTimes.add s) s := h.aggregate hcount
  have hagg := Activity.aggregated CpuTimes.add (a.load s cpus) s hcount
  have hroom : i < ((a.load s cpus).aggregate CpuTimes.add s).buffer.allocated :=
    Nat.lt_of_lt_of_le hi hagg.room
  have hprev := SampleBuffer.elementAt_eq hroom s.other
  by_cases hzero : i = 0
  · subst hzero
    rw [shownCpu, hlatest.total]
    rfl
  · have hpos : 1 ≤ i := by omega
    have hne : cpus.getD i default ≠ default := honline.resolve_left hzero
    have hcurr : latest i (earlier ++ [cpus]) = cpus.getD i default := by
      rw [latest_append, lastKnown, if_neg hne]
    have hbefore : ((a.load s cpus).aggregate CpuTimes.add s).buffer.recordAt s.other i =
        latest i earlier := by
      refine (hagg.other i).trans ?_
      rw [Activity.recordAt_load_other, h i hpos hi]
    have hsmall : ∀ samples : List (List CpuTimes),
      (∀ y ∈ samples, y ∈ earlier ++ [cpus]) →
        (latest i samples).total < UInt64.size := fun samples hsub =>
      latest_induction (by decide) (fun y hy => hticks y (hsub y hy)) i
    have hinterval := CpuTimes.cpuInterval_eq_zero_iff
      (hcurr ▸ hsmall (earlier ++ [cpus]) fun _ hy => hy)
      (hsmall earlier fun _ hy => List.mem_append_left _ hy)
    have hoffline : ((a.load s cpus).aggregate CpuTimes.add s).offline.contains i = false := by
      rw [← Bool.not_eq_true, hlatest.offline i]
      exact fun hoff => hne hoff.2.2
    have htickless : isTickless i ((a.load s cpus).aggregate CpuTimes.add s).offline
        (cpuInterval (cpus.getD i default) (latest i earlier)) = true ↔
          ¬ (latest i earlier).total < (cpus.getD i default).total := by
      rw [isTickless, hoffline, decide_eq_true (Nat.pos_of_ne_zero hzero), ← hinterval]
      simp
    rw [shownCpu, hlatest.unit i hpos hi, hprev, hbefore, hcurr, shownTimes, if_neg hzero]
    simp only [ok_bind, if_neg hzero]
    by_cases hgrown : (latest i earlier).total < (cpus.getD i default).total
    · rw [if_neg fun hidle => htickless.mp hidle hgrown, if_pos hgrown]
      rfl
    · rw [if_pos (htickless.mpr hgrown), if_neg hgrown]
      rfl

/-- What an export shows of a sample. -/
theorem shown_cpu (h : a.Recalls s.other earlier) (hcount : 1 < a.count)
    (hselected : ∀ i < a.count, a.selection.contains i = true)
    (hticks : ∀ y ∈ earlier ++ [cpus], ∀ c ∈ y, c.total < UInt64.size) :
    shown ((a.load s cpus).aggregate CpuTimes.add s)
        (shownCpu ((a.load s cpus).aggregate CpuTimes.add s) s) =
      .ok ((shownUnits a.count cpus).map fun i => (i, shownTimes a.count earlier cpus i)) := by
  have hkept : ((a.load s cpus).aggregate CpuTimes.add s).count = a.count := by
    rw [Activity.count, (Activity.aggregated CpuTimes.add (a.load s cpus) s hcount).planned]
    rfl
  rw [shown, hkept, filter_isShown h hcount hselected]
  refine mapM_ok fun i hi => ?_
  rw [← filter_isShown h hcount hselected, List.mem_filter, List.mem_range] at hi
  have honline := (isShown_aggregated h hcount hselected hi.1).mp hi.2
  rw [shownCpu_eq h hcount hticks hi.1 honline, Except.map]

/-- Guest time is taken off once and put back once. -/
theorem withGuest_copyColumns {c : CpuTimes} (h : c.IncludesGuest) :
    (copyColumns cpuColumns c default).withGuest = c := by
  have huser : satSub c.user c.guest = c.user - c.guest := if_pos h.1
  have hnice : satSub c.nice c.guestNice = c.nice - c.guestNice := if_pos h.2
  simp only [copyColumns, cpuColumns, List.foldl_cons, List.foldl_nil,
    UnitColumn.copy, huser, hnice, CpuTimes.withGuest, UInt64.sub_add_cancel]

/-- What the columns of a record that is shown bring back. -/
theorem includesGuest_shownTimes {count : Nat}
    (hguest : ∀ y ∈ earlier ++ [cpus], ∀ c ∈ y, c.IncludesGuest)
    (hsums : ∀ f ∈ CpuTimes.words,
      CpuTimes.sumOf f (knownUnits count (earlier ++ [cpus])) < UInt64.size) (i : Nat) :
    (shownTimes count earlier cpus i).IncludesGuest := by
  have hblank : (default : CpuTimes).IncludesGuest := by decide
  rw [shownTimes]
  split
  · refine CpuTimes.includesGuest_sum (fun c hc => ?_) hsums
    obtain ⟨j, -, rfl⟩ := List.mem_map.mp hc
    exact latest_induction hblank hguest j
  · split
    · by_cases hi : i < cpus.length
      · rw [getD_of_lt hi]
        exact hguest cpus (by simp) _ (List.getElem_mem hi)
      · rw [getD_of_le (Nat.le_of_not_lt hi)]
        exact hblank
    · decide

end ActivityArchive
