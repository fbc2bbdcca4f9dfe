import ActivityArchive.Proofs.Activity.Accesses
import ActivityArchive.Proofs.Activity.Alike
import ActivityArchive.Proofs.Activity.Clamping

/-!
What no slot observes. Behind the records that a slot observes, and below the rows of interrupts
that it observes, nothing is left of any sample, whatever is done to activities (`Part.Clean`). So
to observe more of a slot shows blank records only (`Activity.Clean.unexposed`,
`Interrupts.unexposed`).
-/
namespace ActivityArchive

open Record

namespace Activity

variable {R : Type} [Inhabited R] {a b : Activity R} {s t : Slot} {i n : Nat}

/-- Neither slot has anything behind the records that it observes, for all of which there is room.
-/
structure Clean (a : Activity R) : Prop where
  roomy : a.Roomy
  blank : ∀ s i, a.buffer.observed.get s ≤ i → a.recordAt s i = default

theorem clean_empty : (empty : Activity R).Clean := ⟨roomy_empty, fun _ _ _ => rfl⟩

/-- A change of one slot. -/
theorem Clean.change (h : a.Clean) (hroomy : b.Roomy)
    (hblank : ∀ i, b.buffer.observed.get s ≤ i → b.recordAt s i = default)
    (hobserved : b.buffer.observed.get s.other = a.buffer.observed.get s.other)
    (hother : ∀ i, b.recordAt s.other i = a.recordAt s.other i) : b.Clean := by
  refine ⟨hroomy, fun t i hi => ?_⟩
  rcases s.eq_or_other t with rfl | rfl
  · exact hblank i hi
  · rw [hother]
    exact h.blank _ i (hobserved ▸ hi)

theorem Clean.clear (h : a.Clean) (s : Slot) : (a.clear s).Clean :=
  h.change (h.roomy.clear s) (fun i _ => SampleBuffer.recordAt_clear a.buffer s i)
    (Pair.get_set_other _ s 0)
    fun i => congrArg (·.getD i default) (SampleBuffer.column_clear_other a.buffer s)

/-- The slot is cleared before it is loaded: a shorter sample leaves nothing of a longer one. -/
theorem Clean.load (h : a.Clean) (s : Slot) (rs : List R) : (a.load s rs).Clean := by
  refine h.change (h.roomy.load s rs) (fun i hi => ?_) (observed_load_other a s rs)
    (recordAt_load_other a s rs)
  rw [observed_load] at hi
  rw [recordAt_load, getD_of_le hi]

/-- A buffer that is not cleared shows them again when more of it is observed. -/
example :
    let b := ((SampleBuffer.empty : SampleBuffer Nat).load .curr [1, 2]).load .curr [3]
    b.records .curr = [3] ∧ (b.observe .curr 2).records .curr = [3, 2] := by decide

theorem Clean.update (h : a.Clean) (s : Slot) (i : Nat) (f : R → R) : (a.update s i f).Clean := by
  refine h.change (h.roomy.update s i f) (fun j hj => ?_) (Pair.get_set_other _ s _) fun j => ?_
  · rw [observed_update] at hj
    rw [recordAt_update, if_neg (by omega), h.blank s j (by omega)]
  · refine Eq.trans ?_ (SampleBuffer.recordAt_observe a.buffer s s.other (i + 1) j)
    exact congrArg (·.getD j default) (SampleBuffer.column_modifyAt_other _ s i f)

theorem Clean.updateBy (h : a.Clean) (s : Slot) (p : R → Bool) (f : R → R) :
    (a.updateBy s p f).Clean := h.update s _ f

/-- Records of a slot that are written over, as long as those behind them stay blank. -/
theorem Clean.fill (h : a.Clean) {rs : List R} (hlen : rs.length ≤ a.buffer.allocated)
    (hrs : ∀ i, a.buffer.observed.get s ≤ i → rs.getD i default = default)
    (offline : Bitmap) :
    Clean { a with buffer := a.buffer.fill s rs, offline } := by
  refine h.change (SampleBuffer.Roomy.fill h.roomy s rs) (fun i hi => ?_) rfl
    fun i => congrArg (·.getD i default) (SampleBuffer.column_fill_other a.buffer s rs)
  refine (SampleBuffer.recordAt_fill hlen s i).trans ?_
  split
  · exact hrs i hi
  · exact h.blank s i hi

theorem Clean.fill_map (h : a.Clean) (s : Slot) (f : R → R) :
    Clean { a with buffer := a.buffer.fill s ((a.records s).map f) } := by
  have hlen : ((a.records s).map f).length = min (a.buffer.observed.get s) a.buffer.allocated := by
    rw [List.length_map, length_records]
  refine h.fill (hlen ▸ Nat.min_le_right _ _) (fun i hi => getD_of_le ?_) a.offline
  omega

theorem Clean.prepare (h : a.Clean) (s : Slot) : (a.prepare s).Clean := by
  refine ⟨h.roomy.prepare s, fun t i hi => ?_⟩
  rw [observed_prepare] at hi
  rw [recordAt_prepare]
  exact h.blank t i (by omega)

/-- Only units that were planned for are worked out, and all of them are observed by then. -/
theorem Clean.aggregate [DecidableEq R] (h : a.Clean) (add : R → R → R) (s : Slot) :
    (a.aggregate add s).Clean := by
  have hprepare := h.prepare s
  unfold Activity.aggregate
  dsimp only
  split
  · rename_i hmany
    have hmany : 1 < (a.prepare s).count := of_decide_eq_true hmany
    have hcount : (a.prepare s).count ≤ (a.prepare s).buffer.observed.get s :=
      count_le_observed_prepare a s s
    refine hprepare.fill (Nat.le_of_eq length_summed) (fun i hi => ?_) _
    have hbehind : ¬ i < unitsEnd (a.prepare s).count ((a.prepare s).buffer.column s)
        ((a.prepare s).buffer.column s.other) := by
      rw [unitsEnd]
      omega
    rw [summed, unitsAt, getD_withAggregate (by omega), if_neg hbehind]
    exact hprepare.blank s i hi
  · exact hprepare

/-- The first records of a slot, also where it observes fewer. -/
theorem Clean.map_recordAt (h : a.Clean) (hn : a.buffer.observed.get s ≤ n) :
    (List.range n).map (a.recordAt s) =
      a.records s ++ List.replicate (n - a.buffer.observed.get s) default := by
  obtain ⟨more, rfl⟩ : ∃ more, n = a.buffer.observed.get s + more :=
    ⟨_, (Nat.add_sub_cancel' hn).symm⟩
  have hblank : ((List.range more).map fun j => a.recordAt s (a.buffer.observed.get s + j)) =
      List.replicate more default := by
    refine List.eq_replicate_iff.mpr ⟨by simp, fun r hr => ?_⟩
    obtain ⟨j, -, rfl⟩ := List.mem_map.mp hr
    exact h.blank s _ (Nat.le_add_right _ j)
  rw [List.range_add, List.map_append, List.map_map, records_eq_map (h.roomy s),
    Nat.add_sub_cancel_left, ← hblank]
  rfl

/-- A slot that is changed at a position has records up to there, blank ones where it had none. -/
theorem Clean.records_update (h : a.Clean) (s : Slot) (i : Nat) (f : R → R) :
    (a.update s i f).records s =
      (a.records s ++ List.replicate (i + 1 - (a.records s).length) default).modify i f := by
  have hlen : (a.records s).length = a.buffer.observed.get s := by
    rw [length_records]
    exact Nat.min_eq_left (h.roomy s)
  have hmore : max (i + 1) (a.buffer.observed.get s) - a.buffer.observed.get s =
      i + 1 - a.buffer.observed.get s := by omega
  rw [records_eq_map (room_update a s i f), observed_update, hlen, ← hmore,
    ← h.map_recordAt (Nat.le_max_right _ _)]
  refine List.ext_getElem (by simp) fun j _ _ => ?_
  rw [List.getElem_map, List.getElem_modify, List.getElem_map, List.getElem_range, recordAt_update]
  exact if_congr eq_comm rfl rfl

/-- Nothing behind what a slot observes comes to light: the records that are there are blank, a
record that is changed there has only blank ones before it, and units that are missing in a sample
are blank. -/
structure Unexposed (a : Activity R) : Prop where
  blank : ∀ s i r, a.buffer.observed.get s ≤ i → a.buffer.elementAt s i = .ok r →
    r = default
  update : ∀ s i f, a.buffer.observed.get s ≤ i → (a.update s i f).records s =
    a.records s ++ List.replicate (i - a.buffer.observed.get s) default ++ [f default]
  prepare : ∀ s t, (a.prepare s).records t =
    a.records t ++ List.replicate (a.count - a.buffer.observed.get t) default

theorem Clean.unexposed (h : a.Clean) : a.Unexposed where
  blank s i r hi hr := by
    by_cases hroom : i < a.buffer.allocated
    · rw [SampleBuffer.elementAt_eq hroom] at hr
      exact (Except.ok.inj hr).symm.trans (h.blank s i hi)
    · have hnone : a.buffer.cells[i]? = none := List.getElem?_eq_none (Nat.le_of_not_lt hroom)
      rw [SampleBuffer.elementAt, hnone] at hr
      cases hr
  update s i f hi := by
    have hbefore : (List.range i).map ((a.update s i f).recordAt s) =
        (List.range i).map (a.recordAt s) := by
      refine List.map_congr_left fun j hj => ?_
      have hlt := List.mem_range.mp hj
      rw [recordAt_update, if_neg (by omega)]
    have hlast : (a.update s i f).recordAt s i = f default := by
      rw [recordAt_update, if_pos rfl, h.blank s i hi]
    rw [records_eq_map (room_update a s i f), observed_update, Nat.max_eq_left (by omega),
      List.range_succ, List.map_append, hbefore, h.map_recordAt hi, List.map_singleton, hlast]
  prepare s t := by
    have hrecords : (a.prepare s).recordAt t = a.recordAt t := funext (recordAt_prepare a s t)
    have hmore : max a.count (a.buffer.observed.get t) - a.buffer.observed.get t =
        a.count - a.buffer.observed.get t := by omega
    rw [records_eq_map (h.roomy.prepare s t), observed_prepare, hrecords,
      h.map_recordAt (Nat.le_max_right _ _), hmore]

end Activity

namespace GridBuffer

variable {R : Type} [Inhabited R] {g g' : GridBuffer R} {s : Slot}

/-- Neither slot has anything below the rows that it observes. -/
structure Clean (g : GridBuffer R) : Prop where
  sized : g.Sized
  blank : ∀ s row line, (g.observed.get s).1 ≤ row → g.recordAt s row line = default

theorem clean_empty : (empty : GridBuffer R).Clean :=
  ⟨sized_empty, fun s row line _ => recordAt_of_lines_le (g := empty) (Nat.zero_le line) s row⟩

/-- A change of one slot. -/
theorem Clean.change (h : g.Clean) (hsized : g'.Sized)
    (hblank : ∀ row line, (g'.observed.get s).1 ≤ row → g'.recordAt s row line = default)
    (hobserved : g'.observed.get s.other = g.observed.get s.other)
    (hother : ∀ row line, g'.recordAt s.other row line = g.recordAt s.other row line) :
    g'.Clean := by
  refine ⟨hsized, fun t row line hrow => ?_⟩
  rcases s.eq_or_other t with rfl | rfl
  · exact hblank row line hrow
  · rw [hother]
    exact h.blank _ row line (hobserved ▸ hrow)

theorem Clean.clear (h : g.Clean) (s : Slot) : (g.clear s).Clean :=
  h.change (sized_clear h.sized s) (fun row line _ => recordAt_clear g s row line)
    (Pair.get_set_other _ s _) (recordAt_clear_other g s)

theorem Clean.observe (h : g.Clean) (s : Slot) (cpus lines : Nat) :
    (g.observe s cpus lines).Clean := by
  refine h.change (s := s) (sized_observe h.sized s cpus lines) (fun row line hrow => ?_)
    (Pair.get_set_other _ s _) (recordAt_observe h.sized s s.other cpus lines)
  rw [observed_observe] at hrow
  rw [recordAt_observe h.sized]
  exact h.blank s row line (Nat.le_trans (Nat.le_max_left _ _) hrow)

end GridBuffer

namespace Interrupts

open GridBuffer GroupSpec

variable {a b : Interrupts} {g : GridBuffer UInt64} {s : Slot}

/-- A count that is written into a row that is observed. -/
theorem clean_write (h : g.Clean) {row : Nat} (hrow : row < (g.observed.get s).1)
    (cell : Nat × UInt64) : (write s row g cell).Clean := by
  have hw := written_write h.sized s row cell
  refine h.change hw.sized (fun r line hr => ?_) (by rw [hw.observed]) hw.other
  rw [hw.observed] at hr
  rw [hw.recordAt, if_neg (by omega)]
  exact h.blank s r line hr

/-- The rows of a table are observed before they are written. -/
theorem clean_filledGrid (h : a.grid.Clean) (s : Slot) (t : InterruptTable) :
    (a.filledGrid s t).Clean := by
  let P : GridBuffer UInt64 → Prop := fun g =>
    g.Clean ∧ t.counts.length ≤ (g.observed.get s).1
  have hroom : P (a.grid.observe s t.counts.length a.lines.length) := by
    refine ⟨h.observe s _ _, ?_⟩
    rw [observed_observe]
    exact Nat.le_max_right _ _
  have hall : P (a.filledGrid s t) := by
    refine filledGrid_induction hroom fun g row cell hrow hg => ?_
    refine ⟨clean_write hg.1 (Nat.lt_of_lt_of_le hrow hg.2) cell, ?_⟩
    rw [(written_write hg.1.sized s row cell).observed]
    exact hg.2
  exact hall.1

theorem clean_load (h : a.grid.Clean) (s : Slot) (sample : Option InterruptTable) :
    (a.load s sample).grid.Clean := by
  cases sample with
  | none => exact h.clear s
  | some t =>
    have hclear : ((a.clear s).addLines t.lines).grid.Clean := by
      rw [grid_addLines]
      exact h.clear s
    exact clean_filledGrid hclear s t

theorem clean_absorbCell (h : a.grid.Clean) (s : Slot) (row : Nat) (name : String)
    (count : UInt64) :
    (absorbCell a s row name count).grid.Clean := by
  have hgrid : ((a.addLine sumLine).addLine name).grid = a.grid := by
    rw [grid_addLine, grid_addLine]
  refine clean_write ((hgrid ▸ h).observe s (row + 1) _) ?_ _
  rw [observed_observe]
  exact Nat.le_max_right _ _

/-- The totals go into row 0, of a slot that observes a row at least. -/
theorem clean_prepare (h : a.grid.Clean) (hrows : (a.grid.observed.get s).1 ≠ 0)
    (hb : prepareInterrupts a s = .ok b) : b.grid.Clean := by
  by_cases hcount : 1 < a.count
  · rw [prepareInterrupts_eq h.sized hcount] at hb
    obtain rfl := Except.ok.inj hb
    refine h.change (sized_totaledGrid h.sized s) (fun row line hrow => ?_)
      (by rw [observed_totaledGrid]) (recordAt_totaledGrid_other s a)
    rw [observed_totaledGrid] at hrow
    rw [recordAt_totaledGrid h.sized hcount, if_neg (by omega)]
    exact h.blank s row line hrow
  · rw [prepareInterrupts_of_le s hcount] at hb
    obtain rfl := Except.ok.inj hb
    exact h

/-- Nothing below the rows that a slot observes comes to light: the cells that are there are zero,
and what more rows or lines bring in is zero, too. -/
structure Unexposed (a : Interrupts) : Prop where
  blank : ∀ s row line c, (a.grid.observed.get s).1 ≤ row →
    a.grid.elementAt s row line = .ok c → c = 0
  observe : ∀ s cpus lines row line c, (a.grid.observe s cpus lines).elementAt s row line =
    .ok c → row < (a.grid.observed.get s).1 ∧ a.grid.elementAt s row line = .ok c ∨ c = 0

theorem unexposed (h : a.grid.Clean) : a.Unexposed where
  blank s row line c hrow hc := by
    rw [h.sized.elementAt_eq] at hc
    split at hc
    · exact (Except.ok.inj hc).symm.trans (h.blank s row line hrow)
    · cases hc
  observe s cpus lines row line c hc := by
    rw [(h.observe s cpus lines).sized.elementAt_eq, recordAt_observe h.sized] at hc
    split at hc
    · obtain rfl := Except.ok.inj hc
      by_cases hrow : row < (a.grid.observed.get s).1
      · by_cases hline : line < a.grid.lines
        · have hcpus := h.sized.observed s
          refine Or.inl ⟨hrow, ?_⟩
          rw [h.sized.elementAt_eq, if_pos ⟨by omega, hline⟩]
        · exact Or.inr (recordAt_of_lines_le (Nat.le_of_not_lt hline) s row)
      · exact Or.inr (h.blank s row line (Nat.le_of_not_lt hrow))
    · cases hc

end Interrupts

/-- A part in which nothing is left where no slot observes it. -/
def Part.Clean : (t : Part) → t.State → Prop
  | .header, _ => True
  | .single _, x => Activity.Clean x
  | .multi _, x => Activity.Clean x
  | .interrupts, x => GridBuffer.Clean (Interrupts.grid x)

namespace Activities

variable {a : Activities}

def Clean (a : Activities) : Prop := ∀ t : Part, t.Clean (a.part t)

theorem clean_empty : empty.Clean := by
  intro t
  cases t with
  | header => trivial
  | single k =>
    simp only [part, empty, Groups.single_ofFun]
    exact Activity.clean_empty
  | multi k =>
    simp only [part, empty, Groups.multi_ofFun]
    exact Activity.clean_empty
  | interrupts => exact GridBuffer.clean_empty

theorem Clean.clear (h : a.Clean) (s : Slot) : (a.clear s).Clean := by
  intro t
  cases t with
  | header => trivial
  | single k =>
    simp only [part, Activities.clear, Groups.single_ofFun]
    exact Activity.Clean.clear (h (.single k)) s
  | multi k =>
    simp only [part, Activities.clear, Groups.multi_ofFun]
    exact Activity.Clean.clear (h (.multi k)) s
  | interrupts => exact GridBuffer.Clean.clear (h .interrupts) s

theorem Clean.load (h : a.Clean) (s : Slot) (sample : Sample) : (a.load s sample).Clean := by
  intro t
  cases t with
  | header => trivial
  | single k =>
    simp only [part, Activities.load, Groups.single_ofFun]
    exact Activity.Clean.load (h (.single k)) s _
  | multi k =>
    simp only [part, Activities.load, Groups.multi_ofFun]
    exact Activity.Clean.load (h (.multi k)) s _
  | interrupts => exact Interrupts.clean_load (h .interrupts) s sample.irq

end Activities

end ActivityArchive
