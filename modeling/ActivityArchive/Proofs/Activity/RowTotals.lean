import ActivityArchive.Proofs.Activity.Interrupts
import ActivityArchive.Proofs.Buffer.Clamping
import ActivityArchive.Proofs.Record.Sums
import ActivityArchive.Proofs.Selection.Members

/-!
The rows of a grid added up into row 0, whatever the size of the grid and however many rows are
asked for. Each line gets its own sum, rows of zeros are told apart, and no other cell changes
(`rowTotals`).
-/
namespace ActivityArchive

/-- Rows of one width, added up column by column. -/
theorem foldl_addRows {width : Nat} {rows : List (List UInt64)}
    (h : ∀ r ∈ rows, r.length = width) {acc : List UInt64} (hacc : acc.length = width) :
    (rows.foldl addRows acc).length = width ∧
      ∀ i, (rows.foldl addRows acc).getD i 0 =
        (rows.map (·.getD i 0)).foldl (· + ·) (acc.getD i 0) := by
  induction rows generalizing acc with
  | nil => exact ⟨hacc, fun _ => rfl⟩
  | cons r rows ih =>
    have hr := h r List.mem_cons_self
    have hlen : (addRows acc r).length = width := by
      rw [addRows, List.length_zipWith, hacc, hr, Nat.min_self]
    obtain ⟨hlast, hget⟩ := ih (fun r hr => h r (List.mem_cons_of_mem _ hr)) hlen
    refine ⟨hlast, fun i => (hget i).trans ?_⟩
    have hstep : (addRows acc r).getD i 0 = acc.getD i 0 + r.getD i 0 := by
      by_cases hi : i < width
      · rw [getD_of_lt (hlen ▸ hi), getD_of_lt (hacc ▸ hi), getD_of_lt (hr ▸ hi)]
        exact List.getElem_zipWith
      · have hi := Nat.le_of_not_lt hi
        rw [getD_of_le (hlen ▸ hi), getD_of_le (hacc ▸ hi), getD_of_le (hr ▸ hi)]
        rfl
    rw [hstep]
    rfl

theorem all_zero_iff {xs : List UInt64} : xs.all (· == 0) = true ↔ ∀ i, xs.getD i 0 = 0 := by
  simp only [List.all_eq_true, beq_iff_eq]
  constructor
  · intro h i
    by_cases hi : i < xs.length
    · rw [getD_of_lt hi]
      exact h _ (List.getElem_mem hi)
    · exact getD_of_le (Nat.le_of_not_lt hi)
  · intro h x hx
    obtain ⟨i, hi, rfl⟩ := List.mem_iff_getElem.mp hx
    rw [← getD_of_lt hi]
    exact h i

namespace GroupSpec

open GridBuffer

variable {g : GridBuffer UInt64} {count row : Nat} {s : Slot} {offline : Bitmap}

/-- The rows of the CPUs, added up column by column. -/
theorem foldl_unitRows (h : g.Sized) (count : Nat) (s : Slot) :
    (((unitRows count g s).map (·.2)).foldl addRows (List.replicate g.lines 0)).length =
    g.lines ∧
      ∀ line, (((unitRows count g s).map (·.2)).foldl addRows
          (List.replicate g.lines 0)).getD line 0 =
        ((List.range' 1 (min count g.cpus - 1)).map fun row =>
          g.recordAt s row line).foldl (· + ·) 0 := by
  have hrows : (unitRows count g s).map (·.2) =
      (List.range' 1 (min count g.cpus - 1)).map fun cpu => (g.rowCells cpu).map (·.get s) := by
    rw [unitRows, List.map_map]
    rfl
  have hwidth : ∀ r ∈ (unitRows count g s).map (·.2), r.length = g.lines := by
    intro r hr
    rw [hrows] at hr
    obtain ⟨cpu, hcpu, rfl⟩ := List.mem_map.mp hr
    have hrange := List.mem_range'_1.mp hcpu
    rw [List.length_map, h.length_rowCells (by omega)]
  obtain ⟨hlen, hget⟩ := foldl_addRows hwidth (List.length_replicate (a := (0 : UInt64)))
  refine ⟨hlen, fun line => (hget line).trans ?_⟩
  have hzero : (List.replicate g.lines (0 : UInt64)).getD line 0 = 0 :=
    getD_append_replicate [] g.lines line
  rw [hrows, List.map_map, hzero]
  rfl

/-- The rows that are taken for offline. -/
theorem mem_idle_unitRows :
    row ∈ ((unitRows count g s).filter fun r => r.2.all (· == 0)).map (·.1) ↔
      1 ≤ row ∧ row < min count g.cpus ∧ ∀ line, g.recordAt s row line = 0 := by
  rw [List.mem_map]
  constructor
  · rintro ⟨r, hr, rfl⟩
    obtain ⟨hunit, hzero⟩ := List.mem_filter.mp hr
    obtain ⟨cpu, hcpu, rfl⟩ := List.mem_map.mp hunit
    have hrange := List.mem_range'_1.mp hcpu
    exact ⟨hrange.1, by omega, all_zero_iff.mp hzero⟩
  · rintro ⟨hpos, hlt, hzero⟩
    refine ⟨_, List.mem_filter.mpr ⟨List.mem_map_of_mem (List.mem_range'_1.mpr ⟨hpos, ?_⟩),
      all_zero_iff.mpr hzero⟩, rfl⟩
    omega

/-- What the rows of a slot are made into, as far as there are `count` of them. -/
structure RowTotals (count : Nat) (g : GridBuffer UInt64) (s : Slot) (offline : Bitmap)
    (g' : GridBuffer UInt64) (offline' : Bitmap) : Prop where
  cpus : g'.cpus = g.cpus
  lines : g'.lines = g.lines
  observed : g'.observed = g.observed
  sized : g'.Sized
  marked : ∀ row, offline'.contains row = true ↔ offline.contains row = true ∨
    1 ≤ row ∧ row < min count g.cpus ∧ ∀ line, g.recordAt s row line = 0
  total : 1 < min count g.cpus → ∀ line, g'.recordAt s 0 line =
    UInt64.ofNat ((List.range' 1 (min count g.cpus - 1)).foldl
      (fun n row => n + (g.recordAt s row line).toNat) 0)
  kept : ∀ t row line, ¬ (1 < min count g.cpus ∧ t = s ∧ row = 0) →
    g'.recordAt t row line = g.recordAt t row line

theorem rowTotals (h : g.Sized) (hoffline : offline.WellFormed) (count : Nat) (s : Slot) :
    RowTotals count g s offline
      (if 1 < min count g.cpus then
          g.setRow s 0 (((unitRows count g s).map (·.2)).foldl addRows (List.replicate g.lines 0))
        else g)
      (offline.setAll (((unitRows count g s).filter fun r => r.2.all (· == 0)).map (·.1))) := by
  have hmarked : ∀ row, (offline.setAll _).contains row = true ↔ offline.contains row = true ∨
      1 ≤ row ∧ row < min count g.cpus ∧ ∀ line, g.recordAt s row line = 0 := fun row =>
    (Bitmap.contains_setAll hoffline).trans (Or.comm.trans (or_congr_right mem_idle_unitRows))
  by_cases hmany : 1 < min count g.cpus
  · rw [if_pos hmany]
    obtain ⟨hlen, hsum⟩ := foldl_unitRows h count s
    have hcpus : 0 < g.cpus := by omega
    refine ⟨rfl, rfl, rfl, sized_setRow h s 0 _, hmarked, fun _ line => ?_,
      fun t row line hother => ?_⟩
    · rw [recordAt_setRow h hlen hcpus, if_pos rfl]
      refine (hsum line).trans ?_
      rw [foldl_add_eq, List.foldl_map]
    · rcases s.eq_or_other t with rfl | rfl
      · rw [recordAt_setRow h hlen hcpus, if_neg fun hrow => hother ⟨hmany, rfl, hrow⟩]
      · exact recordAt_setRow_other g s 0 _ row line
  · rw [if_neg hmany]
    exact ⟨rfl, rfl, rfl, h, hmarked, fun hmany' => absurd hmany' hmany, fun _ _ _ _ => rfl⟩

end GroupSpec

end ActivityArchive
