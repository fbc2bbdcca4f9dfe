import Mathlib.Data.List.Induction
import ActivityArchive.Proofs.Activity.Plan

/-!
Plans for some samples after plans for others. A count is raised to the largest one seen, and lines
stand in the order in which they were first named. So samples that cover the ones scanned before
them leave the plan that they make on their own (`Covers`).
-/
namespace ActivityArchive

open Record

/-- A count raised to another one. Where nothing is planned yet it is raised from zero. -/
def raised (planned : Option Nat) (count : Nat) : Option Nat := some (max (planned.getD 0) count)

section Raising

variable {n m : Nat} {counts more : List Nat}

theorem raised_comm (planned : Option Nat) (n m : Nat) :
    raised (raised planned n) m = raised (raised planned m) n := by
  simp only [raised, Option.getD_some, Option.some.injEq]
  omega

theorem raised_of_le (planned : Option Nat) (h : n ≤ m) :
    raised (raised planned n) m = raised planned m := by
  simp only [raised, Option.getD_some, Option.some.injEq]
  omega

/-- A count that another one reaches later makes no difference. -/
theorem foldl_raised_of_le (planned : Option Nat) (hm : m ∈ counts) (h : n ≤ m) :
    counts.foldl raised (raised planned n) = counts.foldl raised planned := by
  induction counts generalizing planned with
  | nil => cases hm
  | cons c counts ih =>
    rw [List.foldl_cons, List.foldl_cons]
    rcases List.mem_cons.mp hm with rfl | hm
    · rw [raised_of_le planned h]
    · rw [raised_comm, ih _ hm]

theorem foldl_raised_covered (planned : Option Nat)
    (h : ∀ n ∈ more, ∃ m ∈ counts, n ≤ m) :
    counts.foldl raised (more.foldl raised planned) = counts.foldl raised planned := by
  induction more generalizing planned with
  | nil => rfl
  | cons n more ih =>
    obtain ⟨m, hm, hle⟩ := h n List.mem_cons_self
    rw [List.foldl_cons, ih _ fun n' hn' => h n' (List.mem_cons_of_mem n hn'),
      foldl_raised_of_le planned hm hle]

theorem foldl_raised_sizes {A : Type} (size : A → Nat) {first later : List A}
    (planned : Option Nat) (h : ∀ x ∈ first, ∃ y ∈ later, size x ≤ size y) :
    (later.map size).foldl raised ((first.map size).foldl raised planned) =
      (later.map size).foldl raised planned := by
  apply foldl_raised_covered
  intro n hn
  obtain ⟨x, hx, rfl⟩ := List.mem_map.mp hn
  obtain ⟨y, hy, hle⟩ := h x hx
  exact ⟨size y, List.mem_map_of_mem hy, hle⟩

end Raising

namespace Interrupts

/-- A name behind the known ones, unless it is one of them. -/
def enlist (known : List String) (name : String) : List String :=
  if name ∈ known then known else known ++ [name]

theorem addLines_eq (a : Interrupts) (names : List String) :
    a.addLines names = { a with lines := names.foldl enlist a.lines } := by
  induction names generalizing a with
  | nil => rfl
  | cons name names ih =>
    have hline : a.addLine name = { a with lines := enlist a.lines name } := by
      unfold addLine enlist
      split <;> rfl
    show (a.addLine name).addLines names = _
    rw [ih, hline]
    rfl

variable {known other names : List String} {name : String}

theorem prefix_enlist (known : List String) (name : String) : known <+: enlist known name := by
  unfold enlist
  split
  · exact List.prefix_rfl
  · exact List.prefix_append _ _

theorem prefix_foldl_enlist (known names : List String) : known <+: names.foldl enlist known := by
  induction names generalizing known with
  | nil => exact List.prefix_rfl
  | cons name names ih => exact (prefix_enlist known name).trans (ih _)

theorem foldl_enlist_nil (names : List String) : names.foldl enlist [] = names.eraseDups := by
  induction names using List.reverseRecOn with
  | nil => rfl
  | append_singleton names name ih =>
    rw [List.foldl_append, ih, List.foldl_cons, List.foldl_nil, List.eraseDups_append, enlist]
    by_cases hname : name ∈ names
    · simp [List.mem_eraseDups.mpr hname, List.removeAll, hname]
    · have hnew : name ∉ names.eraseDups := fun h => hname (List.mem_eraseDups.mp h)
      simp [hnew, List.removeAll, hname, List.eraseDups_cons]

/-- Different names are added in their order, without those that are known. -/
theorem foldl_enlist_of_nodup (hnd : names.Nodup) :
    names.foldl enlist known = known ++ names.filter (· ∉ known) := by
  induction names generalizing known with
  | nil => simp
  | cons name names ih =>
    obtain ⟨hname, hnd⟩ := List.nodup_cons.mp hnd
    rw [List.foldl_cons, ih hnd, enlist]
    by_cases hknown : name ∈ known
    · simp [hknown]
    · have hrest : names.filter (· ∉ known ++ [name]) = names.filter (· ∉ known) := by
        refine List.filter_congr fun other hother => ?_
        have hne : other ≠ name := fun he => hname (he ▸ hother)
        simp [hne]
      rw [if_neg hknown, hrest]
      simp [hknown]

/-- Two lists of which one is ahead of the other stay so while both lead to the same list. -/
theorem enlist_prefix {all : List String} (name : String) (hother : known <+: other)
    (hall : other <+: all) (hnext : enlist known name <+: all) :
    enlist known name <+: enlist other name ∧ enlist other name <+: all := by
  by_cases hname : name ∈ known
  · rw [enlist, if_pos hname, enlist, if_pos (hother.subset hname)]
    exact ⟨hother, hall⟩
  rw [enlist, if_neg hname] at hnext ⊢
  rcases List.prefix_or_prefix_of_prefix hnext hall with hle | hge
  · have hin : name ∈ other := hle.subset (by simp)
    rw [enlist, if_pos hin]
    exact ⟨hle, hall⟩
  · rcases List.prefix_concat_iff.mp hge with rfl | hback
    · rw [enlist, if_pos (by simp)]
      exact ⟨List.prefix_rfl, hall⟩
    · obtain rfl : other = known := (hback.eq_of_length_le hother.length_le)
      rw [enlist, if_neg hname]
      exact ⟨List.prefix_rfl, hnext⟩

/-- Names known already make no difference where they come first anyway. -/
theorem foldl_enlist_of_prefix (hother : known <+: other)
    (hall : other <+: names.foldl enlist known) :
    names.foldl enlist other = names.foldl enlist known := by
  induction names generalizing known other with
  | nil => exact hall.eq_of_length_le hother.length_le
  | cons name names ih =>
    obtain ⟨hnext, hlast⟩ := enlist_prefix name hother hall (prefix_foldl_enlist _ names)
    exact ih hnext hlast

end Interrupts

namespace Sample

/-- The number of interrupt rows, where there is a table. -/
def rows? (x : Sample) : Option Nat := x.irq.map (·.counts.length)

/-- The interrupt lines that a sample names. -/
def lineNames (x : Sample) : List String := x.irq.elim [] (·.lines)

end Sample

/-- Samples after which nothing shows that others were scanned before: of every kind of records one
of them has as many, and their first interrupt lines are those of the others. -/
structure Covers (later first : List Sample) : Prop where
  singles : ∀ k, ∀ x ∈ first, ∃ y ∈ later, (x.singles k).length ≤ (y.singles k).length
  multi : ∀ k, ∀ x ∈ first, ∃ y ∈ later, (x.multi k).length ≤ (y.multi k).length
  rows : ∀ n ∈ first.filterMap Sample.rows?, ∃ m ∈ later.filterMap Sample.rows?, n ≤ m
  lines : (first.flatMap Sample.lineNames).eraseDups <+: (later.flatMap Sample.lineNames).eraseDups

theorem Covers.refl (samples : List Sample) : Covers samples samples where
  singles _ x hx := ⟨x, hx, Nat.le_refl _⟩
  multi _ x hx := ⟨x, hx, Nat.le_refl _⟩
  rows n hn := ⟨n, hn, Nat.le_refl n⟩
  lines := List.prefix_rfl

namespace Activities

theorem single_scan (a : Activities) (samples : List Sample) (k : Single) :
    (samples.foldl scan a).single k = { a.single k with
      planned := (samples.map fun x => (x.singles k).length).foldl raised
        (a.single k).planned } := by
  induction samples generalizing a with
  | nil => rfl
  | cons x samples ih =>
    have hscan : (a.scan x).single k = (a.single k).plan (x.singles k).length := by simp [scan]
    rw [List.foldl_cons, ih, hscan]
    rfl

theorem multi_scan (a : Activities) (samples : List Sample) (k : Multi) :
    (samples.foldl scan a).multi k = { a.multi k with
      planned := (samples.map fun x => (x.multi k).length).foldl raised (a.multi k).planned } := by
  induction samples generalizing a with
  | nil => rfl
  | cons x samples ih =>
    have hscan : (a.scan x).multi k = (a.multi k).plan (x.multi k).length := by simp [scan]
    rw [List.foldl_cons, ih, hscan]
    rfl

theorem irq_scan (a : Activities) (samples : List Sample) :
    (samples.foldl scan a).irq = { a.irq with
      planned := (samples.filterMap Sample.rows?).foldl raised a.irq.planned
      lines := (samples.flatMap Sample.lineNames).foldl Interrupts.enlist a.irq.lines } := by
  induction samples generalizing a with
  | nil => rfl
  | cons x samples ih =>
    rw [List.foldl_cons, ih]
    cases hx : x.irq with
    | none => simp [scan, hx, Sample.rows?, Sample.lineNames]
    | some t =>
      simp only [scan, hx, Interrupts.addLines_eq, List.flatMap_cons,
        List.foldl_append, Sample.rows?,
        Sample.lineNames, List.filterMap_cons, Option.map_some, Option.elim_some, List.foldl_cons]
      rfl

end Activities

end ActivityArchive
