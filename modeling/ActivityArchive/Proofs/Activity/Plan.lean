import ActivityArchive.Proofs.Activity.Interrupts
import ActivityArchive.Proofs.Activity.Parts

/-!
What loading a sample does: every kind of records is the one of the sample, in the slot loaded,
while the plans and selections stay as they were.
-/
namespace ActivityArchive

namespace SampleBuffer

variable {R : Type}

theorem length_overwrite (s : Slot) (rs : List R) (cs : List (Pair R)) :
    (overwrite s rs cs).length = cs.length := by
  fun_induction overwrite s rs cs with
  | case1 r rs c cs ih => simp [ih]
  | case2 => rfl

theorem take_overwrite (s : Slot) {rs : List R} {cs : List (Pair R)} (h : rs.length ≤ cs.length) :
    ((overwrite s rs cs).map (·.get s)).take rs.length = rs := by
  fun_induction overwrite s rs cs with
  | case1 r rs c cs ih => simp [ih (by simpa using h)]
  | case2 rs cs hne =>
    cases rs with
    | nil => rfl
    | cons r rs =>
      cases cs with
      | nil => simp at h
      | cons c cs => exact absurd rfl (hne r rs c cs rfl)

theorem elementAt_ok {b : SampleBuffer R} {idx : Nat} (h : idx < b.cells.length) (s : Slot) :
    ∃ r, b.elementAt s idx = .ok r := by
  exact ⟨(b.cells[idx]).get s, by simp [elementAt, h]⟩

theorem length_fill (b : SampleBuffer R) (s : Slot) (rs : List R) :
    (b.fill s rs).cells.length = b.cells.length := length_overwrite s rs b.cells

theorem le_length_observe [Inhabited R] (b : SampleBuffer R) (s : Slot) (count : Nat) :
    b.cells.length ≤ (b.observe s count).cells.length ∧
      count ≤ (b.observe s count).cells.length := by
  have := allocated_ensure b s (max count (b.observed.get s))
  simp only [allocated] at this
  simp only [observe]
  omega

end SampleBuffer

namespace Activity

variable {R : Type} [Inhabited R]

/-- There is a record in both slots for each instance planned for. -/
theorem count_le_prepare (a : Activity R) (s : Slot) :
    a.count ≤ (a.prepare s).buffer.cells.length := by
  exact (SampleBuffer.le_length_observe (a.buffer.observe s a.count) s.other a.count).2

theorem records_load (a : Activity R) (s : Slot) (rs : List R) : (a.load s rs).records s = rs := by
  have hlen : rs.length ≤ ((a.buffer.clear s).ensure s rs.length).cells.length := by
    have := SampleBuffer.allocated_ensure (a.buffer.clear s) s rs.length
    simp only [SampleBuffer.allocated] at this
    omega
  have hobs : ((((a.buffer.clear s).ensure s rs.length).fill s rs).observed.get s) = rs.length := by
    simp [SampleBuffer.fill, SampleBuffer.ensure]
  simp only [records, load, SampleBuffer.load, SampleBuffer.records, SampleBuffer.column]
  rw [hobs]
  exact SampleBuffer.take_overwrite s hlen

end Activity

namespace Activities

variable {a b c : Activities}

/-- The same plans, and interrupts whose grid is still sized. -/
structure Later (a b : Activities) : Prop where
  multi : ∀ k, (b.multi k).planned = (a.multi k).planned ∧
    (b.multi k).selection = (a.multi k).selection
  irq : Interrupts.Later a.irq b.irq

theorem Later.refl (a : Activities) : Later a a := ⟨fun _ => ⟨rfl, rfl⟩, .refl _⟩

theorem Later.trans (h : Later a b) (h' : Later b c) : Later a c where
  multi k := ⟨(h'.multi k).1.trans (h.multi k).1, (h'.multi k).2.trans (h.multi k).2⟩
  irq := h.irq.trans h'.irq

theorem Later.count (h : Later a b) (k : Multi) : (b.multi k).count = (a.multi k).count := by
  rw [Activity.count, Activity.count, (h.multi k).1]

theorem later_load (a : Activities) (s : Slot) (sample : Sample) : Later a (a.load s sample) where
  multi k := by
    simp only [load, Groups.multi_ofFun]
    exact ⟨rfl, rfl⟩
  irq := Interrupts.later_load a.irq s sample.irq

theorem later_of_multi {k : Multi} {x : Activity k.Rec} (hp : x.planned = (a.multi k).planned)
    (hs : x.selection = (a.multi k).selection) : Later a { a with toGroups := a.setMulti k x } where
  multi l := by
    by_cases h : l = k
    · subst h
      simp only [Groups.multi_setMulti]
      exact ⟨hp, hs⟩
    · simp [Groups.multi_setMulti_ne _ h]
  irq := .refl _

theorem single_load (a : Activities) (s : Slot) (sample : Sample) (k : Single) :
    ((a.load s sample).single k).records s = (sample.single k).toList := by
  simp only [load, Groups.single_ofFun]
  exact Activity.records_load _ s _

theorem multi_load (a : Activities) (s : Slot) (sample : Sample) (k : Multi) :
    ((a.load s sample).multi k).records s = sample.multi k := by
  simp only [load, Groups.multi_ofFun]
  exact Activity.records_load _ s _

theorem lt_count_plan {R : Type} (x : Activity R) (count n : Nat) :
    n < (x.plan count).count ↔ n < x.count ∨ n < count := by
  show n < max x.count count ↔ _
  omega

/-- The plan for a kind covers what some sample has. -/
theorem lt_count_scan (a : Activities) (samples : List Sample) (k : Multi) (n : Nat) :
    n < ((samples.foldl scan a).multi k).count ↔
      n < (a.multi k).count ∨ ∃ x ∈ samples, n < (x.multi k).length := by
  induction samples generalizing a with
  | nil => simp
  | cons x samples ih =>
    have hscan : (a.scan x).multi k = (a.multi k).plan (x.multi k).length := by simp [scan]
    rw [List.foldl_cons, ih, hscan, lt_count_plan]
    simp [or_assoc]

theorem lt_count_scan_single (a : Activities) (samples : List Sample) (k : Single) (n : Nat) :
    n < ((samples.foldl scan a).single k).count ↔
      n < (a.single k).count ∨ ∃ x ∈ samples, n < (x.singles k).length := by
  induction samples generalizing a with
  | nil => simp
  | cons x samples ih =>
    have hscan : (a.scan x).single k = (a.single k).plan (x.singles k).length := by simp [scan]
    rw [List.foldl_cons, ih, hscan, lt_count_plan]
    simp [or_assoc]

theorem header_scan (a : Activities) (samples : List Sample) :
    (samples.foldl scan a).header = a.header := by
  induction samples generalizing a with
  | nil => rfl
  | cons x samples ih => rw [List.foldl_cons, ih, scan]

theorem sized_scan (a : Activities) (samples : List Sample) (h : a.irq.grid.Sized) :
    (samples.foldl scan a).irq.grid.Sized := by
  induction samples generalizing a with
  | nil => exact h
  | cons x samples ih =>
    refine ih _ ?_
    simp only [scan]
    split
    · exact (Interrupts.later_addLines _ _).sized h
    · exact h

end Activities

end ActivityArchive
