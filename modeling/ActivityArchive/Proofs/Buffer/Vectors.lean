import ActivityArchive.Buffer.Vectors
import ActivityArchive.Proofs.Buffer.Calls

/-!
A buffer of two vectors holds, slot by slot, what a buffer of pairs holds (`Mirrors`). Nothing in
the vectors keeps them of one length; every call does, whatever it grows, lowers or writes over
(`Mirrors.call`). So after any calls both vectors are as long as the count says, no slice reaches
past their ends, and they read as a plain map from slots and positions (`vectors_read_as_map`).
-/
namespace ActivityArchive.SlotVectors

open SampleBuffer (Call Plain)

variable {R : Type}

/-- Two vectors with the records that a buffer holds in pairs, and the same counts. -/
structure Mirrors (v : SlotVectors R) (b : SampleBuffer R) : Prop where
  slots : ∀ s, v.slots.get s = b.column s
  allocated : v.allocated = b.allocated
  observed : v.observed = b.observed

theorem slice?_of_le {count : Nat} {rs : List R} (h : count ≤ rs.length) :
    slice? count rs = some (rs.take count) := if_pos h

theorem mirrors_empty : Mirrors (empty : SlotVectors R) SampleBuffer.empty where
  slots s := Pair.get_both [] s
  allocated := rfl
  observed := rfl

section Mirroring

variable {v : SlotVectors R} {b : SampleBuffer R}

/-- One slot is set in both, and the other one is kept. -/
theorem slots_of_set {b' : SampleBuffer R} {s : Slot} {rs : List R} (h : v.Mirrors b)
    (hsame : b'.column s = rs) (hother : b'.column s.other = b.column s.other) (t : Slot) :
    (v.slots.set s rs).get t = b'.column t := by
  rcases s.eq_or_other t with rfl | rfl
  · rw [Pair.get_set_same, hsame]
  · rw [Pair.get_set_other, hother, h.slots]

theorem Mirrors.length_slot (h : v.Mirrors b) (s : Slot) :
    (v.slots.get s).length = v.allocated := by
  rw [h.slots, SampleBuffer.length_column, h.allocated]

theorem Mirrors.elementAt (h : v.Mirrors b) (s : Slot) (i : Nat) :
    v.elementAt s i = b.elementAt s i := by
  rw [SlotVectors.elementAt, SampleBuffer.elementAt, h.slots, h.allocated, SampleBuffer.column,
    List.getElem?_map]
  cases b.cells[i]? <;> rfl

theorem Mirrors.records? (h : v.Mirrors b) (hroomy : b.Roomy) (s : Slot) :
    v.records? s = some (b.records s) := by
  have hroom : v.observed.get s ≤ (v.slots.get s).length := by
    rw [h.length_slot, h.allocated, h.observed]
    exact hroomy s
  rw [SlotVectors.records?, slice?_of_le hroom, h.slots, h.observed]
  rfl

/-- Nothing in the type keeps both vectors as long as the count says. -/
example : (⟨⟨[7], []⟩, 1, .both 1⟩ : SlotVectors Nat).records? .prev = none := by decide

theorem Mirrors.rewrite (h : v.Mirrors b) (s : Slot) (rs : List R) :
    (v.rewrite s rs).Mirrors (b.fill s rs) where
  slots := by
    refine slots_of_set h ?_ (SampleBuffer.column_fill_other b s rs)
    rw [overlay, h.slots, SampleBuffer.length_column]
    exact SampleBuffer.column_overwrite s rs b.cells
  allocated := h.allocated.trans (SampleBuffer.allocated_fill b s rs).symm
  observed := h.observed

theorem Mirrors.copy (h : v.Mirrors b) (s : Slot) : (v.copy s).Mirrors (b.copy s) where
  slots := by
    refine slots_of_set h ?_ ?_
    · rw [h.slots]
      simp [SampleBuffer.column, SampleBuffer.copy]
    · simp [SampleBuffer.column, SampleBuffer.copy]
  allocated := h.allocated.trans (List.length_map _).symm
  observed := by rw [SlotVectors.copy, SampleBuffer.copy, h.observed]

variable [Inhabited R]

/-- Where there is room already, nothing is added. -/
theorem Mirrors.grow (h : v.Mirrors b) (count : Nat) (t s : Slot) :
    (v.grow count).slots.get t = (b.ensure s count).column t ∧
      (v.grow count).allocated = max b.allocated count := by
  have hcolumn : (b.ensure s count).column t =
      b.column t ++ List.replicate (count - b.allocated) default :=
    SampleBuffer.column_ensure b t count
  have hlen : (b.column t).length = b.allocated := SampleBuffer.length_column b t
  rw [hcolumn, SlotVectors.grow]
  split
  · rename_i hlt
    rw [h.allocated] at hlt
    refine ⟨?_, (Nat.max_eq_right (Nat.le_of_lt hlt)).symm⟩
    have hslot : (⟨resize count v.slots.curr, resize count v.slots.prev⟩ : Pair _).get t =
        resize count (v.slots.get t) := by cases t <;> rfl
    rw [hslot, h.slots, resize, hlen, List.take_of_length_le (by omega)]
  · rename_i hle
    rw [h.allocated] at hle
    refine ⟨?_, h.allocated.trans (Nat.max_eq_left (Nat.le_of_not_lt hle)).symm⟩
    rw [Nat.sub_eq_zero_of_le (Nat.le_of_not_lt hle), List.replicate_zero, List.append_nil, h.slots]

theorem observed_grow (v : SlotVectors R) (count : Nat) : (v.grow count).observed = v.observed := by
  rw [grow]
  split <;> rfl

theorem Mirrors.ensure (h : v.Mirrors b) (s : Slot) (count : Nat) :
    (v.ensure s count).Mirrors (b.ensure s count) where
  slots t := (h.grow count t s).1
  allocated := (h.grow count s s).2.trans (SampleBuffer.allocated_ensure b s count).symm
  observed := by
    show ((v.grow count).observed.set s count) = _
    rw [observed_grow, h.observed]
    rfl

theorem Mirrors.observe (h : v.Mirrors b) (s : Slot) (count : Nat) :
    (v.observe s count).Mirrors (b.observe s count) := by
  rw [SlotVectors.observe, SampleBuffer.observe, h.observed]
  exact h.ensure s _

/-- The slot has room for all records by the time they are cloned into it. -/
theorem Mirrors.load? (h : v.Mirrors b) (s : Slot) (rs : List R) :
    ∃ v', v.load? s rs = some v' ∧ v'.Mirrors (b.load s rs) := by
  have hensure := h.ensure s rs.length
  have hroom : rs.length ≤ ((v.ensure s rs.length).slots.get s).length := by
    rw [hensure.length_slot, hensure.allocated, SampleBuffer.allocated_ensure]
    exact Nat.le_max_right _ _
  exact ⟨_, by rw [SlotVectors.load?, slice?_of_le hroom, Option.map_some],
    hensure.rewrite s rs⟩

theorem Mirrors.clear (h : v.Mirrors b) (s : Slot) : (v.clear s).Mirrors (b.clear s) where
  slots := by
    refine slots_of_set h ?_ (SampleBuffer.column_clear_other b s)
    rw [h.slots, SampleBuffer.length_column, SampleBuffer.column_clear]
  allocated := h.allocated.trans (List.length_map _).symm
  observed := by rw [SlotVectors.clear, SampleBuffer.clear, h.observed]

end Mirroring

section Calls

variable [Inhabited R]

/-- What a call leaves behind; a write that is refused leaves everything as it is. -/
def call? (v : SlotVectors R) : Call R → Option (SlotVectors R)
  | .ensure s count => some (v.ensure s count)
  | .observe s count => some (v.observe s count)
  | .load s rs => v.load? s rs
  | .write s idx r =>
    match v.setAt s idx r with
    | .ok v' => some v'
    | .error _ => some v
  | .rewrite s rs => some (v.rewrite s rs)
  | .copy source => some (v.copy source)
  | .clear s => some (v.clear s)

/-- The vectors after some calls on new ones. -/
def after? (calls : List (Call R)) : Option (SlotVectors R) := calls.foldlM call? empty

variable {v : SlotVectors R} {b : SampleBuffer R}

theorem Mirrors.write (h : v.Mirrors b) (s : Slot) (i : Nat) (r : R) :
    ∃ v', v.call? (.write s i r) = some v' ∧ v'.Mirrors (b.call (.write s i r)) := by
  have hlen : (v.slots.get s).length = b.allocated := h.length_slot s |>.trans h.allocated
  rw [call?, setAt, hlen]
  rcases SampleBuffer.setAt_cases b s i r with ⟨hi, hcall⟩ | ⟨hi, hcall⟩ <;> rw [hcall]
  · rw [if_pos hi]
    refine ⟨_, rfl, slots_of_set h ?_ (SampleBuffer.column_modifyAt_other b s i _),
      ?_, h.observed⟩
    · rw [SampleBuffer.column_modifyAt, h.slots]
      exact List.ext_getElem? fun j => by rw [List.getElem?_modify, List.getElem?_set]; grind
    · exact h.allocated.trans (List.length_modify _ _ _).symm
  · rw [if_neg hi]
    exact ⟨v, rfl, h⟩

/-- No call fails, and what it does to the vectors it does to the pairs. -/
theorem Mirrors.call (h : v.Mirrors b) (c : Call R) :
    ∃ v', v.call? c = some v' ∧ v'.Mirrors (b.call c) := by
  cases c with
  | ensure s count => exact ⟨_, rfl, h.ensure s count⟩
  | observe s count => exact ⟨_, rfl, h.observe s count⟩
  | load s rs => exact h.load? s rs
  | write s i r => exact h.write s i r
  | rewrite s rs => exact ⟨_, rfl, h.rewrite s rs⟩
  | copy s => exact ⟨_, rfl, h.copy s⟩
  | clear s => exact ⟨_, rfl, h.clear s⟩

theorem Mirrors.run (h : v.Mirrors b) (calls : List (Call R)) :
    ∃ v', calls.foldlM call? v = some v' ∧ v'.Mirrors (calls.foldl SampleBuffer.call b) := by
  induction calls generalizing v b with
  | nil => exact ⟨v, rfl, h⟩
  | cons c calls ih =>
    obtain ⟨w, hw, hmirrors⟩ := h.call c
    obtain ⟨v', hv', hrun⟩ := ih hmirrors
    exact ⟨v', by rw [List.foldlM_cons, hw]; exact hv', hrun⟩

theorem mirrors_after (calls : List (Call R)) :
    ∃ v, after? calls = some v ∧ v.Mirrors (SampleBuffer.after calls) := mirrors_empty.run calls

/-- Any calls on new vectors go through. After them both vectors have as many records as are
allocated, which is the most that was ever asked for, and observe no more; below that every record
can be read and is the one of the map, and what is observed can be taken as a slice. They hold what
a buffer of pairs does. -/
theorem vectors_read_as_map (calls : List (Call R)) :
    ∃ v, after? calls = some v ∧ v.Mirrors (SampleBuffer.after calls) ∧
      (∀ s, (v.slots.get s).length = v.allocated ∧ v.observed.get s ≤ v.allocated) ∧
      v.allocated = (calls.map Call.asked).foldl max 0 ∧
      (∀ s i, v.elementAt s i =
        if i < v.allocated then .ok ((Plain.after calls).records s i)
        else .error (.indexOutOfBounds i v.allocated)) ∧
      ∀ s, v.records? s =
        some ((List.range (v.observed.get s)).map ((Plain.after calls).records s)) := by
  obtain ⟨v, hv, h⟩ := mirrors_after calls
  have hroomy : (SampleBuffer.after calls).Roomy := (SampleBuffer.plain_after calls).1
  refine ⟨v, hv, h, fun s => ⟨h.length_slot s, ?_⟩, ?_, fun s i => ?_, fun s => ?_⟩
  · rw [h.allocated, h.observed]
    exact hroomy s
  · rw [h.allocated, SampleBuffer.allocated_after]
  · rw [h.elementAt, h.allocated, SampleBuffer.elementAt_after]
  · rw [h.observed, ← SampleBuffer.records_after]
    exact h.records? hroomy s

end Calls

end ActivityArchive.SlotVectors
