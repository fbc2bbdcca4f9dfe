import ActivityArchive.Proofs.Activity.Building
import ActivityArchive.Proofs.Buffer.Accesses
import ActivityArchive.Proofs.Buffer.Clamping

/-!
Buffers under any calls. A buffer reads as a plain map from slots and positions to records, blank
where nothing was written: to make room moves no record, and what a call writes is seen there and
nowhere else (`plain_after`).
-/
namespace ActivityArchive

/-- A record for every slot and key. -/
abbrev RecordMap (K R : Type) := Slot → K → R

namespace RecordMap

variable {K R : Type} {m m' : RecordMap K R} {s : Slot} {f : K → Option R}

/-- Takes the records that `f` gives into a slot. -/
def write (m : RecordMap K R) (s : Slot) (f : K → Option R) : RecordMap K R :=
  fun t k => if t = s then (f k).getD (m t k) else m t k

/-- Takes the records of a slot into the other one. -/
def copy (m : RecordMap K R) (source : Slot) : RecordMap K R := fun _ => m source

def clear [Inhabited R] (m : RecordMap K R) (s : Slot) : RecordMap K R :=
  m.write s fun _ => some default

theorem eq_write (hsame : ∀ k, m' s k = (f k).getD (m s k))
    (hother : ∀ k, m' s.other k = m s.other k) : m' = m.write s f := by
  funext t k
  rcases s.eq_or_other t with rfl | rfl
  · rw [write, if_pos rfl, hsame]
  · have hne : s.other ≠ s := by cases s <;> simp [Slot.other]
    rw [write, if_neg hne, hother]

end RecordMap

namespace SampleBuffer

variable {R : Type}

inductive Call (R : Type)
  | ensure (s : Slot) (count : Nat)
  | observe (s : Slot) (count : Nat)
  | load (s : Slot) (rs : List R)
  | write (s : Slot) (idx : Nat) (r : R)
  /-- Writes over all records that a slot has room for, from the first one on. -/
  | rewrite (s : Slot) (rs : List R)
  | copy (source : Slot)
  | clear (s : Slot)

/-- How many records a call asks room for. -/
def Call.asked : Call R → Nat
  | .ensure _ count | .observe _ count => count
  | .load _ rs => rs.length
  | _ => 0

variable [Inhabited R]

def call (b : SampleBuffer R) : Call R → SampleBuffer R
  | .ensure s count => b.ensure s count
  | .observe s count => b.observe s count
  | .load s rs => b.load s rs
  | .write s idx r =>
    match b.setAt s idx r with
    | .ok b' => b'
    | .error _ => b
  | .rewrite s rs => b.fill s rs
  | .copy source => b.copy source
  | .clear s => b.clear s

/-- The buffer after some calls on a new one. -/
def after (calls : List (Call R)) : SampleBuffer R := calls.foldl call empty

/-- A map of records, and how many of them can be asked for. -/
@[ext]
structure Plain (R : Type) where
  room : Nat
  records : RecordMap Nat R

namespace Plain

def empty : Plain R := ⟨0, fun _ _ => default⟩

def call (p : Plain R) (c : Call R) : Plain R where
  room := max p.room c.asked
  records := match c with
    | .ensure .. | .observe .. => p.records
    | .load s rs => p.records.write s fun i => rs[i]?
    | .write s idx r => p.records.write s fun i => if i = idx ∧ idx < p.room then some r else none
    | .rewrite s rs => p.records.write s fun i => if i < p.room then rs[i]? else none
    | .copy source => p.records.copy source
    | .clear s => p.records.clear s

/-- The map after some calls on a blank one. -/
def after (calls : List (Call R)) : Plain R := calls.foldl call empty

theorem room_after (calls : List (Call R)) :
    (after calls).room = (calls.map Call.asked).foldl max 0 := by
  rw [List.foldl_map, after]
  exact (List.foldl_hom room (fun _ _ => rfl)).symm

end Plain

section Records

variable {b : SampleBuffer R} {s : Slot}

/-- What a buffer has room for, and its records. -/
def plain (b : SampleBuffer R) : Plain R := ⟨b.allocated, b.recordAt⟩

theorem recordAt_of_allocated_le {i : Nat} (h : b.allocated ≤ i) (s : Slot) :
    b.recordAt s i = default := getD_of_le ((b.length_column s).symm ▸ h)

theorem plain_ensure (b : SampleBuffer R) (s : Slot) (count : Nat) :
    (b.ensure s count).plain = ⟨max b.allocated count, b.recordAt⟩ :=
  Plain.ext (allocated_ensure b s count)
    (funext fun t => funext fun i => recordAt_ensure b s t count i)

/-- Records for which there is no room are not written. -/
theorem recordAt_fill_eq (b : SampleBuffer R) (s : Slot) (rs : List R) (i : Nat) :
    (b.fill s rs).recordAt s i =
      (if i < b.allocated then rs[i]? else none).getD (b.recordAt s i) := by
  by_cases hi : i < b.allocated
  · have hcol : (b.fill s rs).column s = rs.take b.allocated ++ (b.column s).drop rs.length :=
      column_overwrite s rs b.cells
    simp only [if_pos hi, recordAt, hcol, List.getD_eq_getElem?_getD, List.getElem?_append,
      List.length_take]
    by_cases hrs : i < rs.length
    · rw [if_pos (Nat.lt_min.mpr ⟨hi, hrs⟩), List.getElem?_take_of_lt hi,
        List.getElem?_eq_getElem hrs]
      rfl
    · have hlen : min b.allocated rs.length = rs.length := by omega
      rw [hlen, if_neg hrs, List.getElem?_drop, Nat.add_sub_cancel' (Nat.le_of_not_lt hrs),
        List.getElem?_eq_none (Nat.le_of_not_lt hrs), Option.getD_none]
  · have hi := Nat.le_of_not_lt hi
    rw [if_neg (Nat.not_lt.mpr hi), recordAt_of_allocated_le hi, Option.getD_none,
      recordAt_of_allocated_le ((allocated_fill b s rs).symm ▸ hi)]

theorem plain_fill (b : SampleBuffer R) (s : Slot) (rs : List R) :
    (b.fill s rs).plain =
      ⟨b.allocated, b.plain.records.write s fun i => if i < b.allocated then rs[i]?
        else none⟩ :=
  Plain.ext (allocated_fill b s rs) (RecordMap.eq_write (recordAt_fill_eq b s rs)
    fun i => congrArg (·.getD i default) (column_fill_other b s rs))

/-- A sample has room for all of its records. -/
theorem plain_load (b : SampleBuffer R) (s : Slot) (rs : List R) :
    (b.load s rs).plain = ⟨max b.allocated rs.length,
      b.plain.records.write s fun i => rs[i]?⟩ := by
  have hroom : (b.ensure s rs.length).allocated = max b.allocated rs.length :=
    congrArg Plain.room (plain_ensure b s rs.length)
  have hrecords : (b.ensure s rs.length).plain.records = b.recordAt :=
    congrArg Plain.records (plain_ensure b s rs.length)
  have hall : (fun i => if i < max b.allocated rs.length then rs[i]? else none) =
      fun i => rs[i]? := by
    funext i
    split
    · rfl
    · exact (List.getElem?_eq_none (by omega)).symm
  refine (plain_fill (b.ensure s rs.length) s rs).trans ?_
  rw [hroom, hrecords, hall]
  rfl

theorem plain_modifyAt {i : Nat} (hi : i < b.allocated) (s : Slot) (r : R) :
    (b.modifyAt s i fun _ => r).plain =
      ⟨b.allocated, b.plain.records.write s fun j => if j = i then some r else none⟩ := by
  refine Plain.ext (List.length_modify _ _ _) (RecordMap.eq_write (fun j => ?_) fun j => ?_)
  · refine (recordAt_modifyAt hi s _ j).trans ?_
    by_cases hj : j = i <;> simp [hj, plain]
  · exact congrArg (·.getD j default) (column_modifyAt_other b s i fun _ => r)

theorem plain_copy (b : SampleBuffer R) (s : Slot) :
    (b.copy s).plain = ⟨b.allocated, b.plain.records.copy s⟩ := by
  have hcol : ∀ t, (b.copy s).column t = b.column s := fun t => by
    rcases s.eq_or_other t with rfl | rfl <;> simp [column, copy]
  exact Plain.ext (List.length_map _)
    (funext fun t => funext fun i => congrArg (·.getD i default) (hcol t))

theorem plain_clear (b : SampleBuffer R) (s : Slot) :
    (b.clear s).plain = ⟨b.allocated, b.plain.records.clear s⟩ :=
  Plain.ext (List.length_map _) (RecordMap.eq_write (recordAt_clear b s)
    fun i => congrArg (·.getD i default) (column_clear_other b s))

end Records

variable {b : SampleBuffer R}

theorem setAt_cases (b : SampleBuffer R) (s : Slot) (i : Nat) (r : R) :
    (i < b.allocated ∧ b.call (.write s i r) = b.modifyAt s i fun _ => r) ∨
      (¬ i < b.allocated ∧ b.call (.write s i r) = b) := by
  by_cases hi : i < b.allocated
  · exact Or.inl ⟨hi, by simp only [call, setAt, if_pos hi]⟩
  · exact Or.inr ⟨hi, by simp only [call, setAt, if_neg hi]⟩

theorem Roomy.call (h : b.Roomy) (c : Call R) : (b.call c).Roomy := by
  cases c with
  | ensure s count => exact h.ensure s count
  | observe s count => exact h.observe s count
  | load s rs => exact (h.ensure s rs.length).fill s rs
  | write s idx r =>
    rcases setAt_cases b s idx r with ⟨-, hcall⟩ | ⟨-, hcall⟩ <;> rw [hcall]
    · have hroom : (b.modifyAt s idx fun _ => r).allocated = b.allocated :=
        List.length_modify _ _ _
      exact fun t => hroom.symm ▸ h t
    · exact h
  | rewrite s rs => exact h.fill s rs
  | copy s =>
    have hroom : (b.copy s).allocated = b.allocated := List.length_map _
    exact fun t => hroom.symm ▸ get_set_le s.other t (h t) (h s)
  | clear s => exact h.clear s

/-- What a call does to a buffer it does to the map. -/
theorem Roomy.plain_call (h : b.Roomy) (c : Call R) : (b.call c).plain = b.plain.call c := by
  have hroom : max b.allocated 0 = b.allocated := Nat.max_zero _
  cases c with
  | ensure s count => exact plain_ensure b s count
  | observe s count =>
    have hobserved : b.observed.get s ≤ b.allocated := h s
    have hmax : max b.allocated (max count (b.observed.get s)) = max b.allocated count := by omega
    refine (plain_ensure b s _).trans ?_
    rw [hmax]
    rfl
  | load s rs => exact plain_load b s rs
  | write s idx r =>
    rcases setAt_cases b s idx r with ⟨hidx, hcall⟩ | ⟨hidx, hcall⟩ <;> rw [hcall]
    · rw [plain_modifyAt hidx]
      simp only [Plain.call, Call.asked, plain, hroom, hidx, and_true]
    · refine Plain.ext hroom.symm (RecordMap.eq_write (fun i => ?_) fun _ => rfl)
      rw [if_neg fun hi => hidx hi.2]
      rfl
  | rewrite s rs => exact (plain_fill b s rs).trans (Plain.ext hroom.symm rfl)
  | copy s => exact (plain_copy b s).trans (Plain.ext hroom.symm rfl)
  | clear s => exact (plain_clear b s).trans (Plain.ext hroom.symm rfl)

theorem plain_after (calls : List (Call R)) :
    (after calls).Roomy ∧ (after calls).plain = .after calls := by
  have hempty : (empty : SampleBuffer R).plain = .empty := rfl
  refine foldl_related (R := fun (b : SampleBuffer R) p => b.Roomy ∧ b.plain = p)
    ⟨roomy_empty, hempty⟩ ?_
  rintro c - b p ⟨hroomy, rfl⟩
  exact ⟨hroomy.call c, hroomy.plain_call c⟩

theorem allocated_after (calls : List (Call R)) :
    (after calls).allocated = (calls.map Call.asked).foldl max 0 :=
  (congrArg Plain.room (plain_after calls).2).trans (Plain.room_after calls)

/-- A record that there is room for can be read, and is the one of the map. -/
theorem elementAt_after (calls : List (Call R)) (s : Slot) (i : Nat) :
    (after calls).elementAt s i =
      if i < (after calls).allocated then .ok ((Plain.after calls).records s i)
      else .error (.indexOutOfBounds i (after calls).allocated) := by
  split
  · rename_i hi
    rw [elementAt_eq hi, ← (plain_after calls).2]
    rfl
  · rename_i hi
    have hnone : (after calls).cells[i]? = none := List.getElem?_eq_none (Nat.le_of_not_lt hi)
    rw [elementAt, hnone]

theorem records_after (calls : List (Call R)) (s : Slot) :
    (after calls).records s =
      (List.range ((after calls).observed.get s)).map ((Plain.after calls).records s) := by
  obtain ⟨hroomy, hplain⟩ := plain_after calls
  rw [records_eq_map (hroomy s), ← hplain]
  rfl

end SampleBuffer

end ActivityArchive
