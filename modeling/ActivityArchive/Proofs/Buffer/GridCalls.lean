import ActivityArchive.Proofs.Buffer.Calls

/-!
Grids under any calls. A grid reads as a plain map from slots, rows and lines to records: to lay the
rows out anew, however rows and lines grow, moves no record away from its row and line
(`grid_reads_as_map`).
-/
namespace ActivityArchive.GridBuffer

variable {R : Type}

inductive Call (R : Type)
  | ensure (s : Slot) (cpus lines : Nat)
  | observe (s : Slot) (cpus lines : Nat)
  | write (s : Slot) (cpu line : Nat) (r : R)
  /-- Writes over a row, from its first line on. -/
  | writeRow (s : Slot) (cpu : Nat) (rs : List R)
  | copy (source : Slot)
  | clear (s : Slot)

/-- How many rows and lines a call asks room for. -/
def Call.asked : Call R → Nat × Nat
  | .ensure _ cpus lines | .observe _ cpus lines => (cpus, lines)
  | _ => (0, 0)

/-- The records of a slot, row after row. -/
def column (g : GridBuffer R) (s : Slot) : List R := g.cells.map (·.get s)

variable [Inhabited R]

def call (g : GridBuffer R) : Call R → GridBuffer R
  | .ensure s cpus lines => g.ensure s cpus lines
  | .observe s cpus lines => g.observe s cpus lines
  | .write s cpu line r =>
    match g.setAt s cpu line r with
    | .ok g' => g'
    | .error _ => g
  | .writeRow s cpu rs => g.setRow s cpu rs
  | .copy source => g.copy source
  | .clear s => g.clear s

/-- The grid after some calls on a new one. -/
def after (calls : List (Call R)) : GridBuffer R := calls.foldl call empty

/-- A map of records by row and line, and how many rows and lines can be asked for. -/
@[ext]
structure Plain (R : Type) where
  cpus : Nat
  lines : Nat
  records : RecordMap (Nat × Nat) R

namespace Plain

def empty : Plain R := ⟨0, 0, fun _ _ => default⟩

def call (p : Plain R) (c : Call R) : Plain R where
  cpus := max p.cpus c.asked.1
  lines := max p.lines c.asked.2
  records := match c with
    | .ensure .. | .observe .. => p.records
    | .write s cpu line r => p.records.write s fun k =>
      if k = (cpu, line) ∧ cpu < p.cpus ∧ line < p.lines then some r else none
    | .writeRow s cpu rs => p.records.write s fun k =>
      if k.1 = cpu ∧ cpu < p.cpus ∧ k.2 < p.lines then rs[k.2]? else none
    | .copy source => p.records.copy source
    | .clear s => p.records.clear s

/-- The map after some calls on a blank one. -/
def after (calls : List (Call R)) : Plain R := calls.foldl call empty

theorem cpus_after (calls : List (Call R)) :
    (after calls).cpus = (calls.map (·.asked.1)).foldl max 0 := by
  rw [List.foldl_map, after]
  exact (List.foldl_hom cpus (fun _ _ => rfl)).symm

theorem lines_after (calls : List (Call R)) :
    (after calls).lines = (calls.map (·.asked.2)).foldl max 0 := by
  rw [List.foldl_map, after]
  exact (List.foldl_hom lines (fun _ _ => rfl)).symm

end Plain

variable {g : GridBuffer R} {s : Slot} {cpu line : Nat}

/-- How large a grid is, and its records. -/
def plain (g : GridBuffer R) : Plain R := ⟨g.cpus, g.lines, fun s k => g.recordAt s k.1 k.2⟩

theorem Sized.plain_observe (h : g.Sized) (s : Slot) (cpus lines : Nat) :
    (g.observe s cpus lines).plain = ⟨max g.cpus cpus, max g.lines lines, g.plain.records⟩ :=
  Plain.ext rfl rfl (funext fun t => funext fun k => recordAt_observe h s t cpus lines k.1 k.2)

theorem Sized.plain_setRow (h : g.Sized) (s : Slot) (cpu : Nat) (rs : List R) :
    (g.setRow s cpu rs).plain = ⟨g.cpus, g.lines, g.plain.records.write s fun k =>
      if k.1 = cpu ∧ cpu < g.cpus ∧ k.2 < g.lines then rs[k.2]? else none⟩ :=
  Plain.ext rfl rfl (RecordMap.eq_write (fun k => recordAt_setRow_eq h s cpu rs k.1 k.2)
    fun k => recordAt_setRow_other g s cpu rs k.1 k.2)

theorem recordAt_copy (g : GridBuffer R) (s t : Slot) (cpu line : Nat) :
    (g.copy s).recordAt t cpu line = g.recordAt s cpu line := by
  have hlines : (g.copy s).lines = g.lines := rfl
  have hcol : (g.copy s).column t = g.column s := by
    rcases s.eq_or_other t with rfl | rfl <;> simp [column, copy]
  exact recordAt_congr hlines hcol cpu line

theorem plain_copy (g : GridBuffer R) (s : Slot) :
    (g.copy s).plain = ⟨g.cpus, g.lines, g.plain.records.copy s⟩ :=
  Plain.ext rfl rfl (funext fun t => funext fun k => recordAt_copy g s t k.1 k.2)

theorem plain_clear (g : GridBuffer R) (s : Slot) :
    (g.clear s).plain = ⟨g.cpus, g.lines, g.plain.records.clear s⟩ :=
  Plain.ext rfl rfl (RecordMap.eq_write (fun k => recordAt_clear g s k.1 k.2)
    fun k => recordAt_clear_other g s k.1 k.2)

omit [Inhabited R] in
theorem Sized.copy (h : g.Sized) (s : Slot) : (g.copy s).Sized where
  cells := (List.length_map _).trans h.cells
  observed t := fst_get_set_le s.other t h.observed (Nat.le_refl _) (h.observed s)

theorem Sized.ensure (h : g.Sized) (s : Slot) (cpus lines : Nat) :
    (g.ensure s cpus lines).Sized where
  cells := cells_ensure h s cpus lines
  observed t := fst_get_set_le s t h.observed (Nat.le_max_left _ _) (Nat.le_max_right _ _)

/-- A write to a cell is done, or there is no such cell. -/
theorem write_cases (g : GridBuffer R) (s : Slot) (cpu line : Nat) (r : R) :
    ((cpu < g.cpus ∧ line < g.lines) ∧
      g.setAt s cpu line r = .ok (g.call (.write s cpu line r)) ∧
        (g.call (.write s cpu line r)).cpus = g.cpus ∧
        (g.call (.write s cpu line r)).lines = g.lines) ∨
      (¬ (cpu < g.cpus ∧ line < g.lines) ∧ g.call (.write s cpu line r) = g) := by
  by_cases hin : cpu < g.cpus ∧ line < g.lines
  · obtain ⟨g', hset, hcpus, hlines, -⟩ := setAt_ok hin.1 hin.2 s r
    have hcall : g.call (.write s cpu line r) = g' := by rw [call, hset]
    rw [hcall]
    exact Or.inl ⟨hin, hset, hcpus, hlines⟩
  · refine Or.inr ⟨hin, ?_⟩
    rw [call, setAt, offset?, if_neg hin]
    rfl

theorem Sized.call (h : g.Sized) (c : Call R) : (g.call c).Sized := by
  cases c with
  | ensure s cpus lines => exact h.ensure s cpus lines
  | observe s cpus lines => exact sized_observe h s cpus lines
  | write s cpu line r =>
    rcases write_cases g s cpu line r with ⟨-, hset, -⟩ | ⟨-, hcall⟩
    · exact sized_of_setAt h hset
    · exact hcall.symm ▸ h
  | writeRow s cpu rs => exact sized_setRow h s cpu rs
  | copy s => exact h.copy s
  | clear s => exact sized_clear h s

/-- What a call does to a grid it does to the map. -/
theorem Sized.plain_call (h : g.Sized) (c : Call R) : (g.call c).plain = g.plain.call c := by
  have hcpus : max g.cpus 0 = g.cpus := Nat.max_zero _
  have hlines : max g.lines 0 = g.lines := Nat.max_zero _
  cases c with
  | ensure s cpus lines => exact h.plain_observe s cpus lines
  | observe s cpus lines => exact h.plain_observe s cpus lines
  | write s cpu line r =>
    rcases write_cases g s cpu line r with ⟨hin, hset, hcpus', hlines'⟩ | ⟨hout, hcall⟩
    · refine Plain.ext (hcpus'.trans hcpus.symm) (hlines'.trans hlines.symm)
        (RecordMap.eq_write (fun k => ?_) fun k => recordAt_setAt_other hset k.1 k.2)
      refine (recordAt_setAt h hset k.1 k.2).trans ?_
      by_cases hk : k = (cpu, line)
      · subst hk
        simp [plain, hin]
      · have hk' : ¬ (k.1 = cpu ∧ k.2 = line) := fun hk' => hk (Prod.ext hk'.1 hk'.2)
        simp [plain, hk, hk']
    · rw [hcall]
      refine Plain.ext hcpus.symm hlines.symm (RecordMap.eq_write (fun k => ?_) fun _ => rfl)
      rw [if_neg fun hk => hout hk.2]
      rfl
  | writeRow s cpu rs =>
    exact (h.plain_setRow s cpu rs).trans (Plain.ext hcpus.symm hlines.symm rfl)
  | copy s => exact (plain_copy g s).trans (Plain.ext hcpus.symm hlines.symm rfl)
  | clear s => exact (plain_clear g s).trans (Plain.ext hcpus.symm hlines.symm rfl)

theorem plain_after (calls : List (Call R)) :
    (after calls).Sized ∧ (after calls).plain = .after calls := by
  have hempty : (empty : GridBuffer R).plain = .empty := by
    refine Plain.ext rfl rfl (funext fun s => funext fun k => ?_)
    exact recordAt_of_lines_le (g := empty) (Nat.zero_le k.2) s k.1
  refine foldl_related (R := fun (g : GridBuffer R) p => g.Sized ∧ g.plain = p)
    ⟨sized_empty, hempty⟩ ?_
  rintro c - g p ⟨hsized, rfl⟩
  exact ⟨hsized.call c, hsized.plain_call c⟩

/-- After any calls on a new grid both slots have a record for each row and line, which are as many
as were ever asked for. The cells of these rows and lines can be read, no others, and have the
records of the map. -/
theorem grid_reads_as_map (calls : List (Call R)) :
    (∀ s, ((after calls).column s).length = (after calls).cpus * (after calls).lines) ∧
    (after calls).cpus = (calls.map (·.asked.1)).foldl max 0 ∧
    (after calls).lines = (calls.map (·.asked.2)).foldl max 0 ∧
    ∀ s cpu line, (after calls).elementAt s cpu line =
      if cpu < (after calls).cpus ∧ line < (after calls).lines then
        .ok ((Plain.after calls).records s (cpu, line))
      else .error (.indexOutOfBounds (cpu * (after calls).lines + line)
        ((after calls).cpus * (after calls).lines)) := by
  obtain ⟨hsized, hplain⟩ := plain_after calls
  have hcpus := congrArg Plain.cpus hplain
  have hlines := congrArg Plain.lines hplain
  have hrecords := congrArg Plain.records hplain
  refine ⟨fun s => (List.length_map _).trans hsized.cells, hcpus.trans (Plain.cpus_after calls),
    hlines.trans (Plain.lines_after calls), fun s cpu line => ?_⟩
  rw [← hrecords]
  exact hsized.elementAt_eq s cpu line

/-- A line more for one slot moves the second row of the other. -/
example :
    let g := after (R := Nat) [.ensure .curr 2 2, .write .curr 1 0 7, .observe .prev 1 3]
    g.column .curr = [0, 0, 0, 7, 0, 0] ∧ g.recordAt .curr 1 0 = 7 := by decide

end ActivityArchive.GridBuffer
