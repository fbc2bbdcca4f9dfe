import ActivityArchive.Proofs.Activity.Clamping
import ActivityArchive.Proofs.Group.Accesses

/-!
What is unloaded of a slot that was loaded. A slot that is loaded shows the sample whatever was in
it before. Both slots of a buffer grow together, so a sample that is larger than any before makes
room in the other slot, too; but that slot shows no more of it, since no slot observes records that
there is no room for (`Activity.Roomy.records_load_other`). That holds after any calls
(`Activities.roomy_after`), and so does what follows from it (`load_unload`).
-/
namespace ActivityArchive

open Record

namespace Activity

variable {R : Type} {a : Activity R}

/-- Position of the first observed record that satisfies `p`, which is told where the record stands,
or of a new one behind them. -/
def positionWhere (a : Activity R) (s : Slot) (p : Nat → R → Bool) : Nat :=
  ((a.records s).zipIdx.findIdx? fun x => p x.2 x.1).getD (a.buffer.observed.get s)

/-- Where it does not matter where a record stands, the record is the one that is looked for by its
content. -/
theorem positionWhere_eq (a : Activity R) (s : Slot) (p : R → Bool) :
    a.positionWhere s (fun _ => p) = a.position s p := by
  have hfind : (a.records s).findIdx? p = (a.records s).zipIdx.findIdx? fun x => p x.1 := by
    conv_lhs => rw [← List.zipIdx_map_fst 0 (a.records s), List.findIdx?_map]
    rfl
  rw [position, hfind, positionWhere]

inductive Call (R : Type)
  | load (s : Slot) (rs : List R)
  /-- Changes a record, which is observed from then on. -/
  | update (s : Slot) (idx : Nat) (f : R → R)
  /-- Changes the first record that satisfies a condition, or a new one. -/
  | updateWhere (s : Slot) (p : Nat → R → Bool) (f : R → R)
  | clear (s : Slot)

variable [Inhabited R]

def call (a : Activity R) : Call R → Activity R
  | .load s rs => a.load s rs
  | .update s idx f => a.update s idx f
  | .updateWhere s p f => a.update s (a.positionWhere s p) f
  | .clear s => a.clear s

theorem Roomy.call (h : a.Roomy) (c : Call R) : (a.call c).Roomy := by
  cases c with
  | load s rs => exact h.load s rs
  | update s idx f => exact h.update s idx f
  | updateWhere s p f => exact h.update s _ f
  | clear s => exact h.clear s

theorem Roomy.records_load_other (h : a.Roomy) (s : Slot) (rs : List R) :
    (a.load s rs).records s.other = a.records s.other := by
  have hsame : (a.load s rs).recordAt s.other = a.recordAt s.other :=
    funext (recordAt_load_other a s rs)
  rw [records_eq_map (h.load s rs s.other), records_eq_map (h s.other), observed_load_other, hsame]

/-- Without room for what it observes a slot would show more when the other one grows. -/
example :
    let a : Activity Nat := { (empty : Activity Nat) with buffer := ⟨[], .both 1⟩ }
    a.records .prev = [] ∧ (a.load .curr [7]).records .prev = [0] := by decide

end Activity

namespace Activities

inductive Call
  | scan (sample : Sample)
  | load (s : Slot) (sample : Sample)
  | single (k : Single) (c : Activity.Call k.Rec)
  | multi (k : Multi) (c : Activity.Call k.Rec)
  | clear (s : Slot)

def call (a : Activities) : Call → Activities
  | .scan sample => a.scan sample
  | .load s sample => a.load s sample
  | .single k c => a.updateSingle k (·.call c)
  | .multi k c => a.updateMulti k (·.call c)
  | .clear s => a.clear s

/-- The activities after some calls on new ones. -/
def after (calls : List Call) : Activities := calls.foldl call empty

variable {a : Activities}

theorem Roomy.scan (h : a.Roomy) (sample : Sample) : (a.scan sample).Roomy where
  single k := by
    simp only [Activities.scan, Groups.single_ofFun]
    exact h.single k
  multi k := by
    simp only [Activities.scan, Groups.multi_ofFun]
    exact h.multi k
  irq := sized_scan a [sample] h.irq

theorem Roomy.clear (h : a.Roomy) (s : Slot) : (a.clear s).Roomy where
  single k := by
    simp only [Activities.clear, Groups.single_ofFun]
    exact (h.single k).clear s
  multi k := by
    simp only [Activities.clear, Groups.multi_ofFun]
    exact (h.multi k).clear s
  irq := (Interrupts.later_clear a.irq s).sized h.irq

theorem Roomy.updateSingle (h : a.Roomy) {k : Single} {f : Activity k.Rec → Activity k.Rec}
    (hf : (f (a.single k)).Roomy) : (a.updateSingle k f).Roomy where
  single k' := by
    by_cases hk : k' = k
    · subst hk
      simpa only [Activities.updateSingle, Groups.single_setSingle] using hf
    · simpa only [Activities.updateSingle, Groups.single_setSingle_ne _ hk] using h.single k'
  multi k' := by
    simpa only [Activities.updateSingle, Groups.multi_setSingle] using h.multi k'
  irq := h.irq

theorem Roomy.updateMulti (h : a.Roomy) {k : Multi} {f : Activity k.Rec → Activity k.Rec}
    (hf : (f (a.multi k)).Roomy) : (a.updateMulti k f).Roomy := by
  refine h.replace_multi (fun t ht => (touches_updateMulti k f).part_ne ht a) ?_
  simpa only [Activities.updateMulti, Groups.multi_setMulti] using hf

theorem Roomy.call (h : a.Roomy) (c : Call) : (a.call c).Roomy := by
  cases c with
  | scan sample => exact h.scan sample
  | load s sample => exact h.load s sample
  | single k c => exact h.updateSingle (f := (·.call c)) ((h.single k).call c)
  | multi k c => exact h.updateMulti (f := (·.call c)) ((h.multi k).call c)
  | clear s => exact h.clear s

theorem roomy_after (calls : List Call) : (after calls).Roomy :=
  List.foldlRecOn (motive := Roomy) _ _ roomy_empty fun _ h c _ => h.call c

/-- The records that a slot shows. -/
def groupsAt (a : Activities) (s : Slot) : Groups Option List :=
  .ofFun (fun k => ((a.single k).records s).head?) (fun k => (a.multi k).records s)

theorem single_groupsAt (a : Activities) (s : Slot) (k : Single) :
    (a.groupsAt s).single k = ((a.single k).records s).head? := Groups.single_ofFun _ _ k

theorem multi_groupsAt (a : Activities) (s : Slot) (k : Multi) :
    (a.groupsAt s).multi k = (a.multi k).records s := Groups.multi_ofFun _ _ k

theorem groupsAt_updateSingle (a : Activities) (s : Slot) (k : Single)
    (f : Activity k.Rec → Activity k.Rec) : (a.updateSingle k f).groupsAt s =
      (a.groupsAt s).setSingle k ((f (a.single k)).records s).head? := by cases k <;> rfl

theorem groupsAt_updateMulti (a : Activities) (s : Slot) (k : Multi)
    (f : Activity k.Rec → Activity k.Rec) : (a.updateMulti k f).groupsAt s =
      (a.groupsAt s).setMulti k ((f (a.multi k)).records s) := by cases k <;> rfl

theorem Roomy.unload_eq (h : a.Roomy) (s : Slot) (time : Int) :
    ∃ irq, a.unload s time = .ok { toGroups := a.groupsAt s, timestamp := time, irq } := by
  obtain ⟨irq, hirq⟩ := Interrupts.unload_ok h.irq s
  refine ⟨irq, ?_⟩
  rw [unload, hirq]
  rfl

theorem groupsAt_load (a : Activities) (s : Slot) (sample : Sample) :
    (a.load s sample).groupsAt s = sample.toGroups := by
  refine Groups.ext_kinds (fun k => ?_) fun k => ?_
  · rw [single_groupsAt, single_load, Option.head?_toList]
  · rw [multi_groupsAt, multi_load]

theorem Roomy.groupsAt_load_other (h : a.Roomy) (s : Slot) (sample : Sample) :
    (a.load s sample).groupsAt s.other = a.groupsAt s.other := by
  refine Groups.ext_kinds (fun k => ?_) fun k => ?_
  · simp only [groupsAt, Activities.load, Groups.single_ofFun, (h.single k).records_load_other]
  · simp only [groupsAt, Activities.load, Groups.multi_ofFun, (h.multi k).records_load_other]

/-- After any calls a sample that is loaded into a slot is unloaded from it, all of its groups as
they were and with the time that is asked for; and the groups of the other slot are unloaded as
before. -/
theorem load_unload (calls : List Call) (s : Slot) (sample : Sample) (time time' : Int) :
    (∃ irq, ((after calls).load s sample).unload s time =
      .ok { sample with timestamp := time, irq }) ∧
      ∃ before now, (after calls).unload s.other time' = .ok before ∧
        ((after calls).load s sample).unload s.other time' = .ok now ∧
          now.toGroups = before.toGroups := by
  have hroomy := roomy_after calls
  have hloaded := hroomy.load s sample
  obtain ⟨irq, hslot⟩ := hloaded.unload_eq s time
  obtain ⟨irqBefore, hbefore⟩ := hroomy.unload_eq s.other time'
  obtain ⟨irqNow, hnow⟩ := hloaded.unload_eq s.other time'
  rw [groupsAt_load] at hslot
  exact ⟨⟨irq, hslot⟩, _, _, hbefore, hnow, hroomy.groupsAt_load_other s sample⟩

end Activities

end ActivityArchive
