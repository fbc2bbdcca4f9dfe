import ActivityArchive.Proofs.Activity.Aggregation
import ActivityArchive.Proofs.Group.Locality

/-!
The groups that aggregate. The CPUs and their packet queues do nothing for a slot without records,
and work out the aggregate of every other one before they emit it.
-/
namespace ActivityArchive

open Activities Record

/-- A group that aggregates its records before it emits them. -/
structure Aggregates (g : Group) (k : Multi) [DecidableEq k.Rec] (add : k.Rec → k.Rec → k.Rec) :
    Prop where
  part : g.part = .multi k
  present : ∀ acts, g.spec.isPresent acts = decide (0 < (acts.multi k).count)
  emit : ∀ view, (g.spec.emit view).1.multi k =
    if (view.acts.multi k).buffer.observed.get view.slot = 0 then view.acts.multi k
    else (view.acts.multi k).aggregate add view.slot

section

variable {g : Group} {k : Multi} [DecidableEq k.Rec] {add : k.Rec → k.Rec → k.Rec}

/-- A group that does nothing for a slot without records, and aggregates every other one. -/
theorem aggregates_of_cases (hpart : g.part = .multi k)
    (hpresent : ∀ acts, g.spec.isPresent acts = decide (0 < (acts.multi k).count))
    (hskip : ∀ view : ExportView, (view.acts.multi k).buffer.observed.get view.slot = 0 →
      (g.spec.emit view).1 = view.acts)
    (hrun : ∀ view : ExportView, (view.acts.multi k).buffer.observed.get view.slot ≠ 0 →
      (g.spec.emit view).1.multi k = (view.acts.multi k).aggregate add view.slot) :
    Aggregates g k add := by
  refine ⟨hpart, hpresent, fun view => ?_⟩
  by_cases h : (view.acts.multi k).buffer.observed.get view.slot = 0
  · rw [hskip view h, if_pos h]
  · rw [hrun view h, if_neg h]

end

theorem aggregates_cpu : Aggregates .cpu .cpu CpuTimes.add :=
  aggregates_of_cases rfl (fun _ => rfl) (fun _ h => congrArg Prod.fst (if_pos h))
    fun _ h => congrArg (fun x : Activities × List Emission => x.1.cpu) (if_neg h)

theorem aggregates_softnet : Aggregates .softnet .softnet Softnet.add :=
  aggregates_of_cases rfl (fun _ => rfl) (fun _ h => congrArg Prod.fst (if_pos h))
    fun _ h => congrArg (fun x : Activities × List Emission => x.1.softnet) (if_neg h)

end ActivityArchive
