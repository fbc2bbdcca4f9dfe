import ActivityArchive.Proofs.Activity.Unobserved
import ActivityArchive.Proofs.Session.InRange

/-!
What no slot of a session observes. Groups change records that they observe, sessions clear what
they load, and a record that is imported is cleared when it ends: so whatever a session is called
for, and however its samples differ in length, nothing is left behind of the ones before
(`unobserved_blank`).
-/
namespace ActivityArchive

open Activities Record

/-- A record or a count that is changed is observed from then on. -/
theorem Part.lasting_clean (s : Slot) : Part.Lasting s fun t x _ => t.Clean x where
  header _ _ _ _ := trivial
  single _ i f _ _ h := Activity.Clean.update h s i f
  multi _ i f _ _ h := Activity.Clean.update h s i f
  item _ p f _ _ h := Activity.Clean.updateBy h s p f
  every _ f _ _ h := Activity.Clean.fill_map h s f
  count row name count _ _ h := Interrupts.clean_absorbCell h s row name count

theorem Aggregates.clean {g : Group} {k : Multi} [DecidableEq k.Rec]
    {add : k.Rec → k.Rec → k.Rec}
    {view : ExportView} (h : Aggregates g k add) (hacts : view.acts.Clean) :
    ((g.spec.emit view).1.multi k).Clean := by
  have hk : (view.acts.multi k).Clean := hacts (.multi k)
  rw [h.emit]
  split
  · exact hk
  · exact hk.aggregate add view.slot

namespace GroupSpec

theorem clean_interrupts {view : ExportView} (h : view.acts.irq.grid.Clean) :
    (interrupts.emit view).1.irq.grid.Clean := by
  unfold interrupts
  dsimp only
  split
  · exact h
  · rename_i hrows
    split
    · rename_i hprepare
      exact Interrupts.clean_prepare h hrows hprepare
    · exact h

end GroupSpec

namespace Group

variable {acts : Activities}

theorem clean_absorb (h : acts.Clean) (g : Group) (view : ImportView) (idx : Nat)
    (readings : List Reading) : (g.spec.absorb view idx readings acts).Clean :=
  (spec_keeps g).absorb (b := acts) view idx readings (Part.lasting_clean view.slot) h

theorem clean_finish (h : acts.Clean) (g : Group) (s : Slot) : (g.spec.finish s acts).Clean :=
  (spec_keeps g).finish (b := acts) s (Part.lasting_clean s) h

/-- Only groups that work out an aggregate change anything when they emit. -/
theorem clean_emit {view : ExportView} (h : view.acts.Clean) (g : Group) :
    (g.spec.emit view).1.Clean := by
  intro t
  by_cases ht : t = g.part
  · subst ht
    cases g with
    | cpu => exact aggregates_cpu.clean h
    | softnet => exact aggregates_softnet.clean h
    | interrupts => exact GroupSpec.clean_interrupts (h .interrupts)
    | _ => exact h _
  · rw [(spec_local g).emit_part_ne view t ht]
    exact h t

end Group

namespace Session

variable {s : Session}

theorem clean_planned (h : s.acts.Clean) (header : HostHeader) (discovery : List Sample) :
    (s.planned header discovery).acts.Clean := by
  intro t
  cases t with
  | header => trivial
  | single k =>
    have hk : (s.acts.single k).Clean := h (.single k)
    show ((s.planned header discovery).acts.single k).Clean
    rw [single_planned]
    exact ⟨hk.roomy, hk.blank⟩
  | multi k =>
    have hk : (s.acts.multi k).Clean := h (.multi k)
    show ((s.planned header discovery).acts.multi k).Clean
    rw [multi_planned]
    cases k <;> exact ⟨hk.roomy, hk.blank⟩
  | interrupts =>
    show (s.planned header discovery).acts.irq.grid.Clean
    rw [irq_planned]
    exact h .interrupts

theorem clean_exportRecord (h : s.acts.Clean) (store : Store) (sample : Sample) :
    (s.exportRecord store sample).2.1.acts.Clean := by
  rcases hc : s.check .exportRecord with e | _
  · simp only [Session.exportRecord, hc]
    exact h
  · have hloaded : (s.loaded sample).acts.Clean := h.load s.slot sample
    have hall : (attemptAll Session.exportGroup s.defined
        (s.loaded sample, store)).2.1.acts.Clean := by
      refine attemptAll_preserves (P := fun w : Session × Store => w.1.acts.Clean) hloaded
        fun g _ w hw => ?_
      have hemit : (g.spec.emit (w.1.view g)).1.Clean := Group.clean_emit hw g
      exact hemit
    rw [exportRecord_eq hc]
    rcases hrun : attemptAll Session.exportGroup s.defined (s.loaded sample, store)
      with ⟨_ | _, t, store'⟩ <;> rw [hrun] at hall
    · exact hall
    · dsimp only
      split <;> exact hall

theorem clean_absorb (h : s.acts.Clean) (id : MetricId) (readings : List Reading) :
    (s.absorb id readings).acts.Clean := by
  unfold absorb
  split
  · exact Group.clean_absorb h _ _ _ readings
  · exact h

theorem clean_importValueSet (h : s.acts.Clean) (set : ValueSet) :
    (s.importValueSet set).2.acts.Clean := by
  rcases hc : s.check .importValueSet with e | _ <;> simp only [Session.importValueSet, hc]
  · exact h
  · exact clean_absorb h set.id set.readings

theorem clean_finish {acts : Activities} (h : acts.Clean) : (finish acts).Clean :=
  List.foldlRecOn (motive := Activities.Clean) _ _ h fun _ hacts g _ =>
    Group.clean_finish hacts g .curr

theorem clean_endRecord (h : s.acts.Clean) (timestamp : Int) :
    (s.endRecord timestamp).2.acts.Clean := by
  have hended := clean_finish h
  unfold endRecord
  split
  · exact h
  · dsimp only
    split
    · exact hended.clear .curr
    · exact hended

theorem clean_perform (h : s.acts.Clean) (a : Action) : (s.perform a).2.acts.Clean := by
  cases a with
  | define store header discovery =>
    show (s.define store header discovery).2.1.acts.Clean
    rcases define_cases s store header discovery with hsame | ⟨-, -, -, hacts⟩
    · exact hsame.symm ▸ h
    · exact hacts.symm ▸ clean_planned h header discovery
  | exportRecord store sample => exact clean_exportRecord h store sample
  | attachReader instances =>
    rcases hc : s.check .attachReader with e | _ <;>
      simp only [Session.perform, Session.attachReader, hc] <;> exact h
  | importValueSet set => exact clean_importValueSet h set
  | importValue id reading =>
    rcases hc : s.check .importValue with e | _ <;>
      simp only [Session.perform, Session.importValue, hc]
    · exact h
    · exact clean_absorb h id [reading]
  | importRecord record =>
    have hsets : (attemptAll (fun set s => s.importValueSet set) record.sets s).2.acts.Clean :=
      attemptAll_preserves (P := fun s : Session => s.acts.Clean) h
        fun set _ _ hs => clean_importValueSet hs set
    show (s.importRecord record).2.acts.Clean
    unfold importRecord
    split <;> rename_i hrun <;> rw [hrun] at hsets
    · exact clean_endRecord hsets record.timestamp
    · exact hsets
  | endRecord timestamp => exact clean_endRecord h timestamp
  | close =>
    rcases hc : s.check .close with e | _ <;> simp only [Session.perform, Session.close, hc] <;>
      exact h

theorem clean_performAll (h : s.acts.Clean) (actions : List Action) :
    (s.performAll actions).acts.Clean :=
  List.foldlRecOn (motive := fun s : Session => s.acts.Clean) _ _ h fun _ hs a _ =>
    clean_perform hs a

/-- A new session may be called for anything, in any order and with any arguments: behind the
records and below the rows of interrupts that its slots observe, nothing of any sample is left, and
none of it comes to light when more is observed. -/
theorem unobserved_blank (config : Config) (actions : List Action) :
    ∃ s, Session.new config = .ok s ∧
      (∀ k, ((s.performAll actions).acts.single k).Unexposed) ∧
      (∀ k, ((s.performAll actions).acts.multi k).Unexposed) ∧
      (s.performAll actions).acts.irq.Unexposed := by
  have hclean : ((initial config).performAll actions).acts.Clean :=
    clean_performAll Activities.clean_empty actions
  exact ⟨initial config, new_eq config, fun k => (hclean (.single k)).unexposed,
    fun k => (hclean (.multi k)).unexposed, Interrupts.unexposed (hclean .interrupts)⟩

end Session

end ActivityArchive
