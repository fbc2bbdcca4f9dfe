import ActivityArchive.Proofs.Session.Exporting

/-!
Calls on a new session, each with a store of its own: what a call does to the session does not
depend on where its store comes from. The instances that a call asks for are logged step by step, up
to the step that fails and with that step.
-/
namespace ActivityArchive

section Log

variable {A E S Q : Type} {step : A → S → Attempt E S} {log : A → S → List Q}

/-- What the steps log that are taken, the one that fails included. -/
def logAll (step : A → S → Attempt E S) (log : A → S → List Q) : List A → S → List Q
  | [], _ => []
  | a :: as, s =>
    log a s ++
      match step a s with
      | (.ok _, s') => logAll step log as s'
      | (.error _, _) => []

/-- What holds of a log and a state after every step holds after all of them, wherever they stop. -/
theorem attemptAll_logged {P : List Q → S → Prop} {as : List A} {qs : List Q}
    {s : S} (hs : P qs s) (h : ∀ a ∈ as, ∀ qs s, P qs s → P (qs ++ log a s) (step a s).2) :
    P (qs ++ logAll step log as s) (attemptAll step as s).2 := by
  induction as generalizing qs s with
  | nil => simpa [logAll, attemptAll] using hs
  | cons a as ih =>
    have ha := h a List.mem_cons_self qs s hs
    have hrest := fun b hb => h b (List.mem_cons_of_mem a hb)
    rcases hstep : step a s with ⟨_ | _, s'⟩ <;> rw [hstep] at ha
    · rw [attemptAll_cons_error hstep, logAll, hstep]
      simpa using ha
    · rw [attemptAll_cons_ok hstep, logAll, hstep, ← List.append_assoc]
      exact ih ha hrest

/-- Where every step keeps an invariant, all that is logged is logged under it. -/
theorem forall_logAll {P : S → Prop} {T : Q → Prop} {as : List A} {s : S} (hs : P s)
    (h : ∀ a ∈ as, ∀ s, P s → (∀ q ∈ log a s, T q) ∧ P (step a s).2) :
    ∀ q ∈ logAll step log as s, T q := by
  have hall : (∀ q ∈ [] ++ logAll step log as s, T q) ∧ P (attemptAll step as s).2 := by
    refine attemptAll_logged (P := fun qs s => (∀ q ∈ qs, T q) ∧ P s) ⟨by simp, hs⟩ ?_
    intro a ha qs s hqs
    obtain ⟨hlog, hstep⟩ := h a ha s hqs.2
    refine ⟨fun q hq => ?_, hstep⟩
    rcases List.mem_append.mp hq with hq | hq
    · exact hqs.1 q hq
    · exact hlog q hq
  exact hall.1

/-- Steps whose logs are good end as each of them may end. -/
theorem attemptAll_outcome {T : Q → Prop} {O : Except E Unit → Prop} {as : List A} {s : S}
    (hlog : ∀ q ∈ logAll step log as s, T q) (hok : O (.ok ()))
    (h : ∀ a ∈ as, ∀ s, (∀ q ∈ log a s, T q) → O (step a s).1) :
    O (attemptAll step as s).1 := by
  induction as generalizing s with
  | nil => exact hok
  | cons a as ih =>
    rw [logAll] at hlog
    have ha := h a List.mem_cons_self s fun q hq => hlog q (List.mem_append_left _ hq)
    have hrest := fun q hq => hlog q (List.mem_append_right _ hq)
    rcases hstep : step a s with ⟨_ | _, s'⟩ <;> rw [hstep] at ha hrest
    · rw [attemptAll_cons_error hstep]
      exact ha
    · rw [attemptAll_cons_ok hstep]
      exact ih hrest fun b hb => h b (List.mem_cons_of_mem a hb)

end Log

namespace Session

open Record

inductive Call where
  | define (store : Store) (header : HostHeader) (discovery : List Sample)
  | exportRecord (store : Store) (sample : Sample)

/-- The session after a call, whatever its outcome. -/
def call (s : Session) : Call → Session
  | .define store header discovery => (s.define store header discovery).2.1
  | .exportRecord store sample => (s.exportRecord store sample).2.1

/-- A new session after some calls. -/
def after (config : Config) (calls : List Call) : Session := calls.foldl call (initial config)

theorem after_append (config : Config) (calls more : List Call) :
    after config (calls ++ more) = more.foldl call (after config calls) := List.foldl_append

/-- The instances that the definition of a group asks for. -/
def groupDefined (discovery : List Sample) (g : Group) (w : Session × Store) : List Request :=
  if w.1.takes g then
    logAll Bench.define (fun step _ => step.request?.toList)
      (g.spec.define ⟨w.1.acts, w.1.config, discovery⟩)
        (w.1.catalogOf g, ⟨w.1.registry, w.2⟩)
  else []

/-- The instances that the export of a group asks for. -/
def groupExported (g : Group) (w : Session × Store) : List Request :=
  logAll (Bench.emit (w.1.catalogOf g)) (fun e _ => e.request?.toList) (w.1.emissions g)
    ⟨w.1.registry, w.2⟩

/-- The instances that a call asks for, in order. -/
def requested (s : Session) : Call → List Request
  | .define store header discovery =>
    match s.check .define with
    | .ok _ =>
      logAll (defineGroup discovery) (groupDefined discovery) Group.all
        (s.planned header discovery, store)
    | .error _ => []
  | .exportRecord store sample =>
    match s.check .exportRecord with
    | .ok _ => logAll exportGroup groupExported s.defined (s.loaded sample, store)
    | .error _ => []

/-- The instances that all calls ask for, in order. -/
def requestedByAll (s : Session) : List Call → List Request
  | [] => []
  | c :: calls => s.requested c ++ (s.call c).requestedByAll calls

end Session

end ActivityArchive
