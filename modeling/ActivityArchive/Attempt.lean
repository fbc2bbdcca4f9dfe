/-!
Steps that run in order up to the first one that fails. What was done before it, and what the failed
step itself did before failing, stays done.
-/
namespace ActivityArchive

/-- The outcome of a step, and the state after it whatever the outcome. -/
abbrev Attempt (E S : Type) := Except E Unit × S

def attemptAll {A E S : Type} (step : A → S → Attempt E S) : List A → S → Attempt E S
  | [], s => (.ok (), s)
  | a :: as, s =>
    match step a s with
    | (.ok _, s') => attemptAll step as s'
    | (.error e, s') => (.error e, s')

end ActivityArchive
