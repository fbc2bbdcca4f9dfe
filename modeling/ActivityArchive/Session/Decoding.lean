import ActivityArchive.Session.Basic

/-!
Import of records. Readings of metrics that no group has are skipped. A record is built in one slot,
which is empty again when the record has ended.
-/
namespace ActivityArchive.Session

/-- Switches to decoding, with the instances known to the archive. -/
def attachReader (s : Session) (instances : Registry) : Attempt SessionError Session :=
  match s.check .attachReader with
  | .ok _ => (.ok (), { s with registry := instances, phase := .decoding })
  | .error e => (.error e, s)

/-- Takes readings of one metric into the record being built. -/
def absorb (s : Session) (id : MetricId) (readings : List Reading) : Session :=
  match s.routes.find? id with
  | some (g, idx) =>
    { s with acts := g.spec.absorb ⟨g.metrics, s.registry, .curr⟩ idx readings s.acts }
  | none => s

def importValueSet (s : Session) (set : ValueSet) : Attempt SessionError Session :=
  match s.check .importValueSet with
  | .ok _ => (.ok (), s.absorb set.id set.readings)
  | .error e => (.error e, s)

def importValue (s : Session) (id : MetricId) (reading : Reading) : Attempt SessionError Session :=
  match s.check .importValue with
  | .ok _ => (.ok (), s.absorb id [reading])
  | .error e => (.error e, s)

/-- What the groups do to a record when all its readings are there. -/
def finish (acts : Activities) : Activities :=
  Group.all.foldl (fun acts g => g.spec.finish .curr acts) acts

/-- Ends the record being built and gives it back as a sample. -/
def endRecord (s : Session) (timestamp : Int) : Except SessionError Sample × Session :=
  match s.check .endRecord with
  | .error e => (.error e, s)
  | .ok _ =>
    let acts := finish s.acts
    match acts.unload .curr timestamp with
    | .ok sample => (.ok sample, { s with acts := acts.clear .curr, records := s.records + 1 })
    | .error cause => (.error (.fault (.record cause)), { s with acts })

def importRecord (s : Session) (record : FetchedRecord) : Except SessionError Sample × Session :=
  match attemptAll (fun set s => s.importValueSet set) record.sets s with
  | (.ok _, s) => s.endRecord record.timestamp
  | (.error e, s) => (.error e, s)

/-- Imports records up to the first that fails. -/
def importAll (s : Session) : List FetchedRecord → Except SessionError (List Sample) × Session
  | [] => (.ok [], s)
  | r :: rs =>
    match s.importRecord r with
    | (.error e, s) => (.error e, s)
    | (.ok sample, s) =>
      match s.importAll rs with
      | (.ok samples, s) => (.ok (sample :: samples), s)
      | (.error e, s) => (.error e, s)

end ActivityArchive.Session
