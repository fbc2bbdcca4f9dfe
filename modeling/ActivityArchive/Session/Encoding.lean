import ActivityArchive.Session.Basic

/-!
Definition of groups and export of samples. The registry of the session and the instances of the
store are written together. A step that fails ends the operation; what was registered or queued
before it stays.
-/
namespace ActivityArchive

/-- What definition and export write to. -/
structure Bench where
  registry : Registry
  store : Store

namespace Bench

/-- Registers an instance in both places, unless its label is known under that number, or under any
number where none is given. -/
def register (group : String) (d : DomainId) (label : String) (number : Option Int) (b : Bench) :
    Attempt SessionError Bench :=
  let known := b.registry.number? d label
  if known.isSome ∧ (number = none ∨ number = known) then (.ok (), b)
  else
    let n := number.getD (b.registry.next d)
    match b.registry.add d label n with
    | .error cause => (.error (.registry cause), b)
    | .ok (false, _) => (.ok (), b)
    | .ok (true, r) =>
      match b.store.addInstance d label n with
      | .ok store => (.ok (), ⟨r, store⟩)
      | .error cause => (.error (.store group cause), { b with registry := r })

/-- Puts a value under the handle of its metric. -/
def put (c : Catalog) (idx : Nat) (label : Option String) (v : Value) (b : Bench) :
    Attempt SessionError Bench :=
  match c.resolve idx with
  | .error cause => (.error (.fault (.metric cause)), b)
  | .ok d =>
    match c.handle? idx with
    | none => (.error (.undefinedMetric c.group d.name), b)
    | some handle =>
      match b.store.put handle label v.text with
      | .ok store => (.ok (), { b with store })
      | .error cause => (.error (.store c.group cause), b)

def emit (c : Catalog) : Emission → Bench → Attempt SessionError Bench
  | .entry d label number, b => b.register c.group d label number
  | .value idx label v, b => b.put c idx label v
  | .fault cause, b => (.error (.fault (.record cause)), b)

/-- A step on a catalog and a store, seen from the bench. -/
def onCatalog (b : Bench) : Attempt CatalogError (Catalog × Store) →
    Attempt SessionError (Catalog × Bench)
  | (.ok _, c, store) => (.ok (), c, { b with store })
  | (.error cause, c, store) => (.error (.catalog cause), c, { b with store })

def define : Definition → Catalog × Bench → Attempt SessionError (Catalog × Bench)
  | .table, (c, b) => b.onCatalog (c.define b.store)
  | .metric idx, (c, b) => b.onCatalog (Catalog.defineStep idx (c, b.store))
  | .entry d label number, (c, b) =>
    let (outcome, b) := b.register c.group d label number
    (outcome, c, b)

end Bench

namespace Session

/-- Fits the selections of CPUs to the counts planned for. -/
def select (s : Session) : Session :=
  let a := s.acts
  { s with acts := { a with
      cpu := { a.cpu with selection := s.config.cpuSelection a.cpu.count }
      softnet := { a.softnet with selection := s.config.cpuSelection a.softnet.count }
      cpufreq := { a.cpufreq with selection := s.config.cpuSelection a.cpufreq.count }
      irq := { a.irq with selection := s.config.cpuSelection a.irq.count } } }

/-- Whether a group is defined: headers always, others where enabled and present. -/
def takes (s : Session) (g : Group) : Bool :=
  g.isHeader || (s.config.enables g.name && g.spec.isPresent s.acts)

def defineGroup (discovery : List Sample) (g : Group) (w : Session × Store) :
    Attempt SessionError (Session × Store) :=
  let (s, store) := w
  if s.takes g then
    let steps := g.spec.define ⟨s.acts, s.config, discovery⟩
    let (outcome, c, b) := attemptAll Bench.define steps (s.catalogOf g, ⟨s.registry, store⟩)
    let s := { s.setCatalog g c with registry := b.registry }
    match outcome with
    | .ok _ => (.ok (), { s with defined := s.defined ++ [g] }, b.store)
    | .error e => (.error e, s, b.store)
  else (.ok (), s, store)

/-- Registers the metrics and instances of every group taken. -/
def define (s : Session) (store : Store) (header : Record.HostHeader) (discovery : List Sample) :
    Attempt SessionError (Session × Store) :=
  match s.check .define with
  | .error e => (.error e, s, store)
  | .ok _ =>
    let s := { s with acts := discovery.foldl Activities.scan { s.acts with header } }.select
    match attemptAll (defineGroup discovery) Group.all (s, store) with
    | (.ok _, s, store) =>
      let catalogs := s.catalogs.map Catalog.close
      (.ok (), { s with catalogs, phase := .catalogsDefined }, store)
    | failed => failed

def exportGroup (g : Group) (w : Session × Store) : Attempt SessionError (Session × Store) :=
  let (s, store) := w
  let c := s.catalogOf g
  let view : ExportView :=
    ⟨s.acts, s.config, s.slot, s.records = 0, fun idx => (c.handle? idx).isSome⟩
  let (acts, steps) := g.spec.emit view
  let (outcome, b) := attemptAll (Bench.emit c) steps ⟨s.registry, store⟩
  (outcome, { s with acts, registry := b.registry }, b.store)

/-- Exports a sample as one record of the store. -/
def exportRecord (s : Session) (store : Store) (sample : Sample) :
    Attempt SessionError (Session × Store) :=
  match s.check .exportRecord with
  | .error e => (.error e, s, store)
  | .ok _ =>
    let s := { s with phase := .encoding, acts := s.acts.load s.slot sample }
    match attemptAll exportGroup s.defined (s, store) with
    | (.ok _, s, store) =>
      match store.write sample.timestamp with
      | .ok store => (.ok (), { s with slot := s.slot.other, records := s.records + 1 }, store)
      | .error cause => (.error (.store "session" cause), s, store)
    | failed => failed

end Session

end ActivityArchive
