import ActivityArchive.Group.All

/-!
A session is bound to one archive. It defines its groups once and then either exports samples into a
store or imports records from one, never both; once closed it does nothing any more.
-/
namespace ActivityArchive

inductive Phase where
  | uninitialized
  | catalogsDefined
  | encoding
  | decoding
  | closed
  deriving DecidableEq

def Phase.name : Phase → String
  | .uninitialized => "uninitialized"
  | .catalogsDefined => "catalogs-defined"
  | .encoding => "encoding"
  | .decoding => "decoding"
  | .closed => "closed"

inductive Operation where
  | define
  | exportRecord
  | attachReader
  | importValueSet
  | importValue
  | endRecord
  | close
  deriving DecidableEq

def Operation.name : Operation → String
  | .define => "define"
  | .exportRecord => "export_record"
  | .attachReader => "attach_reader"
  | .importValueSet => "import_value_set"
  | .importValue => "import_value"
  | .endRecord => "end_record"
  | .close => "close"

/-- The phases in which an operation may be called. -/
def Operation.allowedIn : Operation → List Phase
  | .define => [.uninitialized]
  | .exportRecord => [.catalogsDefined, .encoding]
  | .attachReader => [.uninitialized, .catalogsDefined]
  | .importValueSet => [.decoding]
  | .importValue => [.decoding]
  | .endRecord => [.decoding]
  | .close => [.uninitialized, .catalogsDefined, .encoding, .decoding]

/-- An access outside of what there is. -/
inductive Fault where
  | record (cause : BufferError)
  | metric (cause : CatalogError)
  deriving DecidableEq

def Fault.message : Fault → String
  | .record cause => cause.message
  | .metric cause => cause.message

inductive SessionError where
  | invalidState (phase : Phase) (operation : Operation)
  | undefinedMetric (group metric : String)
  | store (group : String) (cause : StoreError)
  | catalog (cause : CatalogError)
  | registry (cause : RegistryError)
  | routes (cause : RouteError)
  | fault (cause : Fault)
  deriving DecidableEq

def SessionError.message : SessionError → String
  | .invalidState phase operation =>
    "operation " ++ operation.name ++ " not allowed in state " ++ phase.name
  | .undefinedMetric group metric =>
    "group " ++ group ++ ": metric " ++ metric ++ " used before definition"
  | .store group cause => "group " ++ group ++ ": " ++ cause.message
  | .catalog cause => cause.message
  | .registry cause => cause.message
  | .routes cause => cause.message
  | .fault cause => cause.message

structure Session where
  phase : Phase
  config : Config
  /-- One catalog for each group, in the order of all groups. -/
  catalogs : List Catalog
  /-- The groups that are exported, in order. -/
  defined : List Group
  registry : Registry
  acts : Activities
  routes : Routes Group
  /-- The slot of the next sample. -/
  slot : Slot
  records : Nat

namespace Session

def new (config : Config) : Except SessionError Session :=
  (Group.routes.mapError .routes).map fun routes =>
    { phase := .uninitialized
      config
      catalogs := Group.all.map Group.catalog
      defined := []
      registry := .empty
      acts := .empty
      routes
      slot := .curr
      records := 0 }

def catalogOf (s : Session) (g : Group) : Catalog := s.catalogs.getD g.index g.catalog

def setCatalog (s : Session) (g : Group) (c : Catalog) : Session :=
  { s with catalogs := s.catalogs.set g.index c }

def check (s : Session) (op : Operation) : Except SessionError Unit :=
  if s.phase ∈ op.allowedIn then .ok () else .error (.invalidState s.phase op)

/-- Closes the session, whatever it was doing. -/
def close (s : Session) : Attempt SessionError Session :=
  match s.check .close with
  | .ok _ => (.ok (), { s with phase := .closed })
  | .error e => (.error e, s)

end Session

end ActivityArchive
