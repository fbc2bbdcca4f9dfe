import ActivityArchive.Metric.Ident
import ActivityArchive.Text.Quoted

/-!
Numbered instances. Within a domain a number has one label and a label one number: `add` takes a
pair that is known already or shares nothing with the known ones, and refuses every other. Domains
and the instances of a domain keep the order in which they came.
-/
namespace ActivityArchive

structure Instance where
  domain : DomainId
  number : Int
  label : String
  deriving DecidableEq

inductive RegistryError where
  | conflictingInstance (domain : DomainId) (number : Int) (existing label : String)
  | duplicateLabel (domain : DomainId) (label : String) (existing number : Int)
  deriving DecidableEq

def RegistryError.message : RegistryError → String
  | .conflictingInstance domain number existing label =>
    "instance domain " ++ domain.text ++ ": number " ++ Text.integer number ++ " is " ++
      Text.quoted existing ++ ", not " ++ Text.quoted label
  | .duplicateLabel domain label existing number =>
    "instance domain " ++ domain.text ++ ": label " ++ Text.quoted label ++ " already numbered " ++
      Text.integer existing ++ ", not " ++ Text.integer number

/-- The number and the label of an instance. -/
abbrev Entry := Int × String

structure Registry where
  domains : List (DomainId × List Entry)
  deriving DecidableEq

namespace Registry

def empty : Registry := ⟨[]⟩

/-- The instances of a domain, none for a domain not in use. -/
def entries (r : Registry) (d : DomainId) : List Entry :=
  match r.domains.find? (·.1 = d) with
  | some (_, es) => es
  | none => []

def label? (r : Registry) (d : DomainId) (number : Int) : Option String :=
  ((r.entries d).find? (·.1 = number)).map (·.2)

def number? (r : Registry) (d : DomainId) (label : String) : Option Int :=
  ((r.entries d).find? (·.2 = label)).map (·.1)

def size (r : Registry) (d : DomainId) : Nat := (r.entries d).length

def isEmpty (r : Registry) : Bool := r.domains.all (·.2.isEmpty)

def inUse (r : Registry) : List DomainId := r.domains.map (·.1)

/-- One past the largest number in use. -/
def next (r : Registry) (d : DomainId) : Int :=
  match ((r.entries d).map (·.1)).max? with
  | some n => n + 1
  | none => 0

/-- Puts an entry after those of its domain, which comes last when it is new. -/
def append (d : DomainId) (e : Entry) :
    List (DomainId × List Entry) → List (DomainId × List Entry)
  | [] => [(d, [e])]
  | (d', es) :: rest => if d' = d then (d', es ++ [e]) :: rest else (d', es) :: append d e rest

/-- Registers a pair; the flag tells whether it is new. -/
def add (r : Registry) (d : DomainId) (label : String) (number : Int) :
    Except RegistryError (Bool × Registry) :=
  match r.label? d number with
  | some existing =>
    if existing = label then .ok (false, r)
    else .error (.conflictingInstance d number existing label)
  | none =>
    match r.number? d label with
    | some existing => .error (.duplicateLabel d label existing number)
    | none => .ok (true, ⟨append d (number, label) r.domains⟩)

/-- The number of a label, which is registered under the next number when it is new. -/
def ensure (r : Registry) (d : DomainId) (label : String) :
    Except RegistryError (Int × Registry) :=
  match r.number? d label with
  | some number => .ok (number, r)
  | none => (r.add d label (r.next d)).map fun (_, r') => (r.next d, r')

def toList (r : Registry) : List Instance :=
  r.domains.flatMap fun (d, es) => es.map fun (n, l) => ⟨d, n, l⟩

def ofList (instances : List Instance) : Except RegistryError Registry :=
  instances.foldlM (fun r i => (r.add i.domain i.label i.number).map (·.2)) empty

end Registry

end ActivityArchive
