import ActivityArchive.Text.Digits

/-!
Identifiers packed into a word of 32 bits. A metric has nine bits of domain, twelve of cluster and
ten of item; an instance domain has nine bits of domain and twenty-two of serial. The top bit
belongs to no field: it stays in the word and is not seen by `fields`.
-/
namespace ActivityArchive

def domainMax : UInt32 := 511

def clusterMax : UInt32 := 4095

def itemMax : UInt32 := 1023

def serialMax : UInt32 := 4194303

inductive IdentError where
  | outOfRange (field : String) (value max : UInt32)
  deriving DecidableEq

def IdentError.message : IdentError → String
  | .outOfRange field value max =>
    field ++ " value " ++ Text.decimal value.toNat ++ " out of range (max " ++
      Text.decimal max.toNat ++ ")"

/-- A field of an identifier written in a table that does not fit. -/
inductive TableIdentError where
  | metricDomain
  | metricCluster
  | metricItem
  | instanceDomain
  | instanceSerial
  deriving DecidableEq

def TableIdentError.message : TableIdentError → String
  | .metricDomain => "metric domain out of range"
  | .metricCluster => "metric cluster out of range"
  | .metricItem => "metric item out of range"
  | .instanceDomain => "instance domain out of range"
  | .instanceSerial => "instance domain serial out of range"

def checkField (field : String) (value max : UInt32) : Except IdentError UInt32 :=
  if max < value then .error (.outOfRange field value max) else .ok value

structure MetricId where
  raw : UInt32
  deriving DecidableEq

namespace MetricId

/-- The word of fields that are known to fit. -/
def pack (domain cluster item : UInt32) : MetricId :=
  ⟨domain * 4194304 + cluster * 1024 + item⟩

def ofFields (domain cluster item : UInt32) : Except IdentError MetricId := do
  let domain ← checkField "domain" domain domainMax
  let cluster ← checkField "cluster" cluster clusterMax
  let item ← checkField "item" item itemMax
  return pack domain cluster item

/-- Table entries: the same word, with other causes of refusal. -/
def ofTable (domain cluster item : UInt32) : Except TableIdentError MetricId :=
  if domainMax < domain then .error .metricDomain
  else if clusterMax < cluster then .error .metricCluster
  else if itemMax < item then .error .metricItem
  else .ok (pack domain cluster item)

def domain (id : MetricId) : UInt32 := id.raw / 4194304 % 512

def cluster (id : MetricId) : UInt32 := id.raw / 1024 % 4096

def item (id : MetricId) : UInt32 := id.raw % 1024

def fields (id : MetricId) : UInt32 × UInt32 × UInt32 := (id.domain, id.cluster, id.item)

def text (id : MetricId) : String :=
  Text.decimal id.domain.toNat ++ "." ++ Text.decimal id.cluster.toNat ++ "." ++
    Text.decimal id.item.toNat

end MetricId

structure DomainId where
  raw : UInt32
  deriving DecidableEq

namespace DomainId

def pack (domain serial : UInt32) : DomainId := ⟨domain * 4194304 + serial⟩

def ofFields (domain serial : UInt32) : Except IdentError DomainId := do
  let domain ← checkField "domain" domain domainMax
  let serial ← checkField "serial" serial serialMax
  return pack domain serial

def ofTable (domain serial : UInt32) : Except TableIdentError DomainId :=
  if domainMax < domain then .error .instanceDomain
  else if serialMax < serial then .error .instanceSerial
  else .ok (pack domain serial)

def domain (id : DomainId) : UInt32 := id.raw / 4194304 % 512

def serial (id : DomainId) : UInt32 := id.raw % 4194304

def fields (id : DomainId) : UInt32 × UInt32 := (id.domain, id.serial)

def text (id : DomainId) : String :=
  Text.decimal id.domain.toNat ++ "." ++ Text.decimal id.serial.toNat

end DomainId

end ActivityArchive
