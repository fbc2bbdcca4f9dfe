import ActivityArchive.Metric.Ident
import ActivityArchive.Metric.Value

/-!
The static description of a metric. Metrics without an instance domain are singular.
-/
namespace ActivityArchive

structure Descriptor where
  id : MetricId
  /-- Dotted lowercase name. -/
  name : String
  kind : Kind
  semantics : Semantics
  domain : Option DomainId
  unit : MetricUnit
  deriving DecidableEq

end ActivityArchive
