import ActivityArchive.Json.Shape
import ActivityArchive.Store.Basic

/-!
A store as JSON: metrics, instances, records and whether it is sealed. Queued values are not part of
a dump. A dump whose instances contradict each other cannot be read.
-/
namespace ActivityArchive

open Json

def MetricId.codec : Codec MetricId where
  write id := Codec.word32.write id.raw
  read? j := (Codec.word32.read? j).map .mk

def DomainId.codec : Codec DomainId where
  write id := Codec.word32.write id.raw
  read? j := (Codec.word32.read? j).map .mk

def Kind.codec : Codec Kind := .choice Kind.all Kind.name

def Semantics.codec : Codec Semantics := .choice Semantics.all Semantics.name

def MetricUnit.codec : Codec MetricUnit := .choice MetricUnit.all MetricUnit.name

def Descriptor.shape : Shape Descriptor where
  blank := ⟨⟨0⟩, "", .u32, .counter, none, .none⟩
  members :=
    [ .plain "id" .never MetricId.codec (·.id) (fun x d => { d with id := x }),
      .plain "name" .never .text (·.name) (fun x d => { d with name := x }),
      .plain "value_type" .never Kind.codec (·.kind) (fun x d => { d with kind := x }),
      .plain "semantics" .never Semantics.codec (·.semantics)
        (fun x d => { d with semantics := x }),
      .plain "indom" .inObject (.option DomainId.codec) (·.domain)
        (fun x d => { d with domain := x }),
      .plain "unit" .never MetricUnit.codec (·.unit) (fun x d => { d with unit := x }) ]

def Instance.shape : Shape Instance where
  blank := ⟨⟨0⟩, 0, ""⟩
  members :=
    [ .plain "domain" .never DomainId.codec (·.domain) (fun x i => { i with domain := x }),
      .plain "number" .never .number (·.number) (fun x i => { i with number := x }),
      .plain "label" .never .text (·.label) (fun x i => { i with label := x }) ]

def Registry.codec : Codec Registry where
  write r := (Codec.list Instance.shape.codec).write r.toList
  read? j := do
    let instances ← (Codec.list Instance.shape.codec).read? j
    (Registry.ofList instances).toOption

def StoredValue.shape : Shape StoredValue where
  blank := ⟨⟨0⟩, none, ""⟩
  members :=
    [ .plain "metric" .never MetricId.codec (·.metric) (fun x v => { v with metric := x }),
      .optional "instance" .text (·.label) (fun x v => { v with label := x }),
      .plain "text" .never .text (·.text) (fun x v => { v with text := x }) ]

def StoredRecord.shape : Shape StoredRecord where
  blank := ⟨0, []⟩
  members :=
    [ .plain "timestamp" .never .seconds (·.timestamp) (fun x r => { r with timestamp := x }),
      .plain "values" .never (.list StoredValue.shape.codec) (·.values)
        (fun x r => { r with values := x }) ]

def Store.shape : Shape Store where
  blank := .empty
  members :=
    [ .plain "metrics" .never (.list Descriptor.shape.codec) (·.metrics)
        (fun x s => { s with metrics := x }),
      .plain "instances" .never Registry.codec (·.instances)
        (fun x s => { s with instances := x }),
      .plain "records" .never (.list StoredRecord.shape.codec) (·.records)
        (fun x s => { s with records := x }),
      .plain "sealed" .anywhere .bool (·.isSealed) (fun x s => { s with isSealed := x }) ]

end ActivityArchive
