import ActivityArchive.Record.Groups

/-!
One sample: what was read at one time. In JSON, kinds of which the sample has no record are left
out.
-/
namespace ActivityArchive

open Json Record

structure Sample extends Groups Option List where
  /-- Unix seconds. -/
  timestamp : Int
  irq : Option InterruptTable

namespace Sample

/-- No record of any kind, at time zero. -/
def blank : Sample := ⟨.ofFun (fun _ => none) (fun _ => []), 0, none⟩

instance : Inhabited Sample := ⟨blank⟩

/-- The records of a kind that comes at most once, as a list. -/
def singles (s : Sample) (k : Single) : List k.Rec := (s.single k).toList

def singleMember (k : Single) : Member Sample :=
  .optional k.key (Record.codec k.Rec) (·.single k)
    (fun x s => { s with toGroups := s.setSingle k x })

def multiMember (k : Multi) : Member Sample :=
  .many k.key (Record.codec k.Rec) (·.multi k)
    (fun x s => { s with toGroups := s.setMulti k x })

def shape : Shape Sample where
  blank := blank
  members :=
    [.plain "timestamp" .anywhere .seconds (·.timestamp) (fun x s => { s with timestamp := x })] ++
      Single.all.map singleMember ++ Multi.all.map multiMember ++
      [.optional "irq" InterruptTable.shape.codec (·.irq) (fun x s => { s with irq := x })]

end Sample

end ActivityArchive
