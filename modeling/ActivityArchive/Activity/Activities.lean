import ActivityArchive.Activity.Basic
import ActivityArchive.Activity.Interrupts
import ActivityArchive.Sample

/-!
The activities of all kinds of records. What is loaded into a slot is what is unloaded from it.
-/
namespace ActivityArchive

open Record

structure Activities extends Groups Activity Activity where
  header : HostHeader
  irq : Interrupts

namespace Activities

def empty : Activities :=
  ⟨.ofFun (fun _ => .empty) (fun _ => .empty), default, .empty⟩

def updateSingle (a : Activities) (k : Single) (f : Activity k.Rec → Activity k.Rec) :
    Activities :=
  { a with toGroups := a.setSingle k (f (a.single k)) }

def updateMulti (a : Activities) (k : Multi) (f : Activity k.Rec → Activity k.Rec) : Activities :=
  { a with toGroups := a.setMulti k (f (a.multi k)) }

/-- Plans for the counts of a sample seen before definition. -/
def scan (a : Activities) (sample : Sample) : Activities where
  toGroups := .ofFun
    (fun k => (a.single k).plan (sample.singles k).length)
    (fun k => (a.multi k).plan (sample.multi k).length)
  header := a.header
  irq := match sample.irq with
    | some t => (a.irq.plan t.counts.length).addLines t.lines
    | none => a.irq

def load (a : Activities) (s : Slot) (sample : Sample) : Activities where
  toGroups := .ofFun
    (fun k => (a.single k).load s (sample.singles k))
    (fun k => (a.multi k).load s (sample.multi k))
  header := a.header
  irq := a.irq.load s sample.irq

def unload (a : Activities) (s : Slot) (timestamp : Int) : Except BufferError Sample := do
  let irq ← a.irq.unload s
  return {
    toGroups := .ofFun
      (fun k => ((a.single k).records s).head?)
      (fun k => (a.multi k).records s)
    timestamp
    irq }

def clear (a : Activities) (s : Slot) : Activities where
  toGroups := .ofFun (fun k => (a.single k).clear s) (fun k => (a.multi k).clear s)
  header := a.header
  irq := a.irq.clear s

end Activities

end ActivityArchive
