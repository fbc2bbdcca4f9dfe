import ActivityArchive.Session.Decoding
import ActivityArchive.Session.Encoding
import ActivityArchive.Store.Dump

/-!
Whole archives: a host with its samples, exported into a sealed store and imported from one.
-/
namespace ActivityArchive

open Json Record

structure Archive where
  header : HostHeader
  samples : List Sample

namespace Archive

def shape : Shape Archive where
  blank := ⟨default, []⟩
  members :=
    [ .plain "header" .anywhere (Record.codec HostHeader) (·.header)
        (fun x a => { a with header := x }),
      .plain "samples" .never (.list Sample.shape.codec) (·.samples)
        (fun x a => { a with samples := x }) ]

/-- Reads an archive, or else a list of samples without a host. -/
def ofJson? (j : Json) : Option Archive :=
  if j.whole Json.depthLimit then
    match shape.ofJson? j with
    | some a => some a
    | none => ((Codec.list Sample.shape.codec).read? j).map fun samples => ⟨default, samples⟩
  else none

/-- Exports samples one after the other, up to the first that fails. -/
def exportAll : List Sample → Session × Store → Attempt SessionError (Session × Store) :=
  attemptAll fun sample (s, store) => s.exportRecord store sample

/-- The store of an archive: all samples are seen before definition, and each becomes a record. -/
def toStore (a : Archive) (config : Config) : Except SessionError Store := do
  let s ← Session.new config
  let (outcome, s, store) := s.define .empty a.header a.samples
  outcome
  let (outcome, s, store) := exportAll a.samples (s, store)
  outcome
  let (outcome, _) := s.close
  outcome
  return store.close

/-- The archive of a store. -/
def ofStore (store : Store) : Except SessionError Archive := do
  let s ← Session.new {}
  let (outcome, s) := s.attachReader store.instances
  outcome
  let (samples, s) := s.importAll store.fetch
  let samples ← samples
  let (outcome, s') := s.close
  outcome
  return ⟨s'.acts.header, samples⟩

end Archive

end ActivityArchive
