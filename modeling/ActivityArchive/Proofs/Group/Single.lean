import ActivityArchive.Group.All
import ActivityArchive.Proofs.Activity.Parts

/-!
Groups of one record. Such a group writes what a function gives for the record, if a sample has one,
and takes readings into that record only (`Writes`).
-/
namespace ActivityArchive.GroupSpec

open Activities

/-- What a group writes of a record, given which of its metrics are defined. -/
abbrev Writer (k : Single) := (Nat → Bool) → k.Rec → List Emission

structure Writes (g : GroupSpec) (k : Single) (F : Writer k) : Prop where
  emit : ∀ view, g.emit view = (view.acts, ((single? view k).map (F view.isDefined)).getD [])
  absorb : ∀ view idx readings, ∃ change rs,
    g.absorb view idx readings = absorbSingle k view.slot change rs
  finish : ∀ s, g.finish s = id

variable {k : Single} {g : GroupSpec}

theorem writes_of_cases {F : Writer k} (hsome : ∀ view r, single? view k = some r →
      g.emit view = (view.acts, F view.isDefined r))
    (hnone : ∀ view, single? view k = none → g.emit view = (view.acts, []))
    (habsorb : ∀ view idx readings, ∃ change rs,
      g.absorb view idx readings = absorbSingle k view.slot change rs)
    (hfinish : ∀ s, g.finish s = id) : g.Writes k F where
  emit view := by
    cases hr : single? view k with
    | some r => exact hsome view r hr
    | none => exact hnone view hr
  absorb := habsorb
  finish := hfinish

theorem flat_writes (name : String) (k : Single) (counters : List (Counter k.Rec))
    (rows : List Row) :
    (flat name k counters rows).Writes k fun _ r => singular 0 (counters.map (·.value r)) :=
  writes_of_cases (fun _ _ h => by simp [flat, h]) (fun _ h => by simp [flat, h])
    (fun _ _ _ => ⟨_, _, rfl⟩) (fun _ => rfl)

theorem uptime_writes : uptime.Writes .record fun _ r =>
    singular 0 [.double (r.uptimeCs.toFloat / 100)] :=
  writes_of_cases (fun _ _ h => by simp [uptime, singular, h]) (fun _ h => by simp [uptime, h])
    (fun _ _ _ => ⟨_, _, rfl⟩) (fun _ => rfl)

def writeMemory : Writer .memory := fun isDefined m =>
  (singular 0 (memoryColumns.map (·.value m))).filter fun e =>
    match e with
    | .value idx _ _ => isDefined idx
    | _ => true

theorem memory_writes : memory.Writes .memory writeMemory :=
  writes_of_cases
    (fun _ _ h => by
      simp only [memory, h]
      rfl)
    (fun _ h => by simp [memory, h])
    (fun _ _ _ => ⟨_, _, rfl⟩) (fun _ => rfl)

theorem hugePages_writes : hugePages.Writes .huge fun _ h =>
    singular 0 (hugeColumns.map fun c => .u64 (c.get h * 1024)) :=
  writes_of_cases (fun _ _ h => by simp [hugePages, h]) (fun _ h => by simp [hugePages, h])
    (fun _ _ _ => ⟨_, _, rfl⟩) (fun _ => rfl)

theorem runQueue_writes : runQueue.Writes .queue fun _ q =>
    singular 0 [.u32 q.nrRunning, .u32 q.nrThreads, .u64 q.procsBlocked] ++
      emitFixed 3 Domain.loadPeriods
        ([q.loadAvg1, q.loadAvg5, q.loadAvg15].map fun n => .ofHundredths n.toUInt64) :=
  writes_of_cases (fun _ _ h => by simp [runQueue, h]) (fun _ h => by simp [runQueue, h])
    (fun _ _ _ => ⟨_, _, rfl⟩) (fun _ => rfl)

theorem nfsClient_writes : nfsClient.Writes .nfs fun _ n =>
    singular 0 [.u32 n.rpccnt, .u32 n.rpcretrans] ++
      emitFixed 2 Domain.nfsRequests
        ([n.getattcnt, n.readcnt, n.writecnt, n.accesscnt].map .u32) :=
  writes_of_cases (fun _ _ h => by simp [nfsClient, h]) (fun _ h => by simp [nfsClient, h])
    (fun _ _ _ => ⟨_, _, rfl⟩) (fun _ => rfl)

theorem nfsServer_writes : nfsServer.Writes .nfsd fun _ n =>
    singular 0 ([n.rpccnt, n.rpcbad, n.netcnt, n.netudpcnt, n.nettcpcnt, n.rchits,
        n.rcmisses].map .u64) ++
      emitFixed 7 Domain.nfsRequests
        ([n.getattcnt, n.readcnt, n.writecnt, n.accesscnt].map .u64) :=
  writes_of_cases (fun _ _ h => by simp [nfsServer, h]) (fun _ h => by simp [nfsServer, h])
    (fun _ _ _ => ⟨_, _, rfl⟩) (fun _ => rfl)

theorem cpuPressure_writes : cpuPressure.Writes .psiCpu fun _ p =>
    emitPressure 0 p.someAvg p.someTotal :=
  writes_of_cases (fun _ _ h => by simp [cpuPressure, h]) (fun _ h => by simp [cpuPressure, h])
    (fun _ _ _ => ⟨_, _, rfl⟩) (fun _ => rfl)

theorem ioPressure_writes : ioPressure.Writes .psiIo fun _ => emitBoth :=
  ⟨fun _ => rfl, fun _ _ _ => ⟨_, _, rfl⟩, fun _ => rfl⟩

theorem memoryPressure_writes : memoryPressure.Writes .psiMem fun _ => emitBoth :=
  ⟨fun _ => rfl, fun _ _ _ => ⟨_, _, rfl⟩, fun _ => rfl⟩

end ActivityArchive.GroupSpec
