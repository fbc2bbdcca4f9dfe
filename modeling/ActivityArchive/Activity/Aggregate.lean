import ActivityArchive.Buffer.Grid
import ActivityArchive.Record.Network
import ActivityArchive.Record.System
import ActivityArchive.Selection.Bitmap

/-!
Offline units and the aggregate of all units. A unit whose record is blank is offline: its last
known counters stand in for it, so that the aggregate does not fall. Sums stay within a word, and an
interval that would be negative is zero.
-/
namespace ActivityArchive

open Record

/-- The difference of two counters, zero where it would be negative. -/
def satSub (a b : UInt64) : UInt64 := if b ≤ a then a - b else 0

/-- Ticks of one CPU between two samples. -/
def cpuInterval (curr prev : CpuTimes) : UInt64 := satSub curr.ticks prev.ticks

/-- The units `1` up to, but not including, `count` that both samples have: number, record now,
record before. -/
def units {R : Type} (count : Nat) (curr prev : List R) : List (Nat × R × R) :=
  (((curr.zip prev).take count).drop 1).zipIdx 1 |>.map fun (p, i) => (i, p)

section

variable {R : Type} [Inhabited R] [DecidableEq R]

/-- The counters that stand for a unit. -/
def lastKnown (curr prev : R) : R := if curr = default then prev else curr

/-- The numbers of the offline units. -/
def offlineUnits (us : List (Nat × R × R)) : List Nat :=
  (us.filter fun u => u.2.1 = default).map (·.1)

/-- The records of a slot with last known counters for offline units, and with the aggregate of all
units as record 0. -/
def withAggregate (add : R → R → R) (us : List (Nat × R × R)) (curr : List R) : List R :=
  match curr with
  | [] => []
  | _ :: rest =>
    let known := us.map fun u => lastKnown u.2.1 u.2.2
    known.foldl add default :: known ++ rest.drop known.length

end

/-- Aggregates the CPUs of a slot; the interval is that of the CPUs online. -/
def aggregateCpus (count : Nat) (curr prev : List CpuTimes) (offline : Bitmap) :
    UInt64 × List CpuTimes × Bitmap :=
  let us := units count curr prev
  let online := us.filter fun u => u.2.1 ≠ default
  ((online.map fun u => cpuInterval u.2.1 u.2.2).foldl (· + ·) 0,
    withAggregate CpuTimes.add us curr, offline.setAll (offlineUnits us))

def aggregateSoftnet (count : Nat) (curr prev : List Softnet) (offline : Bitmap) :
    List Softnet × Bitmap :=
  let us := units count curr prev
  (withAggregate Softnet.add us curr, offline.setAll (offlineUnits us))

/-- Sums line by line. -/
def addRows (a b : List UInt64) : List UInt64 := List.zipWith (· + ·) a b

/-- Sums the interrupt rows of the CPUs into row 0. A row of zeros is an offline CPU, for which
nothing stands in. -/
def aggregateInterrupts (count : Nat) (g : GridBuffer UInt64) (s : Slot) (offline : Bitmap) :
    Except BufferError (GridBuffer UInt64 × Bitmap) := do
  let count := min count g.cpus
  let rows ← (List.range' 1 (count - 1)).mapM fun cpu => (g.row s cpu).map fun r => (cpu, r)
  let idle := (rows.filter fun r => r.2.all (· == 0)).map (·.1)
  let sums := (rows.map (·.2)).foldl addRows (List.replicate g.lines 0)
  return (if 1 < count then g.setRow s 0 sums else g, offline.setAll idle)

end ActivityArchive
