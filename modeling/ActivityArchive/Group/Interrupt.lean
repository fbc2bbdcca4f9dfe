import ActivityArchive.Group.Spec

/-!
Interrupts. The aggregate row gives the sum and the total of each line; the row of a CPU gives the
count of each line on it, as an instance of its own. Numbers run on over all lines and CPUs.
-/
namespace ActivityArchive.GroupSpec

open Record

/-- Index of the sum of all lines. -/
def sumMetric : Nat := 0

/-- Index of the total of one line. -/
def lineMetric : Nat := 1

/-- Index of the count of one line on one CPU. -/
def cpuLineMetric : Nat := 2

/-- The name of line 0. -/
def sumLine : String := "sum"

def interruptMetrics : List Descriptor :=
  [ ⟨.pack 60 0 12, "kernel.all.intr", .u64, .counter, none, .count⟩,
    ⟨.pack 60 4 0, "kernel.all.interrupts.total", .u64, .counter,
      some Domain.interrupt, .count⟩,
    ⟨.pack 60 4 1, "kernel.percpu.interrupts", .u32, .counter, some Domain.perCpuInterrupt,
      .count⟩ ]

def defineInterrupts (a : Interrupts) : List Definition :=
  let lines := a.lines.drop 1
  let cpus := (List.range' 1 (a.count - 1)).filter a.selection.contains
  (if a.selection.contains 0 then
      [.metric sumMetric, .metric lineMetric] ++ lines.map (.entry Domain.interrupt · none)
    else []) ++
    (if cpus.isEmpty then [] else [.metric cpuLineMetric]) ++
    cpus.flatMap fun cpu => lines.map fun line =>
      .entry Domain.perCpuInterrupt (Domain.lineLabel line (cpu - 1)) none

/-- The value of one cell. Line 0 has none on a CPU, and counts of a CPU keep their low 32 bits. -/
def cellEmissions (isDefined : Nat → Bool) (cpu line : Nat) (name : String) (count : UInt64) :
    List Emission :=
  if cpu = 0 then
    if line = 0 then
      if isDefined sumMetric then [.value sumMetric none (.u64 count)] else []
    else if isDefined lineMetric then
      [.entry Domain.interrupt name none, .value lineMetric (some name) (.u64 count)]
    else []
  else if line ≠ 0 ∧ isDefined cpuLineMetric then
    let label := Domain.lineLabel name (cpu - 1)
    [.entry Domain.perCpuInterrupt label none,
      .value cpuLineMetric (some label) (.u32 count.toUInt32)]
  else []

/-- The values of one row, line by line. -/
def rowEmissions (isDefined : Nat → Bool) (lines : List String) (cpu : Nat) (row : List UInt64) :
    List Emission :=
  (lines.zip row).zipIdx.flatMap fun ((name, count), line) =>
    cellEmissions isDefined cpu line name count

def prepareInterrupts (a : Interrupts) (s : Slot) : Except BufferError Interrupts := do
  let a := { a with offline := .new a.count }
  if isAggregated a.count then
    let (grid, offline) ← aggregateInterrupts a.count a.grid s a.offline
    return { a with grid, offline }
  else return a

def emitInterrupts (isDefined : Nat → Bool) (a : Interrupts) (s : Slot) (rows : Nat) :
    Except BufferError (List Emission) := do
  let cpus := (List.range (min a.count rows)).filter fun cpu => isShown cpu a.selection a.offline
  let emitted ← cpus.mapM fun cpu => (a.grid.row s cpu).map (rowEmissions isDefined a.lines cpu)
  return emitted.flatten

/-- The row and the line that a reading belongs to. -/
def cellOf? (view : ImportView) (idx : Nat) (number : Option Int) : Option (Nat × String) :=
  if idx = sumMetric then some (0, sumLine)
  else if idx = lineMetric then (view.label? idx number).map fun line => (0, line)
  else ((view.label? idx number).bind Domain.splitLabel?).map fun (line, cpu) => (cpu + 1, line)

/-- Writes a count, with room made for its row and its line. -/
def absorbCell (a : Interrupts) (s : Slot) (cpu : Nat) (name : String) (count : UInt64) :
    Interrupts :=
  let a := (a.addLine sumLine).addLine name
  let grid := a.grid.observe s (cpu + 1) a.lines.length
  { a with grid := Interrupts.write s cpu grid (a.lineIndex name, count) }

def interrupts : GroupSpec where
  name := "irq"
  metrics := interruptMetrics
  isPresent acts := 0 < acts.irq.count
  define view := defineInterrupts view.acts.irq
  emit view :=
    let rows := (view.acts.irq.grid.observed.get view.slot).1
    if rows = 0 then (view.acts, [])
    else match prepareInterrupts view.acts.irq view.slot with
      | .ok a =>
        ({ view.acts with irq := a }, match emitInterrupts view.isDefined a view.slot rows with
          | .ok es => es
          | .error e => [.fault e])
      | .error e => (view.acts, [.fault e])
  absorb view idx readings acts :=
    readings.foldl (fun acts (number, v) =>
      match view.word64? idx v, cellOf? view idx number with
      | some count, some (cpu, name) =>
        { acts with irq := absorbCell acts.irq view.slot cpu name count }
      | _, _ => acts) acts
  finish _ := id

end ActivityArchive.GroupSpec
