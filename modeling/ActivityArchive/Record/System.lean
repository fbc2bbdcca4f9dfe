import ActivityArchive.Record.Field

/-!
Records of the system as a whole: the host, CPU times, interrupts, memory and the run queue.
Counters are kept as they were read.
-/
namespace ActivityArchive.Record

/-- Identification of the host, written with the first record only. -/
structure HostHeader where
  /-- Number of processors the collector saw. -/
  ncpu : UInt32 := 0
  /-- Clock ticks per second. -/
  hz : UInt32 := 0
  sysname : String := ""
  release : String := ""
  nodename : String := ""
  machine : String := ""

instance : Record HostHeader where
  default := {}
  fields :=
    [ .counter (.word32 "ncpu" (·.ncpu) (fun x r => { r with ncpu := x })),
      .counter (.word32 "hz" (·.hz) (fun x r => { r with hz := x })),
      .text "sysname" (·.sysname) (fun x r => { r with sysname := x }),
      .text "release" (·.release) (fun x r => { r with release := x }),
      .text "nodename" (·.nodename) (fun x r => { r with nodename := x }),
      .text "machine" (·.machine) (fun x r => { r with machine := x }) ]

structure Uptime where
  /-- Hundredths of a second. -/
  uptimeCs : UInt64 := 0

def Uptime.counters : List (Counter Uptime) :=
  [ .word64 "uptime_cs" (·.uptimeCs) (fun x r => { r with uptimeCs := x }) ]

instance : Record Uptime where
  default := {}
  fields := Uptime.counters.map .counter

/-- Ticks that a CPU spent, by purpose. `user` includes `guest`, and `nice` includes `guestNice`. -/
structure CpuTimes where
  user : UInt64 := 0
  nice : UInt64 := 0
  sys : UInt64 := 0
  idle : UInt64 := 0
  iowait : UInt64 := 0
  steal : UInt64 := 0
  hardirq : UInt64 := 0
  softirq : UInt64 := 0
  guest : UInt64 := 0
  guestNice : UInt64 := 0
  deriving DecidableEq

def CpuTimes.counters : List (Counter CpuTimes) :=
  [ .word64 "user" (·.user) (fun x r => { r with user := x }),
    .word64 "nice" (·.nice) (fun x r => { r with nice := x }),
    .word64 "sys" (·.sys) (fun x r => { r with sys := x }),
    .word64 "idle" (·.idle) (fun x r => { r with idle := x }),
    .word64 "iowait" (·.iowait) (fun x r => { r with iowait := x }),
    .word64 "steal" (·.steal) (fun x r => { r with steal := x }),
    .word64 "hardirq" (·.hardirq) (fun x r => { r with hardirq := x }),
    .word64 "softirq" (·.softirq) (fun x r => { r with softirq := x }),
    .word64 "guest" (·.guest) (fun x r => { r with guest := x }),
    .word64 "guest_nice" (·.guestNice) (fun x r => { r with guestNice := x }) ]

instance : Record CpuTimes where
  default := {}
  fields := CpuTimes.counters.map .counter

namespace CpuTimes

/-- All ticks of a CPU. Guest time is in user time already. -/
def ticks (c : CpuTimes) : UInt64 :=
  c.user + c.nice + c.sys + c.idle + c.iowait + c.hardirq + c.softirq + c.steal

/-- Field by field, each sum within a word. -/
def add (a b : CpuTimes) : CpuTimes where
  user := a.user + b.user
  nice := a.nice + b.nice
  sys := a.sys + b.sys
  idle := a.idle + b.idle
  iowait := a.iowait + b.iowait
  steal := a.steal + b.steal
  hardirq := a.hardirq + b.hardirq
  softirq := a.softirq + b.softirq
  guest := a.guest + b.guest
  guestNice := a.guestNice + b.guestNice

/-- The times before guest time was taken off. -/
def withGuest (c : CpuTimes) : CpuTimes :=
  { c with user := c.user + c.guest, nice := c.nice + c.guestNice }

/-- What is shown for a CPU that did not tick. -/
def tickless : CpuTimes := { idle := 100 }

end CpuTimes

/-- Context switches, and tasks created. -/
structure TaskSwitches where
  contextSwitch : UInt64 := 0
  processes : UInt64 := 0

def TaskSwitches.counters : List (Counter TaskSwitches) :=
  [ .word64 "context_switch" (·.contextSwitch) (fun x r => { r with contextSwitch := x }),
    .word64 "processes" (·.processes) (fun x r => { r with processes := x }) ]

instance : Record TaskSwitches where
  default := {}
  fields := TaskSwitches.counters.map .counter

/-- Interrupt counts of one sample. Line 0 is the sum; `counts` holds a row for each CPU with a
count for each line, row 0 being the aggregate. -/
structure InterruptTable where
  lines : List String := []
  counts : List (List UInt64) := []
  deriving DecidableEq

instance : Inhabited InterruptTable := ⟨{}⟩

def InterruptTable.shape : Json.Shape InterruptTable where
  blank := {}
  members :=
    [ .plain "lines" .anywhere (.list .text) (·.lines) (fun x t => { t with lines := x }),
      .plain "counts" .anywhere (.list (.list .word64)) (·.counts)
        (fun x t => { t with counts := x }) ]

/-- Pages swapped in and out. -/
structure Swap where
  pswpin : UInt32 := 0
  pswpout : UInt64 := 0

def Swap.counters : List (Counter Swap) :=
  [ .word32 "pswpin" (·.pswpin) (fun x r => { r with pswpin := x }),
    .word64 "pswpout" (·.pswpout) (fun x r => { r with pswpout := x }) ]

instance : Record Swap where
  default := {}
  fields := Swap.counters.map .counter

structure Paging where
  pgpgin : UInt64 := 0
  pgpgout : UInt64 := 0
  pgfault : UInt64 := 0
  pgmajfault : UInt64 := 0
  pgfree : UInt64 := 0
  pgscanDirect : UInt64 := 0
  pgscanKswapd : UInt64 := 0
  pgsteal : UInt64 := 0
  pgdemote : UInt64 := 0
  pgpromote : UInt64 := 0

def Paging.counters : List (Counter Paging) :=
  [ .word64 "pgpgin" (·.pgpgin) (fun x r => { r with pgpgin := x }),
    .word64 "pgpgout" (·.pgpgout) (fun x r => { r with pgpgout := x }),
    .word64 "pgfault" (·.pgfault) (fun x r => { r with pgfault := x }),
    .word64 "pgmajfault" (·.pgmajfault) (fun x r => { r with pgmajfault := x }),
    .word64 "pgfree" (·.pgfree) (fun x r => { r with pgfree := x }),
    .word64 "pgscan_direct" (·.pgscanDirect) (fun x r => { r with pgscanDirect := x }),
    .word64 "pgscan_kswapd" (·.pgscanKswapd) (fun x r => { r with pgscanKswapd := x }),
    .word64 "pgsteal" (·.pgsteal) (fun x r => { r with pgsteal := x }),
    .word64 "pgdemote" (·.pgdemote) (fun x r => { r with pgdemote := x }),
    .word64 "pgpromote" (·.pgpromote) (fun x r => { r with pgpromote := x }) ]

instance : Record Paging where
  default := {}
  fields := Paging.counters.map .counter

/-- Requests and kilobytes of all block devices together. -/
structure BlockIo where
  total : UInt64 := 0
  rio : UInt64 := 0
  wio : UInt64 := 0
  dio : UInt64 := 0
  rkb : UInt64 := 0
  wkb : UInt64 := 0
  dkb : UInt64 := 0

def BlockIo.counters : List (Counter BlockIo) :=
  [ .word64 "total" (·.total) (fun x r => { r with total := x }),
    .word64 "rio" (·.rio) (fun x r => { r with rio := x }),
    .word64 "wio" (·.wio) (fun x r => { r with wio := x }),
    .word64 "dio" (·.dio) (fun x r => { r with dio := x }),
    .word64 "rkb" (·.rkb) (fun x r => { r with rkb := x }),
    .word64 "wkb" (·.wkb) (fun x r => { r with wkb := x }),
    .word64 "dkb" (·.dkb) (fun x r => { r with dkb := x }) ]

instance : Record BlockIo where
  default := {}
  fields := BlockIo.counters.map .counter

/-- Memory use in kilobytes. -/
structure Memory where
  total : UInt64 := 0
  free : UInt64 := 0
  available : UInt64 := 0
  buffers : UInt64 := 0
  cached : UInt64 := 0
  committed : UInt64 := 0
  active : UInt64 := 0
  inactive : UInt64 := 0
  dirty : UInt64 := 0
  anonPages : UInt64 := 0
  slab : UInt64 := 0
  kernelStack : UInt64 := 0
  pageTables : UInt64 := 0
  vmallocUsed : UInt64 := 0
  swapFree : UInt64 := 0
  swapTotal : UInt64 := 0
  swapCached : UInt64 := 0

def Memory.counters : List (Counter Memory) :=
  [ .word64 "total" (·.total) (fun x r => { r with total := x }),
    .word64 "free" (·.free) (fun x r => { r with free := x }),
    .word64 "available" (·.available) (fun x r => { r with available := x }),
    .word64 "buffers" (·.buffers) (fun x r => { r with buffers := x }),
    .word64 "cached" (·.cached) (fun x r => { r with cached := x }),
    .word64 "committed" (·.committed) (fun x r => { r with committed := x }),
    .word64 "active" (·.active) (fun x r => { r with active := x }),
    .word64 "inactive" (·.inactive) (fun x r => { r with inactive := x }),
    .word64 "dirty" (·.dirty) (fun x r => { r with dirty := x }),
    .word64 "anon_pages" (·.anonPages) (fun x r => { r with anonPages := x }),
    .word64 "slab" (·.slab) (fun x r => { r with slab := x }),
    .word64 "kernel_stack" (·.kernelStack) (fun x r => { r with kernelStack := x }),
    .word64 "page_tables" (·.pageTables) (fun x r => { r with pageTables := x }),
    .word64 "vmalloc_used" (·.vmallocUsed) (fun x r => { r with vmallocUsed := x }),
    .word64 "swap_free" (·.swapFree) (fun x r => { r with swapFree := x }),
    .word64 "swap_total" (·.swapTotal) (fun x r => { r with swapTotal := x }),
    .word64 "swap_cached" (·.swapCached) (fun x r => { r with swapCached := x }) ]

instance : Record Memory where
  default := {}
  fields := Memory.counters.map .counter

/-- Sizes of kernel tables. -/
structure KernelTables where
  dentry : UInt32 := 0
  fileUsed : UInt32 := 0
  inodeUsed : UInt32 := 0
  ptyNr : UInt32 := 0

def KernelTables.counters : List (Counter KernelTables) :=
  [ .word32 "dentry" (·.dentry) (fun x r => { r with dentry := x }),
    .word32 "file_used" (·.fileUsed) (fun x r => { r with fileUsed := x }),
    .word32 "inode_used" (·.inodeUsed) (fun x r => { r with inodeUsed := x }),
    .word32 "pty_nr" (·.ptyNr) (fun x r => { r with ptyNr := x }) ]

instance : Record KernelTables where
  default := {}
  fields := KernelTables.counters.map .counter

/-- Tasks, and load averages in hundredths. -/
structure RunQueue where
  nrRunning : UInt32 := 0
  nrThreads : UInt32 := 0
  procsBlocked : UInt64 := 0
  loadAvg1 : UInt32 := 0
  loadAvg5 : UInt32 := 0
  loadAvg15 : UInt32 := 0

def RunQueue.counters : List (Counter RunQueue) :=
  [ .word32 "nr_running" (·.nrRunning) (fun x r => { r with nrRunning := x }),
    .word32 "nr_threads" (·.nrThreads) (fun x r => { r with nrThreads := x }),
    .word64 "procs_blocked" (·.procsBlocked) (fun x r => { r with procsBlocked := x }),
    .word32 "load_avg_1" (·.loadAvg1) (fun x r => { r with loadAvg1 := x }),
    .word32 "load_avg_5" (·.loadAvg5) (fun x r => { r with loadAvg5 := x }),
    .word32 "load_avg_15" (·.loadAvg15) (fun x r => { r with loadAvg15 := x }) ]

instance : Record RunQueue where
  default := {}
  fields := RunQueue.counters.map .counter

/-- Huge pages in kilobytes. -/
structure HugePages where
  total : UInt64 := 0
  free : UInt64 := 0
  reserved : UInt64 := 0
  surplus : UInt64 := 0

def HugePages.counters : List (Counter HugePages) :=
  [ .word64 "total" (·.total) (fun x r => { r with total := x }),
    .word64 "free" (·.free) (fun x r => { r with free := x }),
    .word64 "reserved" (·.reserved) (fun x r => { r with reserved := x }),
    .word64 "surplus" (·.surplus) (fun x r => { r with surplus := x }) ]

instance : Record HugePages where
  default := {}
  fields := HugePages.counters.map .counter

/-- Pressure of one resource: averages in hundredths of a percent over 10, 60 and 300 seconds,
totals in microseconds. -/
structure Pressure where
  someAvg : Window := {}
  someTotal : UInt64 := 0
  fullAvg : Window := {}
  fullTotal : UInt64 := 0

instance : Record Pressure where
  default := {}
  fields :=
    [ .window "some_avg" (·.someAvg) (fun x r => { r with someAvg := x }),
      .counter (.word64 "some_total" (·.someTotal) (fun x r => { r with someTotal := x })),
      .window "full_avg" (·.fullAvg) (fun x r => { r with fullAvg := x }),
      .counter (.word64 "full_total" (·.fullTotal) (fun x r => { r with fullTotal := x })) ]

end ActivityArchive.Record
