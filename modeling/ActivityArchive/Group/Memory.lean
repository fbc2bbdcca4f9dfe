import ActivityArchive.Group.Spec

/-!
Memory use and huge pages. Memory metrics come in families, which a configuration turns on and off;
huge pages are kept in kilobytes and written in bytes.
-/
namespace ActivityArchive.GroupSpec

open Record

/-- A metric of memory use, with its value and with what its reading changes, where it is not
made of others. -/
structure MemoryColumn where
  metric : Descriptor
  value : Memory → Value
  assign? : Option (UInt64 → Memory → Memory)

def memoryField (semantics : Semantics) (item : UInt32) (name : String) (get : Memory → UInt64)
    (set : UInt64 → Memory → Memory) : MemoryColumn where
  metric := ⟨.pack 60 1 item, name, .u64, semantics, none, .kbytes⟩
  value m := .u64 (get m)
  assign? := some set

/-- Megabytes, at most those of 32 bits. -/
def megabytes (kb : UInt64) : UInt32 :=
  if (kb / 1024).toNat < UInt32.size then (kb / 1024).toUInt32 else 4294967295

def ramColumns : List MemoryColumn :=
  [ ⟨⟨.pack 60 1 9, "hinv.physmem", .u32, .discrete, none, .mbytes⟩,
      fun m => .u32 (megabytes m.total), none⟩,
    memoryField .discrete 0 "mem.physmem" (·.total) (fun x m => { m with total := x }),
    memoryField .instant 2 "mem.util.free" (·.free) (fun x m => { m with free := x }),
    memoryField .instant 58 "mem.util.available" (·.available)
      (fun x m => { m with available := x }),
    ⟨⟨.pack 60 1 1, "mem.util.used", .u64, .instant, none, .kbytes⟩,
      fun m => .u64 (satSub m.total m.free), none⟩,
    memoryField .instant 4 "mem.util.bufmem" (·.buffers) (fun x m => { m with buffers := x }),
    memoryField .instant 5 "mem.util.cached" (·.cached) (fun x m => { m with cached := x }),
    memoryField .instant 26 "mem.util.committed_AS" (·.committed)
      (fun x m => { m with committed := x }),
    memoryField .instant 14 "mem.util.active" (·.active) (fun x m => { m with active := x }),
    memoryField .instant 15 "mem.util.inactive" (·.inactive)
      (fun x m => { m with inactive := x }),
    memoryField .instant 22 "mem.util.dirty" (·.dirty) (fun x m => { m with dirty := x }) ]

def kernelColumns : List MemoryColumn :=
  [ memoryField .instant 30 "mem.util.anonpages" (·.anonPages)
      (fun x m => { m with anonPages := x }),
    memoryField .instant 25 "mem.util.slab" (·.slab) (fun x m => { m with slab := x }),
    memoryField .instant 43 "mem.util.kernelStack" (·.kernelStack)
      (fun x m => { m with kernelStack := x }),
    memoryField .instant 27 "mem.util.pageTables" (·.pageTables)
      (fun x m => { m with pageTables := x }),
    memoryField .instant 51 "mem.util.vmallocUsed" (·.vmallocUsed)
      (fun x m => { m with vmallocUsed := x }) ]

def swapColumns : List MemoryColumn :=
  [ memoryField .instant 21 "mem.util.swapFree" (·.swapFree)
      (fun x m => { m with swapFree := x }),
    memoryField .instant 20 "mem.util.swapTotal" (·.swapTotal)
      (fun x m => { m with swapTotal := x }),
    memoryField .instant 13 "mem.util.swapCached" (·.swapCached)
      (fun x m => { m with swapCached := x }) ]

def memoryColumns : List MemoryColumn := ramColumns ++ kernelColumns ++ swapColumns

/-- The indices of the metrics of the families that are on. -/
def shownMemory (families : MemoryFamilies) : List Nat :=
  (if families.ram then List.range' 0 11 else []) ++
    (if families.all then List.range' 11 5 else []) ++
    (if families.swap then List.range' 16 3 else [])

def memory : GroupSpec where
  name := "memory"
  metrics := memoryColumns.map (·.metric)
  isPresent acts := 0 < acts.memory.count
  define view := (shownMemory view.config.memory).map .metric
  emit view := (view.acts, match single? view .memory with
    | some m => (singular 0 (memoryColumns.map (·.value m))).filter fun e =>
        match e with
        | .value idx _ _ => view.isDefined idx
        | _ => true
    | none => [])
  absorb view idx readings := absorbSingle .memory view.slot (fun (_, v) =>
    match view.word64? idx v, memoryColumns[idx]?.bind (·.assign?) with
    | some x, some assign => some (assign x)
    | _, _ => none) (readings.take 1)
  finish _ := id

/-- A count of huge pages: its metric, its field in kilobytes. -/
structure HugeColumn where
  item : UInt32
  name : String
  get : HugePages → UInt64
  set : UInt64 → HugePages → HugePages

def hugeColumns : List HugeColumn :=
  [ ⟨60, "mem.util.hugepagesTotalBytes", (·.total), fun x h => { h with total := x }⟩,
    ⟨61, "mem.util.hugepagesFreeBytes", (·.free), fun x h => { h with free := x }⟩,
    ⟨62, "mem.util.hugepagesRsvdBytes", (·.reserved), fun x h => { h with reserved := x }⟩,
    ⟨63, "mem.util.hugepagesSurpBytes", (·.surplus), fun x h => { h with surplus := x }⟩ ]

def hugePages : GroupSpec where
  name := "huge"
  metrics := hugeColumns.map fun c =>
    ⟨.pack 60 1 c.item, c.name, .u64, .instant, none, .bytes⟩
  isPresent acts := 0 < acts.huge.count
  define _ := [.table]
  emit view := (view.acts, match single? view .huge with
    | some h => singular 0 (hugeColumns.map fun c => .u64 (c.get h * 1024))
    | none => [])
  absorb view idx readings := absorbSingle .huge view.slot (fun (_, v) =>
    match view.word64? idx v, hugeColumns[idx]? with
    | some x, some c => some (c.set (x / 1024))
    | _, _ => none) (readings.take 1)
  finish _ := id

end ActivityArchive.GroupSpec
