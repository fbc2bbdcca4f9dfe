import ActivityArchive.Proofs.Group.SingleRestoring

/-!
What memory use comes back as: the fields of the families that are shown, the others blank. Where no
family is shown there is no record.
-/
namespace ActivityArchive

open Activities GroupSpec Record

/-- Whether some family is shown. -/
def MemoryFamilies.any (families : MemoryFamilies) : Bool :=
  families.ram || families.all || families.swap

/-- The fields of the families that are shown. -/
def MemoryFamilies.restrict (families : MemoryFamilies) (m : Memory) : Memory where
  total := if families.ram then m.total else 0
  free := if families.ram then m.free else 0
  available := if families.ram then m.available else 0
  buffers := if families.ram then m.buffers else 0
  cached := if families.ram then m.cached else 0
  committed := if families.ram then m.committed else 0
  active := if families.ram then m.active else 0
  inactive := if families.ram then m.inactive else 0
  dirty := if families.ram then m.dirty else 0
  anonPages := if families.all then m.anonPages else 0
  slab := if families.all then m.slab else 0
  kernelStack := if families.all then m.kernelStack else 0
  pageTables := if families.all then m.pageTables else 0
  vmallocUsed := if families.all then m.vmallocUsed else 0
  swapFree := if families.swap then m.swapFree else 0
  swapTotal := if families.swap then m.swapTotal else 0
  swapCached := if families.swap then m.swapCached else 0

/-- Whether the metric at an index is defined. -/
def MemoryFamilies.shows (families : MemoryFamilies) (idx : Nat) : Bool :=
  decide (idx ∈ shownMemory families)

variable (families : MemoryFamilies)

/-- The columns of the families that are shown, with their indices. -/
def shownColumns : List (MemoryColumn × Nat) :=
  (if families.ram then ramColumns.zipIdx else []) ++
    (if families.all then kernelColumns.zipIdx 11 else []) ++
    (if families.swap then swapColumns.zipIdx 16 else [])

theorem filter_shown :
    memoryColumns.zipIdx.filter (fun x => families.shows x.2) = shownColumns families := by
  obtain ⟨ram, all, swap⟩ := families
  cases ram <;> cases all <;> cases swap <;> rfl

theorem mem_shownColumns {x : MemoryColumn × Nat} (h : x ∈ shownColumns families) :
    memoryColumns[x.2]? = some x.1 := by
  rw [← filter_shown] at h
  exact List.mk_mem_zipIdx_iff_getElem?.mp (List.mem_filter.mp h).1

def memoryReadings (m : Memory) : List (Nat × List Reading) :=
  (shownColumns families).map fun x => (x.2, [(none, x.1.value m)])

def memoryChange (view : ImportView) (c : Nat × List Reading) : List (Memory → Memory) :=
  (c.2.take 1).filterMap fun x =>
    match view.word64? c.1 x.2, memoryColumns[c.1]?.bind (·.assign?) with
    | some n, some assign => some (assign n)
    | _, _ => none

theorem writeMemory_eq (m : Memory) :
    writeMemory (families.shows) m =
      (shownColumns families).map fun x => .value x.2 none (x.1.value m) := by
  rw [writeMemory, ← filter_shown, singular, List.mapIdx_eq_zipIdx_map, List.zipIdx_map,
    List.map_map, List.filter_map]
  congr 1
  funext x
  simp

theorem kind_memory {x : MemoryColumn} (hx : x ∈ memoryColumns) (m : Memory) :
    (x.value m).kind = x.metric.kind := by
  have hkinds : memoryColumns.map (fun x => (x.value m).kind) =
      memoryColumns.map (·.metric.kind) := rfl
  exact List.map_inj_left.mp hkinds x hx

theorem exact_memory {x : MemoryColumn} (hx : x ∈ memoryColumns) (m : Memory) :
    (x.value m).Exact := by
  have hwords : ∀ k ∈ memoryColumns.map (·.metric.kind), k = .u32 ∨ k = .u64 := by decide
  have hk := hwords _ (List.mem_map_of_mem hx)
  rw [← kind_memory hx m] at hk
  exact hk.elim Or.inl fun h => Or.inr (Or.inl h)

/-- What the families that are shown change, field by field. -/
def memoryChanges (m : Memory) : List (Memory → Memory) :=
  (if families.ram then
    [fun r => { r with total := m.total }, fun r => { r with free := m.free },
      fun r => { r with available := m.available }, fun r => { r with buffers := m.buffers },
      fun r => { r with cached := m.cached }, fun r => { r with committed := m.committed },
      fun r => { r with active := m.active }, fun r => { r with inactive := m.inactive },
      fun r => { r with dirty := m.dirty }] else []) ++
    (if families.all then
      [fun r => { r with anonPages := m.anonPages }, fun r => { r with slab := m.slab },
        fun r => { r with kernelStack := m.kernelStack },
        fun r => { r with pageTables := m.pageTables },
        fun r => { r with vmallocUsed := m.vmallocUsed }] else []) ++
    (if families.swap then
      [fun r => { r with swapFree := m.swapFree }, fun r => { r with swapTotal := m.swapTotal },
        fun r => { r with swapCached := m.swapCached }] else [])

/-- What one column changes, where it is a field. -/
def columnChange? (m : Memory) (x : MemoryColumn) : Option (Memory → Memory) :=
  x.assign?.bind fun assign => (x.value m).word64?.map assign

theorem flatMap_memoryChange (registry : Registry) (m : Memory) :
    (memoryReadings families m).flatMap (memoryChange ⟨Group.memory.metrics, registry, .curr⟩) =
      (shownColumns families).filterMap fun x => columnChange? m x.1 := by
  have hone : ∀ x ∈ shownColumns families,
      memoryChange ⟨Group.memory.metrics, registry, .curr⟩ (x.2, [(none, x.1.value m)]) =
        (columnChange? m x.1).toList := by
    intro x hx
    have hcol := mem_shownColumns families hx
    have hk := kind_memory (List.mem_of_getElem? hcol) m
    have haccepts : (⟨Group.memory.metrics, registry, .curr⟩ : ImportView).accepts x.2
      (x.1.value m) =
        true := by
      refine accepts_of_kind ?_
      show (memoryColumns.map (·.metric))[x.2]?.map (·.kind) = _
      rw [List.getElem?_map, hcol, hk]
      rfl
    have hword : (⟨Group.memory.metrics, registry, .curr⟩ : ImportView).word64? x.2
      (x.1.value m) =
        (x.1.value m).word64? := if_pos haccepts
    simp only [memoryChange, List.take, List.filterMap_cons, List.filterMap_nil,
      columnChange?, hword, hcol, Option.bind_some]
    cases x.1.assign? with
    | none => cases (x.1.value m).word64? <;> rfl
    | some assign => cases (x.1.value m).word64? <;> rfl
  rw [memoryReadings, List.flatMap_map, List.filterMap_eq_flatMap_toList]
  exact List.flatMap_congr hone

theorem filterMap_columnChange (m : Memory) :
    (shownColumns families).filterMap (fun x => columnChange? m x.1) =
    memoryChanges families m := by
  obtain ⟨ram, all, swap⟩ := families
  cases ram <;> cases all <;> cases swap <;> rfl

theorem changed_memory (m : Memory) :
    changed (k := .memory) (memoryChanges families m) =
      if families.any then some (families.restrict m) else none := by
  have hblank : (default : Single.memory.Rec) = ({} : Memory) := rfl
  rw [changed_eq, hblank]
  obtain ⟨ram, all, swap⟩ := families
  cases ram <;> cases all <;> cases swap <;>
    simp [memoryChanges, MemoryFamilies.any, MemoryFamilies.restrict]

theorem restores_memory :
    Restores .memory .memory writeMemory families.shows (fun _ => True)
      fun m => if families.any then some (families.restrict m) else none := by
  refine restores_of_columns (memoryReadings families) memoryChange rfl memory_writes
    ?_ ?_ ?_ ?_ ?_
  · intro m idx label v he _
    rw [writeMemory_eq] at he
    obtain ⟨x, hx, he⟩ := List.mem_map.mp he
    cases he
    have hcol := mem_shownColumns families hx
    refine ⟨exact_memory (List.mem_of_getElem? hcol) m, ?_⟩
    show (memoryColumns.map (·.metric))[x.2]?.map (·.kind) = _
    rw [List.getElem?_map, hcol, kind_memory (List.mem_of_getElem? hcol) m]
    rfl
  · intro st m _
    rw [writeMemory_eq]
    exact readings_values Group.memory st (fun c : MemoryColumn => c.value m)
      (shownColumns families)
  · intro m
    have hnd : (memoryColumns.zipIdx.map (·.2)).Nodup :=
      (List.zipIdx_map_snd 0 memoryColumns).symm ▸ List.nodup_range'
    refine columnar_values (fun c : MemoryColumn => c.value m) ?_ fun x hx => ?_
    · rw [← filter_shown]
      exact hnd.sublist (List.filter_sublist.map _)
    · show x.2 < (memoryColumns.map (·.metric)).length
      rw [List.length_map]
      exact (List.getElem?_eq_some_iff.mp (mem_shownColumns families hx)).1
  · intro view c acts
    exact absorbSingle_eq _ _ _ _
  · intro registry m _
    rw [flatMap_memoryChange, filterMap_columnChange]
    exact changed_memory families m

end ActivityArchive
