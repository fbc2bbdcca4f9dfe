import ActivityArchive.Proofs.Group.SingleRestoring

/-!
The host is restored from the first record, where it is written, and no other record changes it.
-/
namespace ActivityArchive

open Activities GroupSpec Record

def hostReadings (h : HostHeader) : List (Nat × List Reading) :=
  [(0, [(none, .u32 h.ncpu)]), (1, [(none, .u32 h.hz)]), (2, [(none, .string h.release)]),
    (3, [(none, .string h.sysname)]), (4, [(none, .string h.machine)]),
    (5, [(none, .string h.nodename)])]

theorem readsBack_host (h : HostHeader) :
    Group.fileHeader.ReadsBack (fun _ => true) (singular 0 (hostColumns.map (·.value h))) := by
  refine readsBack_singular ?_ ⟨[], rfl⟩
  have hkinds : (hostColumns.map (·.value h)).map (·.kind) =
      [.u32, .u32, .string, .string, .string, .string] := rfl
  intro v hv
  have hk : v.kind ∈ [Kind.u32, .u32, .string, .string, .string, .string] :=
    hkinds ▸ List.mem_map_of_mem hv
  simp only [List.mem_cons, List.not_mem_nil, or_false] at hk
  rcases hk with hk | hk | hk | hk | hk | hk
  all_goals simp [Value.Exact, hk]

theorem header_taken (st : Store) (registry : Registry) (h : HostHeader) (acts : Activities) :
    (Session.takeAll registry (Store.gather ((Group.fileHeader.readings st (fun _ => true)
      (singular 0 (hostColumns.map (·.value h)))).map
        fun x => (Group.fileHeader.idOf x.1, x.2))) acts).header = h := by
  have hcols : Group.fileHeader.readings st (fun _ => true)
      (singular 0 (hostColumns.map (·.value h))) =
        (hostReadings h).flatMap fun c => c.2.map fun x => (c.1, x) := by
    rw [readings_singular]
    rfl
  have hshape : Group.fileHeader.Columnar (columnShape (hostReadings h)) := by
    show Group.fileHeader.Columnar [(0, 1), (1, 1), (2, 1), (3, 1), (4, 1), (5, 1)]
    decide
  rw [hcols, Session.takeAll_gather hshape]
  have hstep : ∀ idx v f (acts : Activities),
      Group.fileHeader.metrics[idx]?.map (·.kind) = some v.kind →
      hostColumns[idx]?.bind (·.assign? v) = some f →
      Group.fileHeader.spec.absorb ⟨Group.fileHeader.metrics, registry, .curr⟩ idx
        [(none, v)] acts =
        { acts with header := f acts.header } := by
    intro idx v f acts hk hf
    have haccepts : (⟨Group.fileHeader.metrics, registry, .curr⟩ : ImportView).accepts idx v =
        true :=
      accepts_of_kind hk
    exact absorb_host haccepts hf
  have hword : ∀ (n : UInt32) (set : UInt32 → HostHeader → HostHeader),
      ((Value.u32 n).word32?).map set = some (set n) := by
    intro n set
    rw [Value.word32?_u32]
    rfl
  simp only [hostReadings, List.foldl_cons, List.foldl_nil]
  rw [hstep 0 _ _ _ rfl (hword _ _), hstep 1 _ _ _ rfl (hword _ _), hstep 2 _ _ _ rfl rfl,
    hstep 3 _ _ _ rfl rfl, hstep 4 _ _ _ rfl rfl, hstep 5 _ _ _ rfl rfl]

end ActivityArchive
