import ActivityArchive.Proofs.Group.FlatRestoring
import ActivityArchive.Proofs.Instance.Rules

/-!
The other groups of one record that restore it: huge pages up to the range of their counts in bytes,
NFS with its requests, and of memory the families that are shown.
-/
namespace ActivityArchive

open Activities GroupSpec Record

theorem word64?_u64 {view : ImportView} {idx : Nat}
    (h : view.metrics[idx]?.map (·.kind) = some .u64) (x : UInt64) :
    view.word64? idx (.u64 x) = some x := by
  have haccepts : view.accepts idx (.u64 x) = true := accepts_of_kind h
  rw [ImportView.word64?, if_pos haccepts]
  rfl

theorem word32?_u32 {view : ImportView} {idx : Nat}
    (h : view.metrics[idx]?.map (·.kind) = some .u32) (x : UInt32) :
    view.word32? idx (.u32 x) = some x := by
  have haccepts : view.accepts idx (.u32 x) = true := accepts_of_kind h
  rw [ImportView.word32?, if_pos haccepts]
  exact Value.word32?_u32 x

/-- No count of huge pages goes past a word when it is written in bytes. -/
def HugeFits (h : HugePages) : Prop :=
  h.total.toNat * 1024 < UInt64.size ∧ h.free.toNat * 1024 < UInt64.size ∧
    h.reserved.toNat * 1024 < UInt64.size ∧ h.surplus.toNat * 1024 < UInt64.size

instance (h : HugePages) : Decidable (HugeFits h) :=
  inferInstanceAs (Decidable (h.total.toNat * 1024 < UInt64.size ∧
    h.free.toNat * 1024 < UInt64.size ∧
    h.reserved.toNat * 1024 < UInt64.size ∧ h.surplus.toNat * 1024 < UInt64.size))

def hugeReadings (h : HugePages) : List (Nat × List Reading) :=
  [(0, [(none, .u64 (h.total * 1024))]), (1, [(none, .u64 (h.free * 1024))]),
    (2, [(none, .u64 (h.reserved * 1024))]), (3, [(none, .u64 (h.surplus * 1024))])]

def hugeChange (view : ImportView) (c : Nat × List Reading) : List (HugePages → HugePages) :=
  (c.2.take 1).filterMap fun x =>
    match view.word64? c.1 x.2, hugeColumns[c.1]? with
    | some n, some column => some (column.set (n / 1024))
    | _, _ => none

theorem restores_hugePages (defined : Nat → Bool) :
    Restores .hugePages .huge
      (fun _ h => singular 0 (hugeColumns.map fun c => .u64 (c.get h * 1024)))
      defined HugeFits some := by
  refine restores_of_columns hugeReadings hugeChange rfl hugePages_writes ?_ ?_ ?_ ?_ ?_
  · intro h idx label v he _
    obtain ⟨i, hv, rfl⟩ := mem_singular he
    rw [List.getElem?_map, Option.map_eq_some_iff] at hv
    obtain ⟨c, hc, rfl⟩ := hv
    refine ⟨Value.exact_u64 _, ?_⟩
    simp [Group.metrics, Group.spec, hugePages, hc, Value.kind]
  · intro st h _
    rw [readings_singular]
    rfl
  · intro h
    show Group.hugePages.Columnar [(0, 1), (1, 1), (2, 1), (3, 1)]
    decide
  · intro view c acts
    exact absorbSingle_eq _ _ _ _
  · intro registry h hfits
    obtain ⟨htotal, hfree, hreserved, hsurplus⟩ := hfits
    have hchanged : changed (k := .huge) ((hugeReadings h).flatMap
        (hugeChange ⟨Group.hugePages.metrics, registry, .curr⟩)) =
          some (HugePages.mk (h.total * 1024 / 1024) (h.free * 1024 / 1024)
            (h.reserved * 1024 / 1024) (h.surplus * 1024 / 1024)) := rfl
    have hpos : 0 < (1024 : UInt64).toNat := by decide
    rw [hchanged, mul_div_word hpos htotal, mul_div_word hpos hfree, mul_div_word hpos hreserved,
      mul_div_word hpos hsurplus]

theorem readings_append (g : Group) (st : Store) (counts : Nat → Bool) (es fs : List Emission) :
    g.readings st counts (es ++ fs) = g.readings st counts es ++ g.readings st counts fs :=
  List.filterMap_append

section ReadsBack

variable {g : Group} {counts : Nat → Bool} {es fs : List Emission} {vs : List Value}

theorem readsBack_append (h : g.ReadsBack counts es) (h' : g.ReadsBack counts fs) :
    g.ReadsBack counts (es ++ fs) := by
  intro idx label v he hc
  rcases List.mem_append.mp he with he | he
  · exact h idx label v he hc
  · exact h' idx label v he hc

theorem readsBack_singular {start : Nat} (hv : ∀ v ∈ vs, v.Exact)
    (hk : vs.map (·.kind) <+: (g.metrics.drop start).map (·.kind)) :
    g.ReadsBack counts (singular start vs) := by
  intro idx label v he _
  obtain ⟨i, hi, rfl⟩ := mem_singular he
  refine ⟨hv v (List.mem_of_getElem? hi), ?_⟩
  obtain ⟨rest, hrest⟩ := hk
  have hget : (vs.map (·.kind) ++ rest)[i]? = some v.kind := by
    have hlt := (List.getElem?_eq_some_iff.mp hi).1
    rw [List.getElem?_append_left (by simpa using hlt), List.getElem?_map, hi]
    rfl
  rw [hrest, List.getElem?_map, List.getElem?_drop] at hget
  exact hget

theorem readsBack_fixed {idx : Nat} {entries : List Entry} (kind : Kind)
    (hm : g.metrics[idx]?.map (·.kind) = some kind)
    (hv : ∀ v ∈ vs, v.Exact ∧ v.kind = kind) :
    g.ReadsBack counts (emitFixed idx entries vs) := by
  intro idx' label v he _
  obtain ⟨x, hx, he⟩ := List.mem_map.mp he
  cases he
  obtain ⟨hexact, hkind⟩ := hv _ (List.of_mem_zip hx).2
  exact ⟨hexact, by rw [hm, hkind]⟩

end ReadsBack

/-- The number of a request is the one its label has in the table of requests. -/
theorem numberFor_request {g : Group} {st : Store} {es : List Emission} {idx : Nat} {l : String}
    {v : Value} {m : Descriptor} {n : Int} (h : st.Carries g es)
    (hm : g.metrics[idx]? = some m) (hd : m.domain = some Domain.nfsRequest)
    (he : .value idx (some l) v ∈ es) (hl : (n, l) ∈ Domain.nfsRequests) :
    g.numberFor st idx (some l) = some n := by
  obtain ⟨m', hm', -, hknown⟩ := h.values idx (some l) v he
  obtain rfl : m = m' := Option.some.inj (hm.symm.trans hm')
  obtain ⟨l', n', hl', hn'⟩ := hknown _ hd
  obtain rfl : l = l' := Option.some.inj hl'
  have hone : Numbering.OneToOne (Numbering.listed Domain.nfsRequests) :=
    Numbering.oneToOne_rules (d := Domain.nfsRequest) (by simp [Numbering.rules])
  have hn : n' = n := (hone n' l (h.requests _ hn') n l hl).mpr rfl
  exact hn ▸ Group.numberFor_of_mem h.wellFormed hm hd hn'

/-- The readings of the requests, under the numbers of their table. -/
theorem readings_requests {g : Group} {st : Store} {before : List Emission} {idx : Nat}
    {m : Descriptor} {vs : List Value}
    (h : st.Carries g (before ++ emitFixed idx Domain.nfsRequests vs))
    (hm : g.metrics[idx]? = some m) (hd : m.domain = some Domain.nfsRequest) :
    g.readings st (fun _ => true) (emitFixed idx Domain.nfsRequests vs) =
      (Domain.nfsRequests.zip vs).map fun x => (idx, some x.1.1, x.2) := by
  rw [Group.readings, emitFixed, List.filterMap_map, ← List.filterMap_eq_map]
  refine List.filterMap_congr fun x hx => ?_
  have he : .value idx (some x.1.2) x.2 ∈ before ++ emitFixed idx Domain.nfsRequests vs :=
    List.mem_append_right _ (List.mem_map_of_mem hx)
  have hnum := numberFor_request (n := x.1.1) h hm hd he (List.of_mem_zip hx).1
  simp [hnum]

def clientReadings (n : NfsClient) : List (Nat × List Reading) :=
  [(0, [(none, .u32 n.rpccnt)]), (1, [(none, .u32 n.rpcretrans)]),
    (2, [(some 4, .u32 n.getattcnt), (some 6, .u32 n.readcnt), (some 8, .u32 n.writecnt),
      (some 18, .u32 n.accesscnt)])]

def clientChange (view : ImportView) (c : Nat × List Reading) : List (NfsClient → NfsClient) :=
  c.2.filterMap fun x =>
    (view.word32? c.1 x.2).map fun y n =>
      match c.1 with
      | 0 => { n with rpccnt := y }
      | 1 => { n with rpcretrans := y }
      | _ => setClientRequest x.1 y n

theorem restores_nfsClient (defined : Nat → Bool) :
    Restores .nfsClient .nfs (fun _ n => singular 0 [.u32 n.rpccnt, .u32 n.rpcretrans] ++
      emitFixed 2 Domain.nfsRequests ([n.getattcnt, n.readcnt, n.writecnt, n.accesscnt].map .u32))
      defined (fun _ => True) some := by
  refine restores_of_columns clientReadings clientChange rfl nfsClient_writes ?_ ?_ ?_ ?_ ?_
  · intro n
    exact readsBack_append
      (readsBack_singular (by simp [Value.Exact, Value.kind]) ⟨[.u32], rfl⟩)
      (readsBack_fixed .u32 rfl (by simp [Value.Exact, Value.kind]))
  · intro st n hcarries
    have hreq := readings_requests hcarries (m := requestMetric 4 "nfs.client.reqs" .u32) rfl rfl
    rw [readings_append, readings_singular, hreq]
    rfl
  · intro n
    show Group.nfsClient.Columnar [(0, 1), (1, 1), (2, 4)]
    decide
  · intro view c acts
    obtain ⟨idx, rs⟩ := c
    rcases idx with _ | _ | idx <;> exact absorbSingle_eq _ _ _ _
  · intro registry n _
    have hkinds : ∀ idx < 3, Group.nfsClient.metrics[idx]?.map (·.kind) = some .u32 := by decide
    have hword : ∀ idx < 3, ∀ x,
        (⟨Group.nfsClient.metrics, registry, .curr⟩ : ImportView).word32? idx (.u32 x) =
        some x :=
      fun idx hidx x => word32?_u32 (hkinds idx hidx) x
    simp [clientReadings, clientChange, hword]
    rfl

def serverReadings (n : NfsServer) : List (Nat × List Reading) :=
  [(0, [(none, .u64 n.rpccnt)]), (1, [(none, .u64 n.rpcbad)]), (2, [(none, .u64 n.netcnt)]),
    (3, [(none, .u64 n.netudpcnt)]), (4, [(none, .u64 n.nettcpcnt)]), (5, [(none, .u64 n.rchits)]),
    (6, [(none, .u64 n.rcmisses)]),
    (7, [(some 4, .u64 n.getattcnt), (some 6, .u64 n.readcnt), (some 8, .u64 n.writecnt),
      (some 18, .u64 n.accesscnt)])]

def serverChange (view : ImportView) (c : Nat × List Reading) : List (NfsServer → NfsServer) :=
  c.2.filterMap fun x =>
    (view.word64? c.1 x.2).map fun y n =>
      match c.1 with
      | 0 => { n with rpccnt := y }
      | 1 => { n with rpcbad := y }
      | 2 => { n with netcnt := y }
      | 3 => { n with netudpcnt := y }
      | 4 => { n with nettcpcnt := y }
      | 5 => { n with rchits := y }
      | 6 => { n with rcmisses := y }
      | _ => setServerRequest x.1 y n

theorem restores_nfsServer (defined : Nat → Bool) :
    Restores .nfsServer .nfsd (fun _ n => singular 0 ([n.rpccnt, n.rpcbad, n.netcnt, n.netudpcnt,
        n.nettcpcnt, n.rchits, n.rcmisses].map .u64) ++
      emitFixed 7 Domain.nfsRequests ([n.getattcnt, n.readcnt, n.writecnt, n.accesscnt].map .u64))
      defined (fun _ => True) some := by
  refine restores_of_columns serverReadings serverChange rfl nfsServer_writes ?_ ?_ ?_ ?_ ?_
  · intro n
    exact readsBack_append
      (readsBack_singular (by simp [Value.Exact, Value.kind]) ⟨[.u64], rfl⟩)
      (readsBack_fixed .u64 rfl (by simp [Value.Exact, Value.kind]))
  · intro st n hcarries
    have hreq := readings_requests hcarries (m := requestMetric 12 "nfs.server.reqs" .u64) rfl rfl
    rw [readings_append, readings_singular, hreq]
    rfl
  · intro n
    show Group.nfsServer.Columnar
      [(0, 1), (1, 1), (2, 1), (3, 1), (4, 1), (5, 1), (6, 1), (7, 4)]
    decide
  · intro view c acts
    obtain ⟨idx, rs⟩ := c
    rcases idx with _ | _ | _ | _ | _ | _ | _ | idx <;> exact absorbSingle_eq _ _ _ _
  · intro registry n _
    have hkinds : ∀ idx < 8, Group.nfsServer.metrics[idx]?.map (·.kind) = some .u64 := by decide
    have hword : ∀ idx < 8, ∀ x,
        (⟨Group.nfsServer.metrics, registry, .curr⟩ : ImportView).word64? idx (.u64 x) =
        some x :=
      fun idx hidx x => word64?_u64 (hkinds idx hidx) x
    have hchanges : (serverReadings n).flatMap
        (serverChange ⟨Group.nfsServer.metrics, registry, .curr⟩) =
        [fun s => { s with rpccnt := n.rpccnt }, fun s => { s with rpcbad := n.rpcbad },
          fun s => { s with netcnt := n.netcnt }, fun s => { s with netudpcnt := n.netudpcnt },
          fun s => { s with nettcpcnt := n.nettcpcnt }, fun s => { s with rchits := n.rchits },
          fun s => { s with rcmisses := n.rcmisses }, fun s => { s with getattcnt := n.getattcnt },
          fun s => { s with readcnt := n.readcnt }, fun s => { s with writecnt := n.writecnt },
          fun s => { s with accesscnt := n.accesscnt }] := by
      simp [serverReadings, serverChange, hword]
      exact ⟨rfl, rfl, rfl, rfl⟩
    rw [hchanges, changed_cons]
    simp only [List.foldl_cons, List.foldl_nil]

end ActivityArchive
