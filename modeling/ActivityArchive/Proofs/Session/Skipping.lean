import ActivityArchive.Proofs.Activity.Reordering
import ActivityArchive.Proofs.Group.Taking
import ActivityArchive.Proofs.Session.Unobserved

/-!
What a session skips when it imports. A set of values of an unknown metric, or of no value of the
kind of its metric, leaves the session as it is (`importValueSet_of_skipped`). A value of an
instance that is not registered is skipped where labels are looked up; elsewhere it goes to the
record and field that its number tells (`import_unregistered`).
-/
namespace ActivityArchive.Session

open Activities Record GroupSpec

variable {s : Session} {building : Bool}

theorem importValueSet_eq (hroutes : s.routes = ⟨Group.places⟩) (hphase : s.phase = .decoding)
    (set : ValueSet) :
    s.importValueSet set = (.ok (), { s with acts := take s.registry s.acts set }) := by
  have hcheck : s.check .importValueSet = .ok () := if_pos (by rw [hphase]; decide)
  rw [importValueSet, hcheck, absorb_eq hroutes]

theorem importValue_eq (hroutes : s.routes = ⟨Group.places⟩) (hphase : s.phase = .decoding)
    (id : MetricId) (r : Reading) :
    s.importValue id r = (.ok (), { s with acts := take s.registry s.acts ⟨id, [r]⟩ }) := by
  have hcheck : s.check .importValue = .ok () := if_pos (by rw [hphase]; decide)
  have hone := absorb_eq hroutes ⟨id, [r]⟩
  rw [importValue, hcheck, hone]

/-- A set of values of a metric goes to the group that has it. -/
theorem take_metric {g : Group} {idx : Nat} {m : Descriptor} (hm : g.metrics[idx]? = some m)
    (registry : Registry) (acts : Activities) (readings : List Reading) :
    take registry acts ⟨m.id, readings⟩ =
      g.spec.absorb ⟨g.metrics, registry, .curr⟩ idx readings acts := by
  rw [take, Group.find?_metric hm]

/-- Values of an unknown metric, or none of the kind of their metric, leave everything as it is. -/
theorem importValueSet_of_skipped (h : Past s building) (hphase : s.phase = .decoding)
    {set : ValueSet} (hset : (∀ g : Group, ∀ m ∈ g.metrics, m.id ≠ set.id) ∨
      ∃ g : Group, ∃ m ∈ g.metrics, m.id = set.id ∧
      ∀ r ∈ set.readings, r.2.kind ≠ m.kind) :
    s.importValueSet set = (.ok (), s) := by
  have htake : take s.registry s.acts set = s.acts := by
    rcases hset with hunknown | ⟨g, m, hm, hid, hkind⟩
    · unfold take
      split
      · rename_i g idx hfind
        obtain ⟨m, hm, hid⟩ := Group.metric_of_find? hfind
        exact absurd hid (hunknown g m (List.mem_of_getElem? hm))
      · rfl
    · obtain ⟨idx, hlt, hget⟩ := List.getElem_of_mem hm
      have hm : g.metrics[idx]? = some m := List.getElem?_eq_some_iff.mpr ⟨hlt, hget⟩
      have hrejects : (⟨g.metrics, s.registry, .curr⟩ : ImportView).Rejects idx
          set.readings := by
        intro r hr
        simpa [ImportView.accepts, hm] using fun hk => hkind r hr hk.symm
      have hset : set = ⟨m.id, set.readings⟩ := by rw [hid]
      rw [hset, take_metric hm, g.absorb_of_rejected hrejects, id]
  rw [importValueSet_eq h.swept.routes hphase, htake]

/-- A session that knows one disk, and is building a record with its operations. -/
def midRecord : Session :=
  let attached := ((initial {}).attachReader ⟨[(Domain.disk, [(0, "sda")])]⟩).2
  (attached.importValue (.pack 60 0 28) (some 0, .u64 4)).2

theorem past_midRecord : ∃ building, Past midRecord building :=
  ⟨true, .importValue (.pack 60 0 28) (some 0, .u64 4)
    (.attachReader ⟨[(Domain.disk, [(0, "sda")])]⟩ (.new (new_eq {}))) rfl⟩

/-- A metric that no group has, and operations of the disk that are not of 64 bits. -/
theorem midRecord_skips :
    midRecord.acts.disk.buffer.allocated = 1 ∧
      midRecord.importValueSet ⟨.pack 1 2 3, [(none, .u64 3)]⟩ = (.ok (), midRecord) ∧
      midRecord.importValueSet ⟨.pack 60 0 28, [(some 0, .u32 9), (none, .string "9")]⟩ =
        (.ok (), midRecord) := by
  obtain ⟨building, h⟩ := past_midRecord
  refine ⟨by decide, importValueSet_of_skipped h (by decide) (Or.inl fun g m hm hid => ?_),
    importValueSet_of_skipped h (by decide)
      (Or.inr ⟨.disks, Group.disks.metrics[2], List.getElem_mem _, rfl, by decide⟩)⟩
  have hmem : MetricId.pack 1 2 3 ∈ Group.metricsOfAll.map (·.id) :=
    List.mem_map.mpr ⟨m, Group.mem_metricsOfAll hm, hid⟩
  exact absurd hmem (by decide +kernel)

theorem Past.clean (h : Past s building) : s.acts.Clean := by
  induction h with
  | new hnew =>
    rw [new_eq] at hnew
    cases hnew
    exact clean_empty
  | define store header discovery _ ih => exact clean_perform ih (.define store header discovery)
  | exportRecord store sample _ ih => exact clean_exportRecord ih store sample
  | attachReader instances _ ih => exact clean_perform ih (.attachReader instances)
  | @importValueSet s s' building set _ hrun ih =>
    have hset := clean_importValueSet ih set
    rwa [hrun] at hset
  | @importValue s s' building id reading _ hrun ih =>
    have hvalue : (s.importValue id reading).2.acts.Clean :=
      clean_perform ih (.importValue id reading)
    rwa [hrun] at hvalue
  | endRecord timestamp _ ih => exact clean_endRecord ih timestamp
  | close _ ih => exact clean_perform ih .close

/-- Only CPUs are worked over when a record ends. -/
theorem finish_make {c : RecordChange} (hc : Group.cpu.part ≠ c.part) (acts : Activities) :
    finish (c.make acts) = c.make (finish acts) := by
  refine foldl_related (R := fun a b => a = c.make b) rfl fun g _ a b hab => ?_
  rw [hab]
  by_cases hg : g = .cpu
  · subst hg
    exact ((Group.spec_local .cpu).finish .curr).comm c.touches_make hc b
  · have hnothing : g.spec.finish .curr = id := by
      cases g <;> first
        | rfl
        | exact absurd rfl hg
    rw [hnothing, id, id]

theorem endRecord_of_unload (hphase : s.phase = .decoding) {timestamp : Int} {x : Sample}
    (hx : (finish s.acts).unload .curr timestamp = .ok x) :
    (s.endRecord timestamp).1 = .ok x := by
  have hcheck : s.check .endRecord = .ok () := if_pos (by rw [hphase]; decide)
  rw [endRecord, hcheck]
  simp only [hx]

/-- A record in which a change was made ends as it would without, and its sample shows the change.
-/
theorem endRecord_change (h : Past s building) (hphase : s.phase = .decoding)
    {change? : Option RecordChange} (hchange : ∀ c ∈ change?, Group.cpu.part ≠ c.part)
    (timestamp : Int) :
    ∃ x, (s.endRecord timestamp).1 = .ok x ∧
      (({ s with acts := s.acts.change change? } : Session).endRecord timestamp).1 =
        .ok (x.change change?) := by
  have hclean : (finish s.acts).Clean := clean_finish h.clean
  have hfinish : finish (s.acts.change change?) = (finish s.acts).change change? := by
    cases change? with
    | none => rfl
    | some c => exact finish_make (hchange c rfl) s.acts
  have hgrid : (finish s.acts).irq.grid.Clean := hclean .interrupts
  obtain ⟨t, ht⟩ := Interrupts.unload_ok hgrid.sized .curr
  have hunload : ∃ x, (finish s.acts).unload .curr timestamp = .ok x := by
    rw [unload, ht]
    exact ⟨_, rfl⟩
  obtain ⟨x, hx⟩ := hunload
  have hchanged : (finish (s.acts.change change?)).unload .curr timestamp =
      .ok (x.change change?) := by
    rw [hfinish, unload_change hclean, hx]
    rfl
  exact ⟨x, endRecord_of_unload hphase hx,
    endRecord_of_unload (s := { s with acts := s.acts.change change? }) hphase hchanged⟩

section Readings

variable {g : Group} {idx : Nat} {m : Descriptor} {d : DomainId} {n : Int}
  (hroutes : s.routes = ⟨Group.places⟩) (hphase : s.phase = .decoding)
  (hm : g.metrics[idx]? = some m) (hdomain : m.domain = some d)
include hroutes hphase hm hdomain

/-- Readings of a metric, with one among them of a number that its group takes. -/
theorem importValueSet_taken (htakes : g.takes n) (before after : List Reading) (v : Value) :
    s.importValueSet ⟨m.id, before ++ (some n, v) :: after⟩ =
      let s' := (s.importValueSet ⟨m.id, before⟩).2
      let badge := (s.registry.label? d n).bind batteryId?
      ({ s' with acts := s'.acts.change (g.taken idx n badge v) } : Session).importValueSet
        ⟨m.id, after⟩ := by
  have htaken := Group.absorb_taken htakes hm hdomain s.registry before after v s.acts
  have hbefore := importValueSet_eq hroutes hphase ⟨m.id, before⟩
  rw [take_metric hm] at hbefore
  rw [importValueSet_eq hroutes hphase, take_metric hm, htaken, hbefore]
  dsimp only
  rw [importValueSet_eq (by exact hroutes) (by exact hphase), take_metric hm]

theorem importValue_taken (htakes : g.takes n) (v : Value) :
    s.importValue m.id (some n, v) = (.ok (), { s with
      acts := s.acts.change (g.taken idx n ((s.registry.label? d n).bind batteryId?) v) }) := by
  have hnothing : g.spec.absorb ⟨g.metrics, s.registry, .curr⟩ idx [] = id :=
    g.absorb_of_rejected nofun
  have htaken := Group.absorb_taken htakes hm hdomain s.registry [] [] v s.acts
  rw [List.nil_append, hnothing, id, id] at htaken
  rw [importValue_eq hroutes hphase, take_metric hm, htaken]

/-- Readings of a metric, with one among them of an instance that its group looks up in vain. -/
theorem importValueSet_without (hskips : g.skips n) (hn : s.registry.label? d n = none)
    (before after : List Reading) (v : Value) :
    s.importValueSet ⟨m.id, before ++ (some n, v) :: after⟩ =
      s.importValueSet ⟨m.id, before ++ after⟩ := by
  rw [importValueSet_eq hroutes hphase, importValueSet_eq hroutes hphase, take_metric hm,
    take_metric hm, Group.absorb_without hskips hm hdomain hn]

theorem importValue_skipped (hskips : g.skips n) (hn : s.registry.label? d n = none) (v : Value) :
    s.importValue m.id (some n, v) = (.ok (), s) := by
  have hnothing : g.spec.absorb ⟨g.metrics, s.registry, .curr⟩ idx [] = id :=
    g.absorb_of_rejected nofun
  have hwithout := Group.absorb_without (s := .curr) hskips hm hdomain hn [] [] v
  rw [List.nil_append] at hwithout
  rw [importValue_eq hroutes hphase, take_metric hm, hwithout, List.append_nil, hnothing, id]

end Readings

/-- A value of an instance that is not registered. Where it is skipped, the record being built is
the same as without it, and so is what a set makes of its other values. Where it is taken, alone or
among other values of a set, it changes the record and field that its number tells, and the sample
that the record ends in shows that change and no other; it does so under any other registry too, in
which at most the label of a battery tells more. -/
theorem import_unregistered (h : Past s building) (hphase : s.phase = .decoding)
    {g : Group} {idx : Nat}
    {m : Descriptor} {d : DomainId} {n : Int} (hm : g.metrics[idx]? = some m)
    (hdomain : m.domain = some d) (hn : s.registry.label? d n = none) (v : Value) :
    (g.skips n → s.importValue m.id (some n, v) = (.ok (), s) ∧
      ∀ before after, s.importValueSet ⟨m.id, before ++ (some n, v) :: after⟩ =
        s.importValueSet ⟨m.id, before ++ after⟩) ∧
    (g.takes n →
      s.importValue m.id (some n, v) =
        (.ok (), { s with acts := s.acts.change (g.taken idx n none v) }) ∧
      (∀ timestamp, ∃ x, (s.endRecord timestamp).1 = .ok x ∧
        ((s.importValue m.id (some n, v)).2.endRecord timestamp).1 =
          .ok (x.change (g.taken idx n none v))) ∧
      (∀ before after, s.importValueSet ⟨m.id, before ++ (some n, v) :: after⟩ =
        let s' := (s.importValueSet ⟨m.id, before⟩).2
        ({ s' with acts := s'.acts.change (g.taken idx n none v) } : Session).importValueSet
          ⟨m.id, after⟩) ∧
      ∀ registry : Registry,
        let badge := (registry.label? d n).bind batteryId?
        ({ s with registry } : Session).importValue m.id (some n, v) =
          (.ok (), { s with registry, acts := s.acts.change (g.taken idx n badge v) }) ∧
        (g ≠ .batteries → g.taken idx n badge v = g.taken idx n none v)) := by
  have hroutes := h.swept.routes
  have hbadge : (s.registry.label? d n).bind batteryId? = none := by rw [hn, Option.bind_none]
  refine ⟨fun hskips => ⟨importValue_skipped hroutes hphase hm hdomain hskips hn v,
    fun before after =>
      importValueSet_without hroutes hphase hm hdomain hskips hn before after v⟩,
    fun htakes => ?_⟩
  have halone := importValue_taken hroutes hphase hm hdomain htakes v
  rw [hbadge] at halone
  refine ⟨halone, fun timestamp => ?_, fun before after => ?_, fun registry => ⟨?_, ?_⟩⟩
  · have hchange : ∀ c ∈ g.taken idx n none v, Group.cpu.part ≠ c.part := by
      intro c hc hpart
      rw [Group.part_taken hc] at hpart
      obtain rfl := Group.part_injective hpart
      exact htakes
    rw [halone]
    exact endRecord_change h hphase hchange timestamp
  · have hset := importValueSet_taken hroutes hphase hm hdomain htakes before after v
    rwa [hbadge] at hset
  · exact importValue_taken (s := { s with registry }) hroutes hphase hm hdomain htakes v
  · exact fun hg => Group.taken_of_ne hg _ v

/-- A disk that is not registered is skipped. A fan that is not is the one at its position, and a
request goes to the field of its number, whatever is registered. -/
theorem midRecord_unregistered :
    midRecord.registry.label? Domain.disk 5 = none ∧
      midRecord.importValue (.pack 60 0 28) (some 5, .u64 9) = (.ok (), midRecord) ∧
      midRecord.registry.label? Domain.fan 1 = none ∧
      midRecord.importValue (.pack 34 0 0) (some 1, .u64 800) =
        (.ok (), { midRecord with
          acts := updateMulti .curr .fan 1 (fun f => { f with rpm := 800 }) midRecord.acts }) ∧
      midRecord.registry.label? Domain.nfsRequest 6 = none ∧
      ({ midRecord with registry := .empty } : Session).importValue (.pack 60 7 4)
          (some 6, .u32 3) =
        (.ok (), { midRecord with
          registry := .empty
          acts := updateSingle .curr .nfs (fun n => { n with readcnt := 3 }) midRecord.acts }) := by
  obtain ⟨building, h⟩ := past_midRecord
  have hdisk : Group.disks.metrics[2]? = some Group.disks.metrics[2] := rfl
  have hfan : Group.fans.metrics[0]? = some Group.fans.metrics[0] := rfl
  have hread : Group.nfsClient.metrics[2]? = some Group.nfsClient.metrics[2] := rfl
  have hskipped := (import_unregistered h (by decide) hdisk rfl (n := 5) (by decide) (.u64 9)).1
    trivial
  have htaken := (import_unregistered h (by decide) hfan rfl (n := 1) (by decide) (.u64 800)).2
    (show (0 : Int) ≤ 1 by decide)
  have hfixed := (import_unregistered h (by decide) hread rfl (n := 6) (by decide) (.u32 3)).2
    (show (6 : Int) ∈ Domain.nfsRequests.map (·.1) by decide)
  exact ⟨by decide, hskipped.1, by decide, htaken.1, by decide, (hfixed.2.2.2 .empty).1⟩

/-- A fan that is not registered makes records in the sample, where there would be none. -/
theorem unregistered_fan_taken :
    ∃ building, Past midRecord building ∧ midRecord.phase = .decoding ∧
      midRecord.registry.label? Domain.fan 1 = none ∧
      ∃ x y, (midRecord.endRecord 7).1 = .ok x ∧
        ((midRecord.importValue (.pack 34 0 0) (some 1, .u64 800)).2.endRecord 7).1 = .ok y ∧
        x.fan = [] ∧ y.fan.map (·.rpm) = [0, 800] := by
  obtain ⟨building, h⟩ := past_midRecord
  exact ⟨building, h, by decide, by decide, _, _, rfl, rfl, rfl, rfl⟩

end ActivityArchive.Session
