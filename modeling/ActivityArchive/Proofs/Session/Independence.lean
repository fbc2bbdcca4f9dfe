import ActivityArchive.Proofs.Session.Reading
import ActivityArchive.Proofs.Session.Texts

/-!
Groups do not see each other. A group emits from its own part of the activities and from settings
that do not say which groups are enabled, and nothing but its own emissions changes that part. So a
group that is enabled in two configurations leaves the same values in both runs, whichever other
groups run beside it (`groups_independent`).
-/
namespace ActivityArchive

open Record

namespace Activities

/-- What is loaded into a part depends on nothing but that part. -/
theorem part_load {a b : Activities} {t : Part} (h : a.part t = b.part t) (s : Slot) (x : Sample) :
    (a.load s x).part t = (b.load s x).part t := by
  cases t with
  | header => exact h
  | single k =>
    have h : a.single k = b.single k := h
    simp only [load, part, Groups.single_ofFun, h]
    rfl
  | multi k =>
    have h : a.multi k = b.multi k := h
    simp only [load, part, Groups.multi_ofFun, h]
    rfl
  | interrupts => exact congrArg (·.load s x.irq) h

end Activities

namespace Group

variable (g : Group) (groups : Option (List String))

theorem define_groups (view : DefineView) :
    g.spec.define { view with config := { view.config with groups } } = g.spec.define view := by
  cases g <;> rfl

theorem emit_groups (view : ExportView) :
    g.spec.emit { view with config := { view.config with groups } } = g.spec.emit view := by
  cases g <;> rfl

/-- What an export leaves of the activities depends on the activities and the slot alone. -/
theorem acts_emit (acts : Activities) (slot : Slot) (config config' : Config)
    (isFirst isFirst' : Bool) (isDefined isDefined' : Nat → Bool) :
    (g.spec.emit ⟨acts, config, slot, isFirst, isDefined⟩).1 =
      (g.spec.emit ⟨acts, config', slot, isFirst', isDefined'⟩).1 := by
  cases g with
  | cpu =>
    simp only [spec, GroupSpec.cpu]
    split <;> rfl
  | softnet =>
    simp only [spec, GroupSpec.softnet]
    split <;> rfl
  | interrupts =>
    simp only [spec, GroupSpec.interrupts]
    split
    · rfl
    · split <;> rfl
  | _ => rfl

/-- Two views that agree on what a group works on leave the same in its part. -/
theorem part_emit_congr {view view' : ExportView}
    (hpart : view.acts.part g.part = view'.acts.part g.part) (hslot : view.slot = view'.slot) :
    (g.spec.emit view).1.part g.part = (g.spec.emit view').1.part g.part := by
  obtain ⟨acts, config, slot, isFirst, isDefined⟩ := view
  obtain ⟨acts', config', slot', isFirst', isDefined'⟩ := view'
  obtain rfl : slot = slot' := hslot
  have hsame := ((spec_local g).emit_congr
    ⟨acts', config', slot, isFirst', isDefined'⟩ acts hpart).2
  rw [acts_emit g acts slot config config' isFirst isFirst' isDefined isDefined']
  exact hsame

/-- Two views that moreover agree on the record and on the metrics make a group emit the same. -/
theorem emissions_congr {view view' : ExportView}
    (hpart : view.acts.part g.part = view'.acts.part g.part) (hslot : view.slot = view'.slot)
    (hconfig : view'.config = { view.config with groups }) (hfirst : view.isFirst = view'.isFirst)
    (hdefined : view.isDefined = view'.isDefined) :
    (g.spec.emit view).2 = (g.spec.emit view').2 := by
  obtain ⟨acts, config, slot, isFirst, isDefined⟩ := view
  obtain ⟨acts', config', slot', isFirst', isDefined'⟩ := view'
  obtain ⟨rfl, rfl, rfl, rfl⟩ : slot = slot' ∧ config' = { config with groups } ∧
    isFirst = isFirst' ∧ isDefined = isDefined' := ⟨hslot, hconfig, hfirst, hdefined⟩
  rw [emit_groups g groups ⟨acts', config, slot, isFirst, isDefined⟩]
  exact ((spec_local g).emit_congr ⟨acts', config, slot, isFirst, isDefined⟩ acts hpart).1

end Group

namespace Session

variable {config : Config} {groups groups' : Option (List String)} {header : HostHeader}
  {discovery samples : List Sample} {s s' t t' : Session} {store store' : Store} {g : Group}
  {x : Sample}

/-- Two sessions that agree on what a group works on. -/
structure SameFor (g : Group) (s s' : Session) : Prop where
  part : s.acts.part g.part = s'.acts.part g.part
  slot : s.slot = s'.slot

theorem SameFor.loaded (h : SameFor g s s') (x : Sample) :
    SameFor g (s.loaded x) (s'.loaded x) := by
  refine ⟨?_, h.slot⟩
  show (s.acts.load s.slot x).part g.part = (s'.acts.load s'.slot x).part g.part
  rw [h.slot]
  exact Activities.part_load h.part s'.slot x

theorem SameFor.took (h : SameFor g s s') (htook : Took s x t) (htook' : Took s' x t')
    (hg : g ∈ s.defined) (hg' : g ∈ s'.defined) : SameFor g t t' := by
  have hload := h.loaded x
  refine ⟨?_, ?_⟩
  · rw [htook.part g hg, htook'.part g hg']
    exact g.part_emit_congr hload.part hload.slot
  · rw [htook.session.2.2, htook'.session.2.2, h.slot]

theorem exported_nil (h : Exported config header discovery [] s) :
    s.acts = (defineView config header discovery).acts ∧ s.slot = .curr := by
  generalize hxs : [] = xs at h
  cases h with
  | define hnew hdef => exact ⟨(define_ok hnew hdef).2.2.1, (define_ok hnew hdef).2.1⟩
  | exportRecord x => simp at hxs

/-- What a group works on is the same after the same samples. -/
theorem sameFor_exported (hg : taken (defineView { config with groups } header discovery) g)
    (hg' : taken (defineView { config with groups := groups' } header discovery) g)
    (h : Exported { config with groups } header discovery samples s)
    (h' : Exported { config with groups := groups' } header discovery samples s') :
    SameFor g s s' := by
  induction h generalizing s' with
  | define hnew hdef =>
    obtain ⟨hacts, hslot⟩ := exported_nil (.define hnew hdef)
    obtain ⟨hacts', hslot'⟩ := exported_nil h'
    -- definition plans the same whichever groups are enabled
    have hsame : (defineView { config with groups } header discovery).acts =
        (defineView { config with groups := groups' } header discovery).acts := rfl
    exact ⟨by rw [hacts, hacts', hsame], hslot.trans hslot'.symm⟩
  | @exportRecord samples s _ _ _ x hprev hexp ih =>
    obtain ⟨s₀, _, _, hprev', hexp'⟩ := exported_append h'
    have htaken : ∀ {config' : Config} {s : Session},
      taken (defineView config' header discovery) g →
        Exported config' header discovery samples s → g ∈ s.defined := fun hg hs =>
      hs.defined.2 ▸ List.mem_filter.mpr ⟨Group.mem_all g, hg⟩
    exact (ih hprev').took (took_of_exportRecord hprev.nodup hexp)
      (took_of_exportRecord hprev'.nodup hexp') (htaken hg hprev) (htaken hg' hprev')

/-- What a group queues for a sample is the same in both runs. -/
theorem values_congr {st st' : Store} {r r' : StoredRecord}
    (hg : taken (defineView { config with groups } header discovery) g)
    (hg' : taken (defineView { config with groups := groups' } header discovery) g)
    (h : Exported { config with groups } header discovery samples s)
    (h' : Exported { config with groups := groups' } header discovery samples s')
    (hw : Written (defineView { config with groups } header discovery) st s x r)
    (hw' : Written (defineView { config with groups := groups' } header discovery) st' s' x r') :
    (s.loaded x).values g = (s'.loaded x).values g := by
  have hload := (sameFor_exported hg hg' h h').loaded x
  have hmem : g ∈ s.defined := hw.defined ▸ List.mem_filter.mpr ⟨Group.mem_all g, hg⟩
  have hmem' : g ∈ s'.defined := hw'.defined ▸ List.mem_filter.mpr ⟨Group.mem_all g, hg'⟩
  have hasked : g.spec.asked (defineView { config with groups } header discovery) =
      g.spec.asked (defineView { config with groups := groups' } header discovery) :=
    congrArg (List.flatMap (Definition.indices g.spec.metrics.length))
      (g.define_groups groups' (defineView { config with groups } header discovery)).symm
  have hdefined : ((s.loaded x).view g).isDefined = ((s'.loaded x).view g).isDefined := by
    funext idx
    refine Bool.eq_iff_iff.mpr ((hw.handles g hmem idx).trans ?_)
    rw [hasked]
    exact (hw'.handles g hmem' idx).symm
  have hfirst : ((s.loaded x).view g).isFirst = ((s'.loaded x).view g).isFirst := by
    show decide (s.records = 0) = decide (s'.records = 0)
    rw [h.records, h'.records]
  have hconfig : ((s'.loaded x).view g).config = { ((s.loaded x).view g).config with
      groups := groups' } := by
    show s'.config = { s.config with groups := groups' }
    rw [hw.config, hw'.config]
    rfl
  rw [values, values, emissions, emissions,
    g.emissions_congr groups' hload.part hload.slot hconfig hfirst hdefined]

/-- Two runs that differ in the groups that are enabled, and in nothing else, record the same values
of every group that is enabled in both, sample by sample. -/
theorem groups_independent (config : Config) (groups groups' : Option (List String))
    (header : HostHeader) (discovery samples : List Sample) (store store' : Store)
    (h : Run { config with groups } header discovery samples store)
    (h' : Run { config with groups := groups' } header discovery samples store') (g : Group)
    (hg : g.isHeader ∨
      ({ config with groups }.enables g.name ∧
        { config with groups := groups' }.enables g.name)) :
    store.records.map g.valuesIn = store'.records.map g.valuesIn := by
  obtain ⟨-, hlen, hwritten⟩ := h.recorded
  obtain ⟨-, hlen', hwritten'⟩ := h'.recorded
  have htaken : taken (defineView { config with groups } header discovery) g =
      taken (defineView { config with groups := groups' } header discovery) g := by
    rcases hg with hheader | ⟨hon, hon'⟩
    · rw [taken, taken, hheader, Bool.true_or, Bool.true_or]
    · show (g.isHeader || ({ config with groups }.enables g.name && _)) =
        (g.isHeader || ({ config with groups := groups' }.enables g.name && _))
      rw [hon, hon']
      rfl
  refine List.ext_getElem (by simp [hlen, hlen']) fun k hk hk' => ?_
  rw [List.length_map] at hk hk'
  obtain ⟨x, hx⟩ : ∃ x, samples[k]? = some x :=
    ⟨_, List.getElem?_eq_getElem (hlen ▸ hk)⟩
  obtain ⟨s, hexp, hw⟩ := hwritten k _ _ hx (List.getElem?_eq_getElem hk)
  obtain ⟨s', hexp', hw'⟩ := hwritten' k _ _ hx (List.getElem?_eq_getElem hk')
  rw [List.getElem_map, List.getElem_map, hw.transcript.valuesIn_eq, hw'.transcript.valuesIn_eq]
  have hmem : g ∈ s.defined ↔ taken (defineView { config with groups } header discovery) g := by
    rw [hw.defined, List.mem_filter]
    exact ⟨fun hx => hx.2, fun hx => ⟨Group.mem_all g, hx⟩⟩
  have hmem' : g ∈ s'.defined ↔
      taken (defineView { config with groups } header discovery) g := by
    rw [hw'.defined, List.mem_filter, htaken]
    exact ⟨fun hx => hx.2, fun hx => ⟨Group.mem_all g, hx⟩⟩
  by_cases ht : taken (defineView { config with groups } header discovery) g
  · rw [if_pos (hmem.mpr ht), if_pos (hmem'.mpr ht)]
    exact values_congr ht (htaken ▸ ht) hexp hexp' hw hw'
  · rw [if_neg (mt hmem.mp ht), if_neg (mt hmem'.mp ht)]

/-- Interfaces that the two groups which share their domain list in different orders. -/
def crossedInterfaces : Sample :=
  { Sample.blank with
    netDev := [{ interface := "lo" }, { interface := "eth0" }]
    netEdev := [{ interface := "eth0", rxErrors := 3 }] }

/-- The store of a run. -/
def stored (config : Config) (discovery samples : List Sample) :
    Attempt SessionError (Session × Store) :=
  Archive.exportAll samples ((initial config).define .empty {} discovery).2

/-- An interface has another number where only its errors are recorded, and the same errors. -/
theorem errors_without_interfaces :
    ∃ store store', Run {} {} [crossedInterfaces] [crossedInterfaces] store ∧
      Run { groups := some ["net-edev"] } {} [crossedInterfaces] [crossedInterfaces] store' ∧
      store.instances.number? Domain.interface "eth0" = some 1 ∧
      store'.instances.number? Domain.interface "eth0" = some 0 ∧
      store.records.map Group.interfaceErrors.valuesIn =
        store'.records.map Group.interfaceErrors.valuesIn ∧
      store.records.map (fun r => (Group.interfaceErrors.valuesIn r).length) = [9] := by
  have h : Run {} {} [crossedInterfaces] [crossedInterfaces]
      (stored {} [crossedInterfaces] [crossedInterfaces]).2.2 :=
    ⟨_, _, _, new_eq {}, Prod.ext (by decide +kernel) rfl, Prod.ext (by decide +kernel) rfl⟩
  have h' : Run { groups := some ["net-edev"] } {} [crossedInterfaces] [crossedInterfaces]
      (stored { groups := some ["net-edev"] } [crossedInterfaces] [crossedInterfaces]).2.2 :=
    ⟨_, _, _, new_eq _, Prod.ext (by decide +kernel) rfl, Prod.ext (by decide +kernel) rfl⟩
  exact ⟨_, _, h, h', by decide +kernel, by decide +kernel,
    groups_independent {} none (some ["net-edev"]) {} _ _ _ _ h h' .interfaceErrors
      (Or.inr ⟨by decide, by decide⟩), by decide +kernel⟩

end Session

end ActivityArchive
