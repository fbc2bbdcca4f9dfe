import ActivityArchive.Proofs.Group.Orderless
import ActivityArchive.Proofs.Session.Forgetting

/-!
Value sets in another order. Sets of different metrics commute, since they are those of different
groups, which work on different parts, or of different metrics of one group. So the sample that is
built of them is the same in any order, up to the order of items and of interrupt lines
(`imports_commute`).
-/
namespace ActivityArchive

open Activities Record

/-- The same sample up to the order of the records of items and of the interrupt lines. -/
structure Sample.Rearranged (x y : Sample) : Prop where
  timestamp : x.timestamp = y.timestamp
  single : ∀ k, x.single k = y.single k
  multi : ∀ k, k ∉ Multi.keyed → x.multi k = y.multi k
  items : ∀ k, k ∈ Multi.keyed → (x.multi k).Perm (y.multi k)
  irq : Option.Rel InterruptTable.Rearranged x.irq y.irq

namespace Session

variable {registry : Registry} {acts acts' : Activities} {sets sets' : List ValueSet}
  {set set' : ValueSet} {s s' : Session}

theorem rearranged_take (h : Rearranged .curr acts acts') (set : ValueSet) :
    Rearranged .curr (take registry acts set) (take registry acts' set) := by
  unfold take
  split
  · rename_i g idx _
    exact (Group.spec_commutes g).absorb _ idx set.readings acts acts' h
  · exact h

theorem rearranged_finish (h : Rearranged .curr acts acts') :
    Rearranged .curr (finish acts) (finish acts') :=
  foldl_related (R := Rearranged .curr) h fun g _ acts acts' h =>
    (Group.spec_commutes g).finish .curr acts acts' h

/-- Two sets of different metrics, in either order. -/
theorem take_comm (hsum : registry.Unsummed) (hid : set.id ≠ set'.id)
    (h : Rearranged .curr acts acts) :
    Rearranged .curr (take registry (take registry acts set) set')
      (take registry (take registry acts set') set) := by
  cases hplace : (⟨Group.places⟩ : Routes Group).find? set.id with
  | none =>
    have hskip : ∀ acts, take registry acts set = acts := fun acts => by simp only [take, hplace]
    rw [hskip, hskip]
    exact rearranged_take h set'
  | some place =>
    cases hplace' : (⟨Group.places⟩ : Routes Group).find? set'.id with
    | none =>
      have hskip : ∀ acts, take registry acts set' = acts := fun acts => by
        simp only [take, hplace']
      rw [hskip, hskip]
      exact rearranged_take h set
    | some place' =>
      obtain ⟨g, i⟩ := place
      obtain ⟨g', j⟩ := place'
      have htake : ∀ acts, take registry acts set =
          g.spec.absorb ⟨g.metrics, registry, .curr⟩ i set.readings acts :=
        fun acts => by simp only [take, hplace]
      have htake' : ∀ acts, take registry acts set' =
          g'.spec.absorb ⟨g'.metrics, registry, .curr⟩ j set'.readings acts :=
        fun acts => by simp only [take, hplace']
      obtain ⟨m, hm, hmid⟩ := Group.metric_of_find? hplace
      obtain ⟨m', hm', hmid'⟩ := Group.metric_of_find? hplace'
      by_cases hg : g = g'
      · subst hg
        have hne : i ≠ j := by
          rintro rfl
          obtain rfl : m = m' := Option.some.inj (hm.symm.trans hm')
          exact hid (hmid.symm.trans hmid')
        rw [htake, htake, htake', htake']
        exact (Group.spec_commutes g).comm registry .curr i j set.readings set'.readings acts hsum
          (List.getElem?_eq_some_iff.mp hm).1 (List.getElem?_eq_some_iff.mp hm').1 hne h
      · -- Groups that are not the same have different parts.
        have hpart : g'.part ≠ g.part := fun hp => hg (Group.part_injective hp).symm
        have hcomm := Touches.comm ((Group.spec_local g').absorb ⟨g'.metrics, registry, .curr⟩ j
          set'.readings) ((Group.spec_local g).absorb ⟨g.metrics, registry, .curr⟩
            i set.readings)
          hpart acts
        have hsame : take registry (take registry acts set) set' =
            take registry (take registry acts set') set := by
          rw [htake, htake, htake', htake']
          exact hcomm
        rw [hsame]
        exact rearranged_take (rearranged_take h set') set

theorem takeAll_perm (hsum : registry.Unsummed) (hperm : sets.Perm sets')
    (hids : (sets.map (·.id)).Nodup) (h : Rearranged .curr acts acts) :
    Rearranged .curr (takeAll registry sets acts) (takeAll registry sets' acts) := by
  have hapart : sets.Pairwise fun x y => x.id ≠ y.id := List.pairwise_map.mp hids
  exact foldl_perm_related (R := Rearranged .curr) Ne.symm Rearranged.trans
    (fun set acts acts' h => rearranged_take h set)
    (fun set set' hid acts h => take_comm hsum hid h) hperm hapart h

/-- A slot in which nothing is built. -/
theorem rearranged_of_blank (h : acts.Blank) : Rearranged .curr acts acts := by
  intro t
  cases t with
  | header => trivial
  | single k => exact Activity.alike_of_holds_nil (h.single k) (h.single k)
  | multi k => exact Multi.rearranged_of_holds_nil (h.multi k) (h.multi k)
  | interrupts => exact h.irq.showing.rearranged

theorem Imported.rearranged {t t' : Session} {timestamp : Int} {x y : Sample}
    (hx : Imported registry s ⟨timestamp, sets⟩ x t)
    (hy : Imported registry s' ⟨timestamp, sets'⟩ y t')
    (h : Rearranged .curr (takeAll registry sets s.acts) (takeAll registry sets' s'.acts)) :
    x.Rearranged y := by
  have hended := rearranged_finish h
  refine ⟨hx.timestamp.trans hy.timestamp.symm, fun k => ?_, fun k hk => ?_, fun k _ => ?_, ?_⟩
  · have hk : Activity.Alike .curr _ _ := hended (.single k)
    rw [hx.single, hy.single]
    exact congrArg List.head? hk.records
  · have hk : Activity.Alike .curr _ _ :=
      (Multi.rearranged_of_position (Multi.itemKey?_eq_none hk)).mp (hended (.multi k))
    rw [hx.multi, hy.multi]
    exact hk.records
  · have hk : Multi.Rearranged .curr k _ _ := hended (.multi k)
    rw [hx.multi, hy.multi]
    exact hk.perm
  · obtain ⟨t, u, ht, hu, hrel⟩ := Interrupts.Rearranged.unload (h .interrupts)
    obtain rfl : x.irq = t := Except.ok.inj (hx.irq.symm.trans ht)
    obtain rfl : y.irq = u := Except.ok.inj (hy.irq.symm.trans hu)
    exact hrel

/-- Value sets that are imported into a new record and ended. -/
theorem imported_ok (h : Past s false) (hphase : s.phase = .decoding) (sets : List ValueSet)
    (timestamp : Int) :
    ∃ t x t', attemptAll (fun set s => s.importValueSet set) sets s = (.ok (), t) ∧
      t.endRecord timestamp = (.ok x, t') ∧ Imported s.registry s ⟨timestamp, sets⟩ x t' := by
  obtain ⟨x, t', hrun, himported⟩ := importRecord_ok (h.importing hphase) ⟨timestamp, sets⟩
  have hsets := importSets_eq hphase h.swept.routes sets
  rw [importRecord, hsets] at hrun
  exact ⟨_, x, t', hsets, hrun, himported⟩

/-- Sets of different metrics may be imported in any order, unless some interrupt line is named like
the sum of all of them. -/
theorem imports_commute (s : Session) (h : Past s false) (hphase : s.phase = .decoding)
    (hsum : ∀ e ∈ s.registry.entries Domain.interrupt, e.2 ≠ "sum")
    (sets sets' : List ValueSet)
    (hids : (sets.map (·.id)).Nodup) (hperm : sets.Perm sets') (timestamp : Int) :
    ∃ t t' x y, attemptAll (fun set s => s.importValueSet set) sets s = (.ok (), t) ∧
      attemptAll (fun set s => s.importValueSet set) sets' s = (.ok (), t') ∧
      (t.endRecord timestamp).1 = .ok x ∧ (t'.endRecord timestamp).1 = .ok y ∧
      x.Rearranged y := by
  obtain ⟨t, x, u, hsets, hend, hx⟩ := imported_ok h hphase sets timestamp
  obtain ⟨t', y, u', hsets', hend', hy⟩ := imported_ok h hphase sets' timestamp
  refine ⟨t, t', x, y, hsets, hsets', by rw [hend], by rw [hend'], ?_⟩
  exact hx.rearranged hy
    (takeAll_perm hsum hperm hids (rearranged_of_blank (h.importing hphase).blank))

/-- A session that knows two disks and two interrupt lines. -/
def twoDisks : Session :=
  ((initial {}).attachReader ⟨[(Domain.disk, [(0, "sda"), (1, "sdb")]),
    (Domain.interrupt, [(0, "8"), (1, "9")])]⟩).2

/-- Operations of both disks, sectors of the second one, and the totals of the lines. -/
def diskSets : List ValueSet :=
  [⟨.pack 60 0 28, [(some 0, .u64 4), (some 1, .u64 6)]⟩,
    ⟨.pack 60 0 38, [(some 1, .u64 2)]⟩,
    ⟨.pack 60 4 0, [(some 0, .u64 3), (some 1, .u64 5)]⟩, ⟨.pack 60 0 12, [(none, .u64 8)]⟩]

/-- In the order of arrival the first disk comes first, in the other order the second one. -/
theorem twoDisks_imports_commute :
    Past twoDisks false ∧ twoDisks.phase = .decoding ∧
      (∀ e ∈ twoDisks.registry.entries Domain.interrupt, e.2 ≠ "sum") ∧
      (diskSets.map (·.id)).Nodup ∧ diskSets.Perm diskSets.reverse ∧
      (∃ t t' x y,
        attemptAll (fun set s => s.importValueSet set) diskSets twoDisks = (.ok (), t) ∧
        attemptAll (fun set s => s.importValueSet set) diskSets.reverse twoDisks = (.ok (), t') ∧
        (t.endRecord 7).1 = .ok x ∧ (t'.endRecord 7).1 = .ok y ∧ x.Rearranged y) ∧
      ((takeAll twoDisks.registry diskSets twoDisks.acts).disk.records .curr).map
        (fun d => (d.name, d.nrIos, d.rdSect)) = [("sda", 4, 0), ("sdb", 6, 4)] ∧
      ((takeAll twoDisks.registry diskSets.reverse twoDisks.acts).disk.records .curr).map
        (fun d => (d.name, d.nrIos, d.rdSect)) = [("sdb", 6, 4), ("sda", 4, 0)] := by
  have h : Past twoDisks false := .attachReader _ (.new (new_eq {}))
  have hsum : ∀ e ∈ twoDisks.registry.entries Domain.interrupt, e.2 ≠ "sum" := by decide
  have hids : (diskSets.map (·.id)).Nodup := by decide
  have hperm : diskSets.Perm diskSets.reverse := (List.reverse_perm diskSets).symm
  exact ⟨h, rfl, hsum, hids, hperm,
    imports_commute twoDisks h rfl hsum diskSets diskSets.reverse hids hperm 7,
    by decide, by decide⟩

end Session

end ActivityArchive
