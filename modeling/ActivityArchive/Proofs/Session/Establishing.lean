import ActivityArchive.Proofs.Group.Metrics
import ActivityArchive.Proofs.Group.Requests

/-!
Definition establishes a session: each group taken has the handles and the instances that its
definition asks for. It goes through unless two batteries contradict each other
(`defineAll_outcome`).
-/
namespace ActivityArchive

open Numbering

namespace Group

theorem index_lt (g : Group) : g.index < all.length := List.idxOf_lt_length_of_mem (mem_all g)

theorem getElem?_index (g : Group) : all[g.index]? = some g := by
  rw [List.getElem?_eq_getElem (index_lt g)]
  exact congrArg some (List.getElem_idxOf (index_lt g))

theorem index_injective {g g' : Group} (h : g.index = g'.index) : g = g' := by
  have hget := getElem?_index g
  rw [h, getElem?_index] at hget
  exact (Option.some.inj hget).symm

end Group

namespace Session

variable {s : Session} {store : Store} {g g' : Group} {c : Catalog}

theorem catalogOf_setCatalog (h : s.catalogs.length = Group.all.length) :
    (s.setCatalog g c).catalogOf g' = if g' = g then c else s.catalogOf g' := by
  have hlt : g.index < s.catalogs.length := h ▸ Group.index_lt g
  by_cases hg : g' = g
  · subst hg
    simp [catalogOf, setCatalog, hlt]
  · have hne : g.index ≠ g'.index := fun hi => hg (Group.index_injective hi.symm)
    simp [catalogOf, setCatalog, hg, hne]

/-- Whether a group is taken, as definition sees it. -/
def taken (dv : DefineView) (g : Group) : Bool :=
  g.isHeader || (dv.config.enables g.name && g.spec.isPresent dv.acts)

/-- Every group defined has what its definition asks for. -/
structure Established (dv : DefineView) (s : Session) (store : Store) : Prop where
  sound : Bench.Sound ⟨s.registry, store⟩
  config : s.config = dv.config
  length : s.catalogs.length = Group.all.length
  descriptors : ∀ g, (s.catalogOf g).descriptors = g.metrics
  truthful : ∀ g, (s.catalogOf g).Truthful store.metrics
  metrics : ∀ m ∈ store.metrics, m ∈ Group.metricsOfAll
  handles : ∀ g ∈ s.defined, ∀ idx,
    ((s.catalogOf g).handle? idx).isSome ↔ idx ∈ g.spec.asked dv
  registered : ∀ g ∈ s.defined, ∀ d l num, .entry d l num ∈ g.spec.define dv →
    ∃ n, (n, l) ∈ s.registry.entries d ∧ (num = none ∨ num = some n)

/-- A session on the way of being defined: some groups are still to come. -/
structure Establishing (dv : DefineView) (B : Int → String → Prop) (todo : List Group)
    (w : Session × Store) : Prop where
  established : Established dv w.1 w.2
  acts : w.1.acts = dv.acts
  fresh : ∀ g ∈ todo, w.1.catalogOf g = g.catalog
  conforms : w.1.registry.Conforms (withBatteries B)

/-- What definition leaves as it was. -/
structure SameButDefined (w w' : Session × Store) : Prop where
  session : w'.1 = { w.1 with
    catalogs := w'.1.catalogs, defined := w'.1.defined, registry := w'.1.registry }
  records : w'.2.records = w.2.records
  pending : w'.2.pending = w.2.pending

theorem SameButDefined.refl (w : Session × Store) : SameButDefined w w := ⟨rfl, rfl, rfl⟩

theorem SameButDefined.trans {w w' w'' : Session × Store} (h : SameButDefined w w')
    (h' : SameButDefined w' w'') : SameButDefined w w'' where
  session := by
    rw [h'.session, h.session]
  records := h'.records.trans h.records
  pending := h'.pending.trans h.pending

/-- The instances of the batteries that definition asks for, as a rule has them. -/
def BatteriesKeepTo (B : Int → String → Prop) (dv : DefineView) : Prop :=
  ∀ d l num, .entry d l num ∈ Group.batteries.spec.define dv →
    d = Domain.battery ∧ ∃ n, num = some n ∧ B n l

theorem define_admits {dv : DefineView} {B : Int → String → Prop} (hB : BatteriesKeepTo B dv)
    (g : Group) {d : DomainId} {l : String} {num : Option Int}
    (he : .entry d l num ∈ g.spec.define dv) : (withBatteries B).Admits d l num := by
  by_cases hg : g = .batteries
  · subst hg
    obtain ⟨rfl, n, rfl, hn⟩ := hB d l num he
    show withBatteries B Domain.battery n l
    rw [withBatteries_battery]
    exact hn
  · exact ((Group.spec_keepsTo B hg).define dv d l num he).1

/-- The one way for the definition of a group to fail. -/
theorem define_unfit {dv : DefineView} {B : Int → String → Prop} (hB : BatteriesKeepTo B dv)
    {r : Registry} (hr : r.Conforms (withBatteries B)) {cause : DomainId} {l : String} {n : Int}
    (he : .entry cause l (some n) ∈ g.spec.define dv) (hf : ¬ r.Fits cause n l) :
    g = .batteries ∧ cause = Domain.battery ∧ ¬ OneToOne B := by
  have had := define_admits hB g he
  by_cases hg : g = .batteries
  · subst hg
    obtain ⟨rfl, _⟩ := hB _ _ _ he
    refine ⟨rfl, rfl, fun h1 => hf (hr.fits had ?_)⟩
    rw [withBatteries_battery]
    exact h1
  · have hacc := (Group.spec_keepsTo B hg).define dv _ _ _ he
    exact absurd (hr.fits had (hacc.2 rfl)) hf

variable {dv : DefineView} {B : Int → String → Prop} {todo : List Group}

theorem takes_eq {w : Session × Store} (h : Establishing dv B todo w) (g : Group) :
    w.1.takes g = taken dv g := by
  rw [takes, taken, h.established.config, h.acts]

/-- What the definition of a group leaves, where it ends well. -/
theorem Establishing.step {w : Session × Store} (h : Establishing dv B (g :: todo) w)
    (hnd : (g :: todo).Nodup) (hB : BatteriesKeepTo B dv) {c : Catalog} {b : Bench}
    (hdef : Bench.Defined (g.spec.define dv) g.catalog c ⟨w.1.registry, w.2⟩ b) :
    Establishing dv B todo ({ w.1.setCatalog g c with
      registry := b.registry, defined := w.1.defined ++ [g] }, b.store) := by
  have hcat : ∀ g', ({ w.1.setCatalog g c with
      registry := b.registry, defined := w.1.defined ++ [g] } : Session).catalogOf g' =
        if g' = g then c else w.1.catalogOf g' := fun g' =>
          catalogOf_setCatalog h.established.length
  refine ⟨⟨hdef.sound, h.established.config, ?_, fun g' => ?_, fun g' => ?_, ?_,
    fun g' hg' idx => ?_, fun g' hg' d l num he => ?_⟩, h.acts, fun g' hg' => ?_, ?_⟩
  · simpa [setCatalog] using h.established.length
  · rw [hcat]
    split
    · rename_i hg
      rw [hg, hdef.catalog.descriptors]
      rfl
    · exact h.established.descriptors g'
  · rw [hcat]
    split
    · exact hdef.catalog.truthful
    · exact (h.established.truthful g').gains hdef.catalog.gains
  · exact hdef.catalog.gains.subset h.established.metrics fun _ => Group.mem_metricsOfAll
  · rw [hcat]
    split
    · rename_i hg
      rw [hdef.catalog.handles, Group.catalog, Catalog.handle?_new, hg]
      simp [GroupSpec.asked, Catalog.size, Catalog.new, Group.metrics]
    · rename_i hg
      exact h.established.handles g'
        ((List.mem_append.mp hg').resolve_right (by simpa using hg)) idx
  · rcases List.mem_append.mp hg' with hg' | hg'
    · obtain ⟨n, hn, hnum⟩ := h.established.registered g' hg' d l num he
      exact ⟨n, hdef.registry.kept d _ hn, hnum⟩
    · rw [List.mem_singleton.mp hg'] at he
      exact hdef.registry.registered d l num (Definition.mem_requests.mpr he)
  · have hne : g' ≠ g := fun hg => (List.nodup_cons.mp hnd).1 (hg ▸ hg')
    rw [hcat, if_neg hne]
    exact h.fresh g' (List.mem_cons_of_mem g hg')
  · refine hdef.registry.conforms _ h.conforms fun d l num hq => ?_
    exact Or.inl (define_admits hB g (Definition.mem_requests.mp hq))

theorem defineGroup_outcome {w : Session × Store} (h : Establishing dv B (g :: todo) w)
    (hnd : (g :: todo).Nodup) (hB : BatteriesKeepTo B dv) (ht : taken dv g) :
    (∃ w', defineGroup dv.discovery g w = (.ok (), w') ∧ Establishing dv B todo w' ∧
        SameButDefined w w' ∧ w'.1.defined = w.1.defined ++ [g]) ∨
      ∃ cause w', defineGroup dv.discovery g w = (.error (.registry cause), w') ∧
        cause.domain = Domain.battery ∧ g = .batteries ∧ ¬ OneToOne B := by
  obtain ⟨s, store⟩ := w
  have hview : (⟨s.acts, s.config, dv.discovery⟩ : DefineView) = dv := by
    rw [h.acts, h.established.config]
  have hfresh := h.fresh g List.mem_cons_self
  have hdefs : Definable g.catalog.size false (g.spec.define dv) :=
    (Group.spec_selfContained g).definable dv
  have hout := Bench.defineAll_definable Group.identified_metricsOfAll h.established.sound
    (hfresh ▸ h.established.truthful g) (fun _ => rfl) h.established.metrics
    (fun _ => Group.mem_metricsOfAll) hdefs
  have htakes : s.takes g = true := (takes_eq h g).trans ht
  rcases hrun : attemptAll Bench.define (g.spec.define dv) (g.catalog, ⟨s.registry, store⟩) with
    ⟨outcome, c, b⟩
  rw [hrun] at hout
  rcases hout with ⟨hok, hdef⟩ | ⟨done, rest, cause, l, n, hdone, herr, hdef, hf⟩
  · obtain rfl : outcome = .ok () := hok
    refine Or.inl ⟨_, ?_, h.step hnd hB hdef, ⟨rfl, hdef.catalog.gains.records,
      hdef.catalog.gains.pending⟩, rfl⟩
    simp only [defineGroup, htakes, if_true, hview, hfresh, hrun]
    rfl
  · obtain rfl : outcome = .error (.registry cause) := herr
    have hmem : ∀ x ∈ done, x ∈ g.spec.define dv := fun x hx =>
      hdone ▸ List.mem_append_left _ hx
    have hconf := hdef.registry.conforms _ h.conforms fun d l num hq =>
      Or.inl (define_admits hB g (hmem _ (Definition.mem_requests.mp hq)))
    obtain ⟨hg, hd, h1⟩ := define_unfit (g := g) hB hconf (hdone ▸ by simp) hf
    refine Or.inr ⟨cause, (defineGroup dv.discovery g (s, store)).2,
      Prod.ext ?_ rfl, hd, hg, h1⟩
    simp only [defineGroup, htakes, if_true, hview, hfresh, hrun]

/-- Definition ends well, or at the batteries. -/
def EstablishOutcome (dv : DefineView) (B : Int → String → Prop) (todo : List Group)
    (w : Session × Store) (out : Attempt SessionError (Session × Store)) : Prop :=
  (out.1 = .ok () ∧ Establishing dv B [] out.2 ∧ SameButDefined w out.2 ∧
      out.2.1.defined = w.1.defined ++ todo.filter (taken dv)) ∨
    (∃ cause, out.1 = .error (.registry cause) ∧ cause.domain = Domain.battery) ∧
      Group.batteries ∈ todo.filter (taken dv) ∧ ¬ OneToOne B

theorem EstablishOutcome.cons {w w' : Session × Store}
    {out : Attempt SessionError (Session × Store)} {gs : List Group}
    (hsame : SameButDefined w w') (hdef : w'.1.defined = w.1.defined ++ gs)
    (hgs : (g :: todo).filter (taken dv) = gs ++ todo.filter (taken dv))
    (h : EstablishOutcome dv B todo w' out) : EstablishOutcome dv B (g :: todo) w out := by
  rcases h with ⟨hok, hest, hsame', hdef'⟩ | ⟨herr, hmem, h1⟩
  · refine Or.inl ⟨hok, hest, hsame.trans hsame', ?_⟩
    rw [hdef', hdef, hgs, List.append_assoc]
  · refine Or.inr ⟨herr, ?_, h1⟩
    rw [hgs]
    exact List.mem_append_right _ hmem

theorem Establishing.skip {w : Session × Store} (h : Establishing dv B (g :: todo) w) :
    Establishing dv B todo w :=
  ⟨h.established, h.acts, fun g' hg' => h.fresh g' (List.mem_cons_of_mem g hg'), h.conforms⟩

theorem defineAll_outcome {w : Session × Store} (h : Establishing dv B todo w) (hnd : todo.Nodup)
    (hB : BatteriesKeepTo B dv) :
    EstablishOutcome dv B todo w (attemptAll (defineGroup dv.discovery) todo w) := by
  induction todo generalizing w with
  | nil => exact Or.inl ⟨rfl, h, .refl w, by simp [attemptAll]⟩
  | cons g todo ih =>
    have hnd' := (List.nodup_cons.mp hnd).2
    by_cases ht : taken dv g
    · rcases defineGroup_outcome h hnd hB ht with
        ⟨w', hrun, hest, hsame, hdef⟩ | ⟨cause, w', hrun, hd, hg, h1⟩
      · rw [attemptAll_cons_ok hrun]
        exact .cons hsame hdef (by simp [ht]) (ih hest hnd')
      · rw [attemptAll_cons_error hrun]
        refine Or.inr ⟨⟨cause, rfl, hd⟩, ?_, h1⟩
        simp [ht, ← hg]
    · have hrun : defineGroup dv.discovery g w = (.ok (), w) := by
        simp [defineGroup, takes_eq h g, ht]
      rw [attemptAll_cons_ok hrun]
      exact .cons (.refl w) (List.append_nil _).symm (by simp [ht]) (ih h.skip hnd')

end Session

end ActivityArchive
