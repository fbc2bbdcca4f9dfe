import ActivityArchive.Proofs.Catalog.Handles
import ActivityArchive.Proofs.Session.Registration

/-!
Runs of definitions. A catalog that is open can be defined as a whole, or metric by metric; of such
definitions nothing but the number of an instance can be refused (`defineAll_definable`).
-/
namespace ActivityArchive

namespace Definition

def request? : Definition → Option Request
  | .entry d l num => some (d, l, num)
  | _ => none

/-- The metrics that a definition asks for, of a catalog of a size. -/
def indices (size : Nat) : Definition → List Nat
  | .table => List.range size
  | .metric idx => [idx]
  | .entry .. => []

theorem mem_requests {ds : List Definition} {d : DomainId} {l : String} {num : Option Int} :
    (d, l, num) ∈ ds.filterMap request? ↔ .entry d l num ∈ ds := by
  rw [List.mem_filterMap]
  constructor
  · rintro ⟨e, he, hq⟩
    cases e with
    | table => simp [request?] at hq
    | metric idx => simp [request?] at hq
    | entry d' l' num' =>
      obtain ⟨rfl, rfl, rfl⟩ : d' = d ∧ l' = l ∧ num' = num := by simpa [request?] using hq
      exact he
  · intro he
    exact ⟨_, he, rfl⟩

end Definition

/-- Definitions that ask for nothing of a closed catalog, nor for a metric it does not have. -/
def Definable (size : Nat) : Bool → List Definition → Prop
  | _, [] => True
  | closed, .table :: ds => closed = false ∧ Definable size true ds
  | closed, .metric idx :: ds => closed = false ∧ idx < size ∧ Definable size closed ds
  | closed, .entry .. :: ds => Definable size closed ds

theorem definable_entries {size : Nat} {closed : Bool} {ds : List Definition}
    (h : ∀ x ∈ ds, ∃ d l num, x = .entry d l num) : Definable size closed ds := by
  induction ds with
  | nil => trivial
  | cons x ds ih =>
    obtain ⟨d, l, num, rfl⟩ := h x List.mem_cons_self
    exact ih fun y hy => h y (List.mem_cons_of_mem _ hy)

/-- Metrics one by one, and instances. -/
def Definition.OneByOne (size : Nat) : Definition → Prop
  | .table => False
  | .metric idx => idx < size
  | .entry .. => True

instance (size : Nat) (idx : Nat) : Decidable ((Definition.metric idx).OneByOne size) :=
  inferInstanceAs (Decidable (idx < size))

theorem definable_oneByOne {size : Nat} {ds : List Definition} (h : ∀ x ∈ ds, x.OneByOne size) :
    Definable size false ds := by
  induction ds with
  | nil => trivial
  | cons x ds ih =>
    have hx := h x List.mem_cons_self
    have hds := ih fun y hy => h y (List.mem_cons_of_mem x hy)
    cases x with
    | table => exact hx.elim
    | metric idx => exact ⟨rfl, hx, hds⟩
    | entry d l num => exact hds

namespace Bench

variable {b b' b'' : Bench} {c c' c'' : Catalog} {ds : List Definition} {N : Numbering}

/-- What a run of definitions leaves behind. -/
structure Defined (ds : List Definition) (c c' : Catalog) (b b' : Bench) : Prop where
  sound : b'.Sound
  registry : Registry.Registered (ds.filterMap Definition.request?) b.registry b'.registry
  catalog : Catalog.Handled (ds.flatMap (Definition.indices c.size)) c c' b.store b'.store

theorem Defined.nil (hb : b.Sound) (hc : c.Truthful b.store.metrics) : Defined [] c c b b :=
  ⟨hb, .nil _, .nil hc⟩

theorem Defined.append {ds ds' : List Definition} (h : Defined ds c c' b b')
    (h' : Defined ds' c' c'' b' b'') : Defined (ds ++ ds') c c'' b b'' where
  sound := h'.sound
  registry := by
    rw [List.filterMap_append]
    exact h.registry.append h'.registry
  catalog := by
    have hsize : c'.size = c.size := congrArg List.length h.catalog.descriptors
    rw [List.flatMap_append]
    exact h.catalog.append (hsize ▸ h'.catalog)

theorem Defined.adopt {d : DomainId} {l : String} {num : Option Int} {r : Registry}
    (hc : c.Truthful b.store.metrics) (hb : (b.adopt r).Sound)
    (hr : Registry.Registered [(d, l, num)] b.registry r) :
    Defined [.entry d l num] c c b (b.adopt r) :=
  ⟨hb, hr, ⟨rfl, rfl, ⟨hc.length, hc.lookup⟩,
    ⟨⟨[], by simp [Bench.adopt], by simp⟩, rfl, rfl, rfl⟩,
    by simp [Definition.indices]⟩⟩

theorem Defined.handled {x : Definition} {s : Store} (hb : b.Sound) (hx : x.request? = none)
    (h : Catalog.Handled (x.indices c.size) c c' b.store s)
    (hinst : s.instances = b.store.instances) : Defined [x] c c' b { b with store := s } where
  sound := ⟨hb.wellFormed, hinst.trans hb.inStep, h.gains.isSealed.trans hb.unsealed⟩
  registry := by
    rw [List.filterMap_cons_none hx]
    exact .nil _
  catalog := by simpa using h

/-- Definitions end well, or at one whose explicit number does not fit. -/
def DefineOutcome (ds : List Definition) (c : Catalog) (b : Bench)
    (out : Attempt SessionError (Catalog × Bench)) : Prop :=
  (out.1 = .ok () ∧ Defined ds c out.2.1 b out.2.2) ∨
    ∃ done rest cause l n, ds = done ++ .entry cause.domain l (some n) :: rest ∧
      out.1 = .error (.registry cause) ∧ Defined done c out.2.1 b out.2.2 ∧
      ¬ out.2.2.registry.Fits cause.domain n l

theorem DefineOutcome.cons {x : Definition} (hx : define x (c, b) = (.ok (), c', b'))
    (hdef : Defined [x] c c' b b') (h : DefineOutcome ds c' b' (attemptAll define ds (c', b'))) :
    DefineOutcome (x :: ds) c b (attemptAll define (x :: ds) (c, b)) := by
  rw [attemptAll_cons_ok hx]
  rcases h with ⟨hok, hb'⟩ | ⟨done, rest, cause, l, n, hds, herr, hb', hf⟩
  · exact Or.inl ⟨hok, hdef.append hb'⟩
  · exact Or.inr ⟨x :: done, rest, cause, l, n, by rw [hds, List.cons_append], herr,
      hdef.append hb', hf⟩

theorem defineAll_definable {known : List Descriptor} {closed : Bool} (hknown : Identified known)
    (hb : b.Sound) (hc : c.Truthful b.store.metrics)
    (hclosed : closed = false → c.isClosed = false)
    (hsub : ∀ m ∈ b.store.metrics, m ∈ known) (hcsub : ∀ m ∈ c.descriptors, m ∈ known)
    (hds : Definable c.size closed ds) :
    DefineOutcome ds c b (attemptAll define ds (c, b)) := by
  induction ds generalizing c b closed with
  | nil => exact Or.inl ⟨rfl, .nil hb hc⟩
  | cons x ds ih =>
    cases x with
    | table =>
      obtain ⟨c', s', hrun, h', hinst⟩ :=
        Catalog.define_ok hc (hclosed hds.1) hb.unsealed hknown
        hsub hcsub
      have hsize : c'.size = c.size := congrArg List.length h'.descriptors
      have hdef : Defined [.table] c c' b { b with store := s' } := .handled hb rfl h' hinst
      refine .cons (by simp [define, hrun, onCatalog]) hdef ?_
      have hrest : Definable c'.size true ds := hsize ▸ hds.2
      refine ih hdef.sound h'.truthful (by simp) ?_ ?_ hrest
      · exact h'.gains.subset hsub hcsub
      · exact h'.descriptors ▸ hcsub
    | metric idx =>
      obtain ⟨hfalse, hidx, hrest⟩ := hds
      obtain ⟨c', s', hrun, h', hopen, hinst⟩ := Catalog.defineStep_ok hc (hclosed hfalse)
        hb.unsealed (fun d hd m hm => hknown m (hsub m hm) d (hcsub d hd)) hidx
      have hsize : c'.size = c.size := congrArg List.length h'.descriptors
      have hdef : Defined [.metric idx] c c' b { b with store := s' } := .handled hb rfl h' hinst
      refine .cons (by simp [define, hrun, onCatalog]) hdef ?_
      refine ih hdef.sound h'.truthful (fun _ => hopen) ?_ ?_ (hsize ▸ hrest)
      · exact h'.gains.subset hsub hcsub
      · exact h'.descriptors ▸ hcsub
    | entry d l num =>
      rcases register_outcome hb c.group d l num with
        ⟨r, hreg, hsound, hr⟩ | ⟨n, cause, hreg, hd, hnum, hf⟩
      · refine .cons (by simp [define, hreg]) (.adopt hc hsound hr) ?_
        exact ih hsound ⟨hc.length, hc.lookup⟩ hclosed hsub hcsub hds
      · subst hd hnum
        have hx : define (.entry cause.domain l (some n)) (c, b) =
            (.error (.registry cause), c, b) := by simp [define, hreg]
        rw [attemptAll_cons_error hx]
        exact Or.inr ⟨[], ds, cause, l, n, rfl, rfl, .nil hb hc, hf⟩

end Bench

end ActivityArchive
