import ActivityArchive.Proofs.Catalog.Handles
import ActivityArchive.Proofs.Session.Registration

/-!
Runs of emissions. A list of emissions is supported when each value has a handle and stands behind
the registration of its instance. Of supported emissions nothing but the number of an instance can
be refused (`emitAll_supported`).
-/
namespace ActivityArchive

namespace Emission

def request? : Emission → Option Request
  | .entry d l num => some (d, l, num)
  | _ => none

/-- The value that an emission leaves in the queue. -/
def stored? (metrics : List Descriptor) : Emission → Option StoredValue
  | .value idx label v =>
    metrics[idx]?.map fun m => ⟨m.id, m.domain.bind fun _ => label, v.text⟩
  | _ => none

theorem mem_requests {es : List Emission} {d : DomainId} {l : String} {num : Option Int} :
    (d, l, num) ∈ es.filterMap request? ↔ .entry d l num ∈ es := by
  rw [List.mem_filterMap]
  constructor
  · rintro ⟨e, he, hq⟩
    cases e with
    | entry d' l' num' =>
      obtain ⟨rfl, rfl, rfl⟩ : d' = d ∧ l' = l ∧ num' = num := by simpa [request?] using hq
      exact he
    | value idx label v => simp [request?] at hq
    | fault cause => simp [request?] at hq
  · intro he
    exact ⟨_, he, rfl⟩

end Emission

/-- Emissions that name only metrics with a handle, and only instances that are known or that they
register before. -/
def Supported (metrics : List Descriptor) (defined : Nat → Prop) :
    (DomainId → String → Prop) → List Emission → Prop
  | _, [] => True
  | known, .entry d l _ :: es =>
    Supported metrics defined (fun d' l' => known d' l' ∨ (d' = d ∧ l' = l)) es
  | known, .value idx label _ :: es =>
    (defined idx ∧ ∃ m, metrics[idx]? = some m ∧
      ∀ d, m.domain = some d → ∃ l, label = some l ∧ known d l) ∧
      Supported metrics defined known es
  | _, .fault _ :: _ => False

namespace Supported

variable {metrics : List Descriptor} {defined : Nat → Prop}
  {known known' : DomainId → String → Prop}
  {es fs : List Emission}

theorem mono (h : Supported metrics defined known es) (hk : ∀ d l, known d l → known' d l) :
    Supported metrics defined known' es := by
  induction es generalizing known known' with
  | nil => trivial
  | cons e es ih =>
    cases e with
    | entry d l num => exact ih h fun d' l' => Or.imp (hk d' l') id
    | value idx label v =>
      obtain ⟨⟨hd, m, hm, hl⟩, hes⟩ := h
      refine ⟨⟨hd, m, hm, fun d hmd => ?_⟩, ih hes hk⟩
      obtain ⟨l, hlab, hkl⟩ := hl d hmd
      exact ⟨l, hlab, hk d l hkl⟩
    | fault cause => exact h.elim

/-- A value stands for a defined metric, under an instance that is known or registered with it. -/
theorem value (h : Supported metrics defined known es) {idx : Nat}
    {label : Option String} {v : Value} (he : .value idx label v ∈ es) :
    defined idx ∧ ∃ m, metrics[idx]? = some m ∧ ∀ d, m.domain = some d →
      ∃ l, label = some l ∧ (known d l ∨ ∃ num, .entry d l num ∈ es) := by
  induction es generalizing known with
  | nil => simp at he
  | cons e es ih =>
    cases e with
    | entry d l num =>
      obtain ⟨hdef, m, hm, hl⟩ := ih h (by simpa using he)
      refine ⟨hdef, m, hm, fun d' hd => ?_⟩
      obtain ⟨l', hlab, (hk | ⟨rfl, rfl⟩) | ⟨num', hnum⟩⟩ := hl d' hd
      · exact ⟨l', hlab, Or.inl hk⟩
      · exact ⟨l', hlab, Or.inr ⟨num, List.mem_cons_self⟩⟩
      · exact ⟨l', hlab, Or.inr ⟨num', List.mem_cons_of_mem _ hnum⟩⟩
    | value idx' label' v' =>
      rcases List.mem_cons.mp he with he | he
      · cases he
        obtain ⟨hdef, m, hm, hl⟩ := h.1
        refine ⟨hdef, m, hm, fun d hd => ?_⟩
        obtain ⟨l, hlab, hk⟩ := hl d hd
        exact ⟨l, hlab, Or.inl hk⟩
      · obtain ⟨hdef, m, hm, hl⟩ := ih h.2 he
        refine ⟨hdef, m, hm, fun d hd => ?_⟩
        obtain ⟨l, hlab, hk⟩ := hl d hd
        exact ⟨l, hlab, hk.imp_right fun ⟨num, hnum⟩ =>
          ⟨num, List.mem_cons_of_mem _ hnum⟩⟩
    | fault cause => exact h.elim

theorem append (h : Supported metrics defined known es) (h' : Supported metrics defined known fs) :
    Supported metrics defined known (es ++ fs) := by
  induction es generalizing known with
  | nil => exact h'
  | cons e es ih =>
    cases e with
    | entry d l num => exact ih h (h'.mono fun _ _ => Or.inl)
    | value idx label v => exact ⟨h.1, ih h.2 h'⟩
    | fault cause => exact h.elim

theorem flatMap {A : Type} {xs : List A} {f : A → List Emission}
    (h : ∀ x ∈ xs, Supported metrics defined known (f x)) :
    Supported metrics defined known (xs.flatMap f) := by
  induction xs with
  | nil => trivial
  | cons x xs ih =>
    rw [List.flatMap_cons]
    exact (h x List.mem_cons_self).append (ih fun y hy => h y (List.mem_cons_of_mem x hy))

end Supported

namespace Bench

variable {b b' b'' : Bench} {c : Catalog} {es : List Emission} {defined : Nat → Prop}
  {known : DomainId → String → Prop} {N : Numbering}

def queue (b : Bench) (v : StoredValue) : Bench :=
  { b with store := { b.store with pending := b.store.pending ++ [v] } }

theorem put_eq {idx : Nat} {label : Option String} {m : Descriptor} (hb : b.Sound)
    (hc : c.Truthful b.store.metrics) (hm : c.descriptors[idx]? = some m)
    (hh : (c.handle? idx).isSome)
    (hl : ∀ d, m.domain = some d → ∃ l n, label = some l ∧ (n, l) ∈ b.registry.entries d)
    (v : Value) :
    b.put c idx label v = (.ok (), b.queue ⟨m.id, m.domain.bind fun _ => label, v.text⟩) := by
  obtain ⟨h, hh⟩ := Option.isSome_iff_exists.mp hh
  obtain ⟨m', hm', hs⟩ := hc.lookup idx h hh
  obtain rfl : m = m' := Option.some.inj (hm.symm.trans hm')
  have hkept : b.store.instanceFor m label = .ok (m.domain.bind fun _ => label) := by
    cases hd : m.domain with
    | none => simp [Store.instanceFor, hd]
    | some d =>
      obtain ⟨l, n, rfl, hn⟩ := hl d hd
      simp [Store.instanceFor, hd, hb.inStep, Registry.number?_isSome_iff.mpr ⟨n, hn⟩]
  simp [put, Catalog.resolve, hm, hh, Store.put, hb.unsealed, hs, hkept, Except.map, Bench.queue]

/-- What a run of emissions leaves behind. -/
structure Emitted (c : Catalog) (es : List Emission) (b b' : Bench) : Prop where
  sound : b'.Sound
  registry : Registry.Registered (es.filterMap Emission.request?) b.registry b'.registry
  metrics : b'.store.metrics = b.store.metrics
  records : b'.store.records = b.store.records
  pending : b'.store.pending = b.store.pending ++ es.filterMap (Emission.stored? c.descriptors)

theorem Emitted.nil (hb : b.Sound) : Emitted c [] b b :=
  ⟨hb, .nil _, rfl, rfl, by simp⟩

theorem Emitted.append {es es' : List Emission} (h : Emitted c es b b')
    (h' : Emitted c es' b' b'') :
    Emitted c (es ++ es') b b'' where
  sound := h'.sound
  registry := by
    rw [List.filterMap_append]
    exact h.registry.append h'.registry
  metrics := h'.metrics.trans h.metrics
  records := h'.records.trans h.records
  pending := by rw [h'.pending, h.pending, List.append_assoc, List.filterMap_append]

theorem Emitted.adopt {d : DomainId} {l : String} {num : Option Int} {r : Registry}
    (hb : (b.adopt r).Sound) (hr : Registry.Registered [(d, l, num)] b.registry r) :
    Emitted c [.entry d l num] b (b.adopt r) :=
  ⟨hb, hr, rfl, rfl, by simp [Emission.stored?, Bench.adopt]⟩

theorem Emitted.queue {idx : Nat} {label : Option String} {v : Value} {m : Descriptor}
    (hb : b.Sound) (hm : c.descriptors[idx]? = some m) :
    Emitted c [.value idx label v] b
      (b.queue ⟨m.id, m.domain.bind fun _ => label, v.text⟩) where
  sound := ⟨hb.wellFormed, hb.inStep, hb.unsealed⟩
  registry := .nil _
  metrics := rfl
  records := rfl
  pending := by simp [Emission.stored?, hm, Bench.queue]

/-- Emissions end well, or at one whose explicit number does not fit. -/
def Outcome (c : Catalog) (es : List Emission) (b : Bench) (out : Attempt SessionError Bench) :
    Prop :=
  (out.1 = .ok () ∧ Emitted c es b out.2) ∨
    ∃ done rest cause l n, es = done ++ .entry cause.domain l (some n) :: rest ∧
      out.1 = .error (.registry cause) ∧ Emitted c done b out.2 ∧
      ¬ out.2.registry.Fits cause.domain n l

theorem Outcome.cons {e : Emission} (he : emit c e b = (.ok (), b')) (hem : Emitted c [e] b b')
    (h : Outcome c es b' (attemptAll (emit c) es b')) :
    Outcome c (e :: es) b (attemptAll (emit c) (e :: es) b) := by
  rw [attemptAll_cons_ok he]
  rcases h with ⟨hok, hb'⟩ | ⟨done, rest, cause, l, n, hes, herr, hb', hf⟩
  · exact Or.inl ⟨hok, hem.append hb'⟩
  · exact Or.inr ⟨e :: done, rest, cause, l, n, by rw [hes, List.cons_append], herr,
      hem.append hb', hf⟩

theorem emitAll_supported (hb : b.Sound) (hc : c.Truthful b.store.metrics)
    (hdef : ∀ idx, defined idx → (c.handle? idx).isSome)
    (hk : ∀ d l, known d l → ∃ n, (n, l) ∈ b.registry.entries d)
    (hs : Supported c.descriptors defined known es) :
    Outcome c es b (attemptAll (emit c) es b) := by
  induction es generalizing b known with
  | nil => exact Or.inl ⟨rfl, .nil hb⟩
  | cons e es ih =>
    cases e with
    | entry d l num =>
      rcases register_outcome hb c.group d l num with
        ⟨r, hreg, hsound, hr⟩ | ⟨n, cause, hreg, hd, hnum, hf⟩
      · refine .cons hreg (.adopt hsound hr) (ih hsound hc ?_ hs)
        rintro d' l' (hk' | ⟨rfl, rfl⟩)
        · obtain ⟨n, hn⟩ := hk d' l' hk'
          exact ⟨n, hr.kept d' _ hn⟩
        · obtain ⟨n, hn, _⟩ := hr.registered d' l' num (by simp)
          exact ⟨n, hn⟩
      · subst hd hnum
        have he : emit c (.entry cause.domain l (some n)) b = (.error (.registry cause), b) := hreg
        rw [attemptAll_cons_error he]
        exact Or.inr ⟨[], es, cause, l, n, rfl, rfl, .nil hb, hf⟩
    | value idx label v =>
      obtain ⟨⟨hd, m, hm, hlab⟩, hes⟩ := hs
      have hreg : ∀ d, m.domain = some d →
          ∃ l n, label = some l ∧ (n, l) ∈ b.registry.entries d := by
        intro d hmd
        obtain ⟨l, hl, hkl⟩ := hlab d hmd
        obtain ⟨n, hn⟩ := hk d l hkl
        exact ⟨l, n, hl, hn⟩
      have hem : Emitted c [.value idx label v] b _ := .queue hb hm
      exact .cons (put_eq hb hc hm (hdef idx hd) hreg v) hem (ih hem.sound hc hk hes)
    | fault cause => exact hs.elim

end Bench

end ActivityArchive
