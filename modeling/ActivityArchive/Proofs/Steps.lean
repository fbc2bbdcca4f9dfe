import ActivityArchive.Attempt

/-!
Lists of steps as a whole: what every step preserves holds at the end, whatever the outcome, and a
list of steps that can each be taken ends well. Steps from two states that are related end alike
where each of them does, with one cause of failure where it counts (`SameOutcome`), and steps of
which each two commute may be taken in any order. One call for each member of a list gives something
if all of the calls do.
-/
namespace ActivityArchive

section Bind

variable {A B E : Type} (f : A → Except E B)

theorem ok_bind (x : A) : (.ok x >>= f) = f x := rfl

theorem error_bind (e : E) : (.error e >>= f) = .error e := rfl

end Bind

section MapM

variable {A B E : Type} {f : A → Except E B} {g : A → B} {xs : List A} {ys : List B}

theorem mapM_ok (h : ∀ x ∈ xs, f x = .ok (g x)) : xs.mapM f = .ok (xs.map g) := by
  induction xs with
  | nil => rfl
  | cons x xs ih =>
    have hx := h x List.mem_cons_self
    have hxs := ih fun y hy => h y (List.mem_cons_of_mem x hy)
    simp [hx, hxs, bind, Except.bind, pure, Except.pure]

theorem mapM_congr {f' : A → Except E B} (h : ∀ x ∈ xs, f x = f' x) :
    xs.mapM f = xs.mapM f' := by
  induction xs with
  | nil => rfl
  | cons x xs ih =>
    rw [List.mapM_cons, List.mapM_cons, h x List.mem_cons_self,
      ih fun y hy => h y (List.mem_cons_of_mem x hy)]

theorem exists_mapM_ok (h : ∀ x ∈ xs, ∃ y, f x = .ok y) : ∃ ys, xs.mapM f = .ok ys := by
  induction xs with
  | nil => exact ⟨[], rfl⟩
  | cons x xs ih =>
    obtain ⟨y, hy⟩ := h x List.mem_cons_self
    obtain ⟨ys, hys⟩ := ih fun z hz => h z (List.mem_cons_of_mem x hz)
    exact ⟨y :: ys, by simp [hy, hys, bind, Except.bind, pure, Except.pure]⟩

theorem exists_of_mapM_ok (h : xs.mapM f = .ok ys) : ∀ y ∈ ys, ∃ x ∈ xs, f x = .ok y := by
  induction xs generalizing ys with
  | nil =>
    cases h
    simp
  | cons x xs ih =>
    rw [List.mapM_cons] at h
    rcases hx : f x with e | z <;> rw [hx] at h
    · cases h
    · rcases hrest : xs.mapM f with e | zs <;> rw [hrest] at h <;> cases h
      intro y hy
      rcases List.mem_cons.mp hy with rfl | hy
      · exact ⟨x, List.mem_cons_self, hx⟩
      · obtain ⟨x', hx', hy'⟩ := ih hrest y hy
        exact ⟨x', List.mem_cons_of_mem x hx', hy'⟩

end MapM

/-- A fold ends with what one of its steps brings about and the others keep. -/
theorem foldl_reaches {A S : Type} {P : S → Prop} {f : S → A → S} {xs : List A}
    {x : A} (hx : x ∈ xs)
    (hset : ∀ s, P (f s x)) (hkeep : ∀ y ∈ xs, ∀ s, P s → P (f s y)) (s : S) :
    P (xs.foldl f s) := by
  obtain ⟨before, after, rfl⟩ := List.append_of_mem hx
  rw [List.foldl_append, List.foldl_cons]
  exact List.foldlRecOn after f (hset _) fun s hs y hy =>
    hkeep y (List.mem_append_right _ (List.mem_cons_of_mem x hy)) s hs

/-- Two folds over one list whose steps keep a relation. -/
theorem foldl_related {A S T : Type} {R : S → T → Prop} {f : S → A → S}
    {g : T → A → T} {xs : List A}
    {s : S} {t : T} (h : R s t) (hstep : ∀ x ∈ xs, ∀ s t, R s t → R (f s x) (g t x)) :
    R (xs.foldl f s) (xs.foldl g t) := by
  induction xs generalizing s t with
  | nil => exact h
  | cons x xs ih =>
    exact ih (hstep x List.mem_cons_self s t h) fun y hy => hstep y (List.mem_cons_of_mem x hy)

section Log

variable {A S Q : Type} {step : S → A → S} {log : S → A → List Q}

/-- What the steps of a fold log, each in the state that it finds. -/
def logFold (step : S → A → S) (log : S → A → List Q) : List A → S → List Q
  | [], _ => []
  | a :: as, s => log s a ++ logFold step log as (step s a)

/-- Where every step keeps an invariant, all that is logged is logged under it. -/
theorem forall_logFold {P : S → Prop} {T : Q → Prop} {as : List A} {s : S} (hs : P s)
    (h : ∀ a ∈ as, ∀ s, P s → (∀ q ∈ log s a, T q) ∧ P (step s a)) :
    ∀ q ∈ logFold step log as s, T q := by
  induction as generalizing s with
  | nil => simp [logFold]
  | cons a as ih =>
    obtain ⟨hlog, hstep⟩ := h a List.mem_cons_self s hs
    intro q hq
    rcases List.mem_append.mp hq with hq | hq
    · exact hlog q hq
    · exact ih hstep (fun b hb => h b (List.mem_cons_of_mem a hb)) q hq

end Log

section Outcomes

variable {A B E S T : Type} {R : S → T → Prop} {x : Except E S} {y : Except E T}

/-- The same cause of failure, or results that are related. -/
inductive SameOutcome (R : S → T → Prop) : Except E S → Except E T → Prop
  | ok {s : S} {t : T} (h : R s t) : SameOutcome R (.ok s) (.ok t)
  | error (e : E) : SameOutcome R (.error e) (.error e)

theorem SameOutcome.bind {S' T' : Type} {R' : S' → T' → Prop} {f : S → Except E S'}
    {g : T → Except E T'} (h : SameOutcome R x y)
    (hfg : ∀ s t, R s t → SameOutcome R' (f s) (g t)) :
    SameOutcome R' (x >>= f) (y >>= g) := by
  cases h with
  | ok h => exact hfg _ _ h
  | error e => exact .error e

theorem SameOutcome.exists_ok {t : T} (h : SameOutcome R x (.ok t)) :
    ∃ s, x = .ok s ∧ R s t := by
  cases h with
  | ok h => exact ⟨_, rfl, h⟩

theorem SameOutcome.eq_error {e : E} (h : SameOutcome R x (.error e)) : x = .error e := by
  cases h with
  | error => rfl

/-- Related results that look the same. -/
theorem SameOutcome.map_eq {f : S → B} {g : T → B} (h : SameOutcome R x y)
    (hfg : ∀ s t, R s t → f s = g t) : x.map f = y.map g := by
  cases h with
  | ok h => exact congrArg Except.ok (hfg _ _ h)
  | error e => rfl

/-- Steps that end alike from related states do so as a whole. -/
theorem foldlM_sameOutcome {f : S → A → Except E S} {g : T → A → Except E T}
    {xs : List A} {s : S}
    {t : T} (h : R s t) (hstep : ∀ x ∈ xs, ∀ s t, R s t → SameOutcome R (f s x) (g t x)) :
    SameOutcome R (xs.foldlM f s) (xs.foldlM g t) := by
  induction xs generalizing s t with
  | nil => exact .ok h
  | cons x xs ih =>
    rw [List.foldlM_cons, List.foldlM_cons]
    exact (hstep x List.mem_cons_self s t h).bind fun s t h =>
      ih h fun y hy => hstep y (List.mem_cons_of_mem x hy)

theorem foldlM_flatMap (f : S → B → Except E S) (g : A → List B) (xs : List A) (s : S) :
    (xs.flatMap g).foldlM f s = xs.foldlM (fun s x => (g x).foldlM f s) s := by
  induction xs generalizing s with
  | nil => rfl
  | cons x xs ih =>
    rw [List.flatMap_cons, List.foldlM_append, List.foldlM_cons]
    exact congrArg _ (funext ih)

end Outcomes

section Reordering

variable {A B S : Type} {R : S → S → Prop} {f : S → A → S} {g : S → B → S} {s : S}

/-- Steps of one kind after steps of another one, where each two of them commute. -/
theorem foldl_comm_related (htrans : ∀ {s t u}, R s t → R t u → R s u)
    {xs : List A} {ys : List B} (hf : ∀ x ∈ xs, ∀ s t, R s t → R (f s x) (f t x))
    (hg : ∀ y ∈ ys, ∀ s t, R s t → R (g s y) (g t y))
    (hcomm : ∀ x ∈ xs, ∀ y ∈ ys, ∀ s, R s s → R (g (f s x) y) (f (g s y) x))
    (h : R s s) :
    R (ys.foldl g (xs.foldl f s)) (xs.foldl f (ys.foldl g s)) := by
  -- One step of the first kind past all of the second.
  have hpast : ∀ x ∈ xs, ∀ s, R s s → R (ys.foldl g (f s x)) (f (ys.foldl g s) x) := by
    intro x hx
    clear h
    induction ys with
    | nil => exact fun s h => hf x hx s s h
    | cons y ys ih =>
      intro s h
      have hrest := fun z hz => hg z (List.mem_cons_of_mem y hz)
      have hstep : R (g s y) (g s y) := hg y List.mem_cons_self s s h
      have hswap : R (ys.foldl g (g (f s x) y)) (ys.foldl g (f (g s y) x)) :=
        foldl_related (hcomm x hx y List.mem_cons_self s h) hrest
      exact htrans hswap
        (ih hrest (fun x hx z hz => hcomm x hx z (List.mem_cons_of_mem y hz)) (g s y) hstep)
  induction xs generalizing s with
  | nil =>
    have hsame : R (ys.foldl g s) (ys.foldl g s) := foldl_related h hg
    exact hsame
  | cons x xs ih =>
    have hrest := fun z hz => hf z (List.mem_cons_of_mem x hz)
    have hfirst := ih hrest (fun z hz => hcomm z (List.mem_cons_of_mem x hz))
      (hf x List.mem_cons_self s s h) fun z hz => hpast z (List.mem_cons_of_mem x hz)
    exact htrans hfirst (foldl_related (hpast x List.mem_cons_self s h) hrest)

/-- Steps in another order, where each two of them commute. -/
theorem foldl_perm_related {apart : A → A → Prop} (hapart : ∀ {x y}, apart x y → apart y x)
    (htrans : ∀ {s t u}, R s t → R t u → R s u) (hf : ∀ x s t, R s t → R (f s x) (f t x))
    (hcomm : ∀ x y, apart x y → ∀ s, R s s → R (f (f s x) y) (f (f s y) x)) {xs ys : List A}
    (hperm : xs.Perm ys) (hxs : xs.Pairwise apart) (h : R s s) :
    R (xs.foldl f s) (ys.foldl f s) := by
  induction hperm generalizing s with
  | nil => exact h
  | cons x _ ih => exact ih (List.pairwise_cons.mp hxs).2 (hf x s s h)
  | swap x y xs =>
    have hxy := (List.pairwise_cons.mp hxs).1 x List.mem_cons_self
    exact foldl_related (hcomm y x hxy s h) fun z _ => hf z
  | trans hfirst _ ih ih' =>
    exact htrans (ih hxs h) (ih' ((hfirst.pairwise_iff hapart).mp hxs) h)

end Reordering

variable {A E S : Type} {step : A → S → Attempt E S}

theorem attemptAll_cons_ok {a : A} {as : List A} {s s' : S} (h : step a s = (.ok (), s')) :
    attemptAll step (a :: as) s = attemptAll step as s' := by
  simp [attemptAll, h]

theorem attemptAll_cons_error {a : A} {as : List A} {s s' : S} {e : E}
    (h : step a s = (.error e, s')) : attemptAll step (a :: as) s = (.error e, s') := by
  simp [attemptAll, h]

theorem attemptAll_preserves {P : S → Prop} {as : List A} {s : S} (hs : P s)
    (h : ∀ a ∈ as, ∀ s, P s → P (step a s).2) : P (attemptAll step as s).2 := by
  induction as generalizing s with
  | nil => exact hs
  | cons a as ih =>
    have ha := h a List.mem_cons_self s hs
    have hrest := fun b hb => h b (List.mem_cons_of_mem a hb)
    rcases hstep : step a s with ⟨_ | _, s'⟩ <;> rw [hstep] at ha
    · rw [attemptAll_cons_error hstep]
      exact ha
    · rw [attemptAll_cons_ok hstep]
      exact ih ha hrest

theorem attemptAll_ok {P : S → Prop} {as : List A} {s : S} (hs : P s)
    (h : ∀ a ∈ as, ∀ s, P s → (step a s).1 = .ok () ∧ P (step a s).2) :
    (attemptAll step as s).1 = .ok () ∧ P (attemptAll step as s).2 := by
  induction as generalizing s with
  | nil => exact ⟨rfl, hs⟩
  | cons a as ih =>
    obtain ⟨hok, ha⟩ := h a List.mem_cons_self s hs
    have hstep : step a s = (.ok (), (step a s).2) := Prod.ext hok rfl
    rw [attemptAll_cons_ok hstep]
    exact ih ha fun b hb => h b (List.mem_cons_of_mem a hb)

/-- A list of steps ends with an error of one of them. -/
theorem exists_of_attemptAll_error {as : List A} {s : S} {e : E}
    (h : (attemptAll step as s).1 = .error e) : ∃ a ∈ as, ∃ t, (step a t).1 = .error e := by
  induction as generalizing s with
  | nil => cases h
  | cons a as ih =>
    rcases hstep : step a s with ⟨_ | _, s'⟩
    · rw [attemptAll_cons_error hstep] at h
      exact ⟨a, List.mem_cons_self, s, by rw [hstep]; exact h⟩
    · rw [attemptAll_cons_ok hstep] at h
      obtain ⟨b, hb, t, ht⟩ := ih h
      exact ⟨b, List.mem_cons_of_mem a hb, t, ht⟩

/-- Steps that keep a relation between two states, with the same outcome, do so as a whole. -/
theorem attemptAll_related {R : S → S → Prop} {as : List A} {s t : S} (h : R s t)
    (hstep : ∀ a ∈ as, ∀ s t, R s t → (step a s).1 = (step a t).1 ∧
      R (step a s).2 (step a t).2) :
    (attemptAll step as s).1 = (attemptAll step as t).1 ∧
      R (attemptAll step as s).2 (attemptAll step as t).2 := by
  induction as generalizing s t with
  | nil => exact ⟨rfl, h⟩
  | cons a as ih =>
    obtain ⟨hout, hrel⟩ := hstep a List.mem_cons_self s t h
    have hrest := fun b hb => hstep b (List.mem_cons_of_mem a hb)
    rcases hs : step a s with ⟨_ | _, s'⟩ <;> rcases ht : step a t with ⟨_ | _, t'⟩ <;>
      simp only [hs, ht] at hout hrel
    · rw [attemptAll_cons_error hs, attemptAll_cons_error ht]
      exact ⟨hout, hrel⟩
    · cases hout
    · cases hout
    · rw [attemptAll_cons_ok hs, attemptAll_cons_ok ht]
      exact ih hrel hrest

end ActivityArchive
