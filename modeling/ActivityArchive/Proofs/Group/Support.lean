import ActivityArchive.Proofs.Activity.Plan
import ActivityArchive.Proofs.Group.Single
import ActivityArchive.Proofs.Session.Definitions
import ActivityArchive.Proofs.Session.Emissions

/-!
What makes the values of a group supported. A group is self-contained when its definition asks only
for metrics that it has, and when it emits only values of metrics that it has defined, under
instances that it has registered.
-/
namespace ActivityArchive

variable {metrics : List Descriptor} {defined : Nat → Prop} {known : DomainId → String → Prop}

/-- A value of a defined metric, under a known instance where the metric has instances. -/
def Emission.Backed (metrics : List Descriptor) (defined : Nat → Prop)
    (known : DomainId → String → Prop) : Emission → Prop
  | .entry .. => True
  | .value idx label _ => defined idx ∧ ∃ m, metrics[idx]? = some m ∧
      ∀ d, m.domain = some d → ∃ l, label = some l ∧ known d l
  | .fault _ => False

theorem Supported.of_backed {es : List Emission}
    (h : ∀ e ∈ es, e.Backed metrics defined known) : Supported metrics defined known es := by
  induction es with
  | nil => trivial
  | cons e es ih =>
    have he := h e List.mem_cons_self
    have hes := ih fun e' he' => h e' (List.mem_cons_of_mem e he')
    cases e with
    | entry d l num => exact hes.mono fun _ _ => Or.inl
    | value idx label v => exact ⟨he, hes⟩
    | fault cause => exact he.elim

/-- A range of metrics that have all the same instances, or none at all. -/
def Spans (metrics : List Descriptor) (start n : Nat) (domain : Option DomainId) : Prop :=
  ((metrics.drop start).take n).map (·.domain) = List.replicate n domain

theorem Spans.getElem? {start n i : Nat} {domain : Option DomainId}
    (h : Spans metrics start n domain) (hi : i < n) :
    ∃ m, metrics[start + i]? = some m ∧ m.domain = domain := by
  have hget := congrArg (·[i]?) h
  simpa [List.getElem?_take_of_lt hi, hi] using hget

theorem Spans.lt {start n i : Nat} {domain : Option DomainId} (h : Spans metrics start n domain)
    (hi : i < n) : start + i < metrics.length := by
  obtain ⟨m, hm, _⟩ := h.getElem? hi
  exact (List.getElem?_eq_some_iff.mp hm).1

theorem spans_of_all {domain : Option DomainId} (h : ∀ m ∈ metrics, m.domain = domain) :
    Spans metrics 0 metrics.length domain := by
  simp only [Spans, List.drop_zero, List.take_length]
  exact List.map_eq_replicate_iff.mpr h

namespace GroupSpec

theorem backed_singular {start : Nat} {values : List Value}
    (h : Spans metrics start values.length none)
    (hdef : ∀ i < values.length, defined (start + i)) :
    ∀ e ∈ singular start values, e.Backed metrics defined known := by
  intro e he
  obtain ⟨i, hi, rfl⟩ := List.mem_mapIdx.mp he
  obtain ⟨m, hm, hd⟩ := h.getElem? hi
  exact ⟨hdef i hi, m, hm, by simp [hd]⟩

theorem backed_ofInstance {start : Nat} {values : List Value} {d : DomainId} {l : String}
    (h : Spans metrics start values.length (some d)) (hl : known d l)
    (hdef : ∀ i < values.length, defined (start + i)) :
    ∀ e ∈ ofInstance start l values, e.Backed metrics defined known := by
  intro e he
  obtain ⟨i, hi, rfl⟩ := List.mem_mapIdx.mp he
  obtain ⟨m, hm, hd⟩ := h.getElem? hi
  refine ⟨hdef i hi, m, hm, fun d' hd' => ⟨l, rfl, ?_⟩⟩
  obtain rfl : d = d' := Option.some.inj (hd.symm.trans hd')
  exact hl

theorem backed_emitFixed {idx : Nat} {entries : List Entry} {values : List Value} {d : DomainId}
    (h : Spans metrics idx 1 (some d)) (hl : ∀ e ∈ entries, known d e.2) (hdef : defined idx) :
    ∀ e ∈ emitFixed idx entries values, e.Backed metrics defined known := by
  intro e he
  obtain ⟨⟨⟨n, l⟩, v⟩, hp, rfl⟩ := List.mem_map.mp he
  obtain ⟨m, hm, hd⟩ := h.getElem? (i := 0) (by omega)
  refine ⟨hdef, m, hm, fun d' hd' => ⟨l, rfl, ?_⟩⟩
  obtain rfl : d = d' := Option.some.inj (hd.symm.trans hd')
  exact hl _ (List.of_mem_zip hp).1

/-- The metrics of a group that a definition asks for. -/
def asked (g : GroupSpec) (view : DefineView) : List Nat :=
  (g.define view).flatMap (Definition.indices g.metrics.length)

structure SelfContained (g : GroupSpec) : Prop where
  definable : ∀ view, Definable g.metrics.length false (g.define view)
  later : ∀ view, view.acts.irq.grid.Sized → Activities.Later view.acts (g.emit view).1
  supported : ∀ (dv : DefineView) (ev : ExportView), (∀ idx, ev.isDefined idx ↔
    idx ∈ g.asked dv) → Activities.Later dv.acts ev.acts → ev.acts.irq.grid.Sized →
    Supported g.metrics (ev.isDefined ·) (fun d l => ∃ num, .entry d l num ∈ g.define dv)
      (g.emit ev).2

section Table

variable {g : GroupSpec} {entries : DefineView → List Definition}

/-- A group that defines its whole table. -/
structure Tabular (g : GroupSpec) (entries : DefineView → List Definition) : Prop where
  define : ∀ view, g.define view = .table :: entries view
  entry : ∀ view, ∀ x ∈ entries view, ∃ d l num, x = .entry d l num

theorem Tabular.definable (h : g.Tabular entries) (view : DefineView) :
    Definable g.metrics.length false (g.define view) := by
  rw [h.define]
  exact ⟨rfl, definable_entries (h.entry view)⟩

theorem Tabular.mem_asked (h : g.Tabular entries) (view : DefineView) {idx : Nat}
    (hidx : idx < g.metrics.length) : idx ∈ g.asked view := by
  rw [asked, h.define]
  exact List.mem_flatMap.mpr ⟨_, List.mem_cons_self, List.mem_range.mpr hidx⟩

theorem Tabular.entry_mem (h : g.Tabular entries) {view : DefineView} {d : DomainId} {l : String}
    {num : Option Int} (he : .entry d l num ∈ entries view) :
    .entry d l num ∈ g.define view := by
  rw [h.define]
  exact List.mem_cons_of_mem _ he

theorem tabular_bare (h : ∀ view, g.define view = [.table]) : g.Tabular fun _ => [] :=
  ⟨h, by simp⟩

theorem tabular_fixed {domain : DomainId} {es : List Entry}
    (h : ∀ view, g.define view = .table :: fixed domain es) :
    g.Tabular fun _ => fixed domain es where
  define := h
  entry _ x hx := by
    obtain ⟨⟨n, l⟩, _, rfl⟩ := List.mem_map.mp hx
    exact ⟨_, _, _, rfl⟩

end Table

theorem Writes.selfContained {g : GroupSpec} {k : Single} {F : Writer k} (h : g.Writes k F)
    (hdef : ∀ view, Definable g.metrics.length false (g.define view))
    (hF : ∀ dv isDefined r, (∀ idx, isDefined idx ↔ idx ∈ g.asked dv) →
      ∀ e ∈ F isDefined r, e.Backed g.metrics (isDefined ·)
        (fun d l => ∃ num, .entry d l num ∈ g.define dv)) : g.SelfContained where
  definable := hdef
  later view _ := by
    rw [h.emit]
    exact .refl _
  supported dv ev hd _ _ := by
    rw [h.emit]
    cases single? ev k with
    | none => trivial
    | some r => exact .of_backed (hF dv ev.isDefined r hd)

/-- A group whose table has singular metrics only. -/
theorem Writes.selfContained_singular {g : GroupSpec} {k : Single} {values : k.Rec → List Value}
    (h : g.Writes k fun _ r => singular 0 (values r)) (ht : ∀ view, g.define view = [.table])
    (hs : ∀ r, Spans g.metrics 0 (values r).length none) : g.SelfContained := by
  have htab := tabular_bare ht
  refine h.selfContained htab.definable fun dv isDefined r hd => backed_singular (hs r) ?_
  intro i hi
  exact (hd _).mpr (htab.mem_asked dv ((hs r).lt hi))

/-- A group that has one metric with fixed instances behind its singular ones. -/
theorem Writes.selfContained_fixed {g : GroupSpec} {k : Single}
    {values amounts : k.Rec → List Value} {domain : DomainId} {es : List Entry} {n : Nat}
    (h : g.Writes k fun _ r => singular 0 (values r) ++ emitFixed n es (amounts r))
    (ht : ∀ view, g.define view = .table :: fixed domain es)
    (hs : ∀ r, Spans g.metrics 0 (values r).length none)
    (hn : Spans g.metrics n 1 (some domain)) :
    g.SelfContained := by
  have htab := tabular_fixed ht
  refine h.selfContained htab.definable fun dv isDefined r hd e he => ?_
  rcases List.mem_append.mp he with he | he
  · refine backed_singular (hs r) (fun i hi => ?_) e he
    exact (hd _).mpr (htab.mem_asked dv ((hs r).lt hi))
  · have hknown : ∀ x ∈ es, ∃ num, .entry domain x.2 num ∈ g.define dv := fun x hx =>
      ⟨some x.1, htab.entry_mem (List.mem_map.mpr ⟨x, hx, rfl⟩)⟩
    exact backed_emitFixed hn hknown ((hd n).mpr (htab.mem_asked dv (hn.lt (Nat.one_pos)))) e he

end GroupSpec

end ActivityArchive
