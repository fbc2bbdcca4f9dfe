import ActivityArchive.Activity.Activities
import ActivityArchive.Proofs.Steps

/-!
The parts of the activities: the host, one for each kind of records, and the interrupts. Parts are
independent of each other, and together they are all there is (`ext_parts`). A change that touches
one part is determined by that part.
-/
namespace ActivityArchive

open Record

inductive Part where
  | header
  | single (k : Single)
  | multi (k : Multi)
  | interrupts
  deriving DecidableEq

def Part.State : Part → Type
  | .header => HostHeader
  | .single k => Activity k.Rec
  | .multi k => Activity k.Rec
  | .interrupts => Interrupts

namespace Activities

def part (a : Activities) : (t : Part) → t.State
  | .header => a.header
  | .single k => a.single k
  | .multi k => a.multi k
  | .interrupts => a.irq

def setPart (a : Activities) : (t : Part) → t.State → Activities
  | .header, x => { a with header := x }
  | .single k, x => { a with toGroups := a.setSingle k x }
  | .multi k, x => { a with toGroups := a.setMulti k x }
  | .interrupts, x => { a with irq := x }

variable {a b : Activities} {t t' : Part}

@[simp] theorem part_setPart (a : Activities) (t : Part) (x : t.State) :
    (a.setPart t x).part t = x := by
  cases t with
  | header => rfl
  | single k => exact Groups.single_setSingle a.toGroups k x
  | multi k => exact Groups.multi_setMulti a.toGroups k x
  | interrupts => rfl

theorem part_setPart_ne (h : t' ≠ t) (x : t.State) : (a.setPart t x).part t' = a.part t' := by
  cases t with
  | header => cases t' <;> first | rfl | exact absurd rfl h
  | single k =>
    cases t' with
    | single l => exact Groups.single_setSingle_ne a.toGroups (fun hl => h (by rw [hl])) x
    | multi l => exact Groups.multi_setSingle a.toGroups l k x
    | header | interrupts => rfl
  | multi k =>
    cases t' with
    | single l => exact Groups.single_setMulti a.toGroups l k x
    | multi l => exact Groups.multi_setMulti_ne a.toGroups (fun hl => h (by rw [hl])) x
    | header | interrupts => rfl
  | interrupts => cases t' <;> first | rfl | exact absurd rfl h

theorem ext_parts (h : ∀ t, a.part t = b.part t) : a = b := by
  obtain ⟨g, header, irq⟩ := a
  obtain ⟨g', header', irq'⟩ := b
  obtain rfl : g = g' := Groups.ext_kinds (fun k => h (.single k)) (fun k => h (.multi k))
  obtain rfl : header = header' := h .header
  obtain rfl : irq = irq' := h .interrupts
  rfl

theorem setPart_part (a : Activities) (t : Part) : a.setPart t (a.part t) = a := by
  apply ext_parts
  intro t'
  by_cases h : t' = t
  · subst h
    exact part_setPart a t' _
  · exact part_setPart_ne h _

theorem setPart_setPart (a : Activities) (t : Part) (x y : t.State) :
    (a.setPart t x).setPart t y = a.setPart t y := by
  apply ext_parts
  intro t'
  by_cases h : t' = t
  · subst h
    simp
  · simp [part_setPart_ne h]

/-- Activities that are related part by part. -/
def Related (Q : (t : Part) → t.State → t.State → Prop) (a b : Activities) : Prop :=
  ∀ t, Q t (a.part t) (b.part t)

section Related

variable {Q : (t : Part) → t.State → t.State → Prop}

theorem Related.setPart (h : Related Q a b) {x y : t.State} (hxy : Q t x y) :
    Related Q (a.setPart t x) (b.setPart t y) := by
  intro t'
  by_cases ht : t' = t
  · subst ht
    rw [part_setPart, part_setPart]
    exact hxy
  · rw [part_setPart_ne ht, part_setPart_ne ht]
    exact h t'

theorem Related.foldl {A : Type} {f : Activities → A → Activities}
    (h : Related Q a b) (xs : List A)
    (hf : ∀ x a b, Related Q a b → Related Q (f a x) (f b x)) :
    Related Q (xs.foldl f a) (xs.foldl f b) :=
  foldl_related (R := Related Q) h fun x _ => hf x

end Related

/-- A change of one part that looks at nothing else. -/
def Touches (t : Part) (f : Activities → Activities) : Prop :=
  ∃ F : t.State → t.State, ∀ a, f a = a.setPart t (F (a.part t))

theorem touches_id (t : Part) : Touches t id := ⟨id, fun a => (setPart_part a t).symm⟩

theorem Touches.comp {f g : Activities → Activities} (hf : Touches t f) (hg : Touches t g) :
    Touches t fun a => g (f a) := by
  obtain ⟨F, hF⟩ := hf
  obtain ⟨G, hG⟩ := hg
  refine ⟨fun x => G (F x), fun a => ?_⟩
  show g (f a) = _
  rw [hG, hF, part_setPart, setPart_setPart]

theorem Touches.foldl {A : Type} {f : Activities → A → Activities} (xs : List A)
    (h : ∀ x, Touches t fun a => f a x) : Touches t fun a => xs.foldl f a := by
  induction xs with
  | nil => exact touches_id t
  | cons x xs ih => exact (h x).comp ih

theorem Touches.part_ne {f : Activities → Activities} (hf : Touches t f) (h : t' ≠ t)
    (a : Activities) : (f a).part t' = a.part t' := by
  obtain ⟨F, hF⟩ := hf
  rw [hF, part_setPart_ne h]

theorem Touches.part_congr {f : Activities → Activities} (hf : Touches t f)
    (h : a.part t = b.part t) : (f a).part t = (f b).part t := by
  obtain ⟨F, hF⟩ := hf
  rw [hF, hF, part_setPart, part_setPart, h]

theorem touches_updateSingle (k : Single) (f : Activity k.Rec → Activity k.Rec) :
    Touches (.single k) fun a => a.updateSingle k f := ⟨f, fun _ => rfl⟩

theorem touches_updateMulti (k : Multi) (f : Activity k.Rec → Activity k.Rec) :
    Touches (.multi k) fun a => a.updateMulti k f := ⟨f, fun _ => rfl⟩

end Activities

end ActivityArchive
