import ActivityArchive.Json.Shape
import Mathlib.Data.List.Forall2

/-!
Values that come back from their JSON. A codec carries a value when it reads what it writes of it,
and writes nothing that is lost and nothing deeper than it says (`Codec.Carries`). A record is
carried when each of its members reads as one change of the record and all changes together make the
record of a blank one (`Shape.carries`); a member that is left out must be one that may be missing.
-/
namespace ActivityArchive.Json

/-- A whole number of `2 * half` values around zero. -/
def Within (half : Nat) (i : Int) : Prop := -half ≤ i ∧ i < half

instance (half : Nat) (i : Int) : Decidable (Within half i) := inferInstanceAs (Decidable (_ ∧ _))

/-- A value that is read from what is written of it, which is whole and at most `n` levels deep. -/
structure Codec.Carries {A : Type} (c : Codec A) (n : Nat) (a : A) : Prop where
  read : c.read? (c.write a) = some a
  whole : ∀ depth, (c.write a).whole (depth + n) = true

namespace Codec

variable {A B : Type} {n : Nat}

theorem Carries.mono {c : Codec A} {a : A} {m : Nat} (h : c.Carries n a) (hle : n ≤ m) :
    c.Carries m a where
  read := h.read
  whole depth := by
    have hsum : depth + m = depth + (m - n) + n := by omega
    rw [hsum]
    exact h.whole _

/-- A type that is written as another one. -/
theorem Carries.wrapped {c : Codec A} {d : Codec B} {wrap : A → B} {unwrap : B → A} {b : B}
    (h : c.Carries n (unwrap b)) (hwrite : d.write b = c.write (unwrap b))
    (hread : ∀ j, d.read? j = (c.read? j).map wrap) (hb : wrap (unwrap b) = b) :
    d.Carries n b where
  read := by rw [hwrite, hread, h.read, Option.map_some, hb]
  whole depth := by
    rw [hwrite]
    exact h.whole depth

theorem natural_carries {bound m : Nat} (h : m < bound) : (natural bound).Carries 0 m where
  read := by
    have hm : (0 : Int) ≤ m ∧ (m : Int) < bound := by omega
    simp [natural, hm]
  whole _ := rfl

theorem signed_carries {half : Nat} {i : Int} (h : Within half i) : (signed half).Carries 0 i :=
  ⟨if_pos h, fun _ => rfl⟩

theorem word32_carries (x : UInt32) : word32.Carries 0 x :=
  (natural_carries x.toNat_lt_size).wrapped rfl (fun _ => rfl) UInt32.ofNat_toNat

theorem word64_carries (x : UInt64) : word64.Carries 0 x :=
  (natural_carries x.toNat_lt_size).wrapped rfl (fun _ => rfl) UInt64.ofNat_toNat

theorem bool_carries (b : Bool) : bool.Carries 0 b := ⟨rfl, fun _ => rfl⟩

theorem text_carries (s : String) : text.Carries 0 s := ⟨rfl, fun _ => rfl⟩

theorem real_carries {x : Float} (h : x.isFinite = true) : real.Carries 0 x := by
  have hwrite : real.write x = .real x := if_pos h
  exact ⟨by rw [hwrite]; rfl, fun _ => by rw [hwrite]; rfl⟩

/-- Alternatives are told apart by their names. -/
theorem choice_carries {all : List A} {name : A → String} {a : A} (ha : a ∈ all)
    (hname : ∀ b ∈ all, name b = name a → b = a) : (choice all name).Carries 0 a where
  read := by
    show all.find? (name · == name a) = some a
    cases hfind : all.find? (name · == name a) with
    | none => exact absurd (beq_self_eq_true (name a)) (List.find?_eq_none.mp hfind a ha)
    | some b =>
      have hb : name b = name a := by simpa using List.find?_some hfind
      rw [hname b (List.mem_of_find?_eq_some hfind) hb]
  whole _ := rfl

theorem mapM_read? {c : Codec A} {xs : List A} (h : ∀ x ∈ xs, c.read? (c.write x) = some x) :
    (xs.map c.write).mapM c.read? = some xs := by
  induction xs with
  | nil => rfl
  | cons x xs ih =>
    rw [List.map_cons, List.mapM_cons, h x List.mem_cons_self,
      ih fun y hy => h y (List.mem_cons_of_mem x hy)]
    rfl

theorem wholeItems_map {c : Codec A} {xs : List A} {depth : Nat}
    (h : ∀ x ∈ xs, (c.write x).whole depth = true) :
    whole.wholeItems depth (xs.map c.write) = true := by
  induction xs with
  | nil => rfl
  | cons x xs ih =>
    rw [List.map_cons, whole.wholeItems, h x List.mem_cons_self,
      ih fun y hy => h y (List.mem_cons_of_mem x hy)]
    rfl

theorem list_carries {c : Codec A} {xs : List A} (h : ∀ x ∈ xs, c.Carries n x) :
    c.list.Carries (n + 1) xs where
  read := mapM_read? fun x hx => (h x hx).read
  whole depth := wholeItems_map fun x hx => (h x hx).whole depth

theorem option_none_carries (c : Codec A) : c.option.Carries 0 none := ⟨rfl, fun _ => rfl⟩

/-- What is not written as null may be left out. -/
theorem option_some_carries {c : Codec A} {a : A} (h : c.Carries n a)
    (hnull : c.write a ≠ .null) :
    c.option.Carries n (some a) where
  read := by
    show c.option.read? (c.write a) = some (some a)
    have hread : c.option.read? (c.write a) = (c.read? (c.write a)).map some := by
      cases hj : c.write a <;> first | rfl | exact absurd hj hnull
    rw [hread, h.read, Option.map_some]
  whole := h.whole

end Codec

/-- A member of `s` that reads as the change `f`, or that is left out and may be. -/
structure Member.Carries {S : Type} (m : Member S) (n : Nat) (s : S) (f : S → S) : Prop where
  read : ∀ j, m.write s = some j → ∀ t, m.read? j t = some (f t)
  whole : ∀ j, m.write s = some j → ∀ depth, j.whole (depth + n) = true
  absent : m.write s = none → m.absence ≠ .never ∧ f = id

namespace Member

variable {S A : Type} {n : Nat} {key : String} {c : Codec A} {s : S}

theorem plain_carries {absence : Absence} {get : S → A} {set : A → S → S}
    (h : c.Carries n (get s)) : (plain key absence c get set).Carries n s (set (get s)) where
  read j hj t := by
    cases hj
    show (c.read? (c.write (get s))).map (fun a => set a t) = _
    rw [h.read, Option.map_some]
  whole j hj := by
    cases hj
    exact h.whole
  absent hj := by cases hj

/-- An optional member changes a record where there is one. -/
theorem optional_carries {get : S → Option A} {set : Option A → S → S}
    (h : ∀ a, get s = some a → c.Carries n a ∧ c.write a ≠ .null) :
    (optional key c get set).Carries n s fun t => (get s).elim t fun a => set (some a) t where
  read j hj t := by
    obtain ⟨a, ha, rfl⟩ := Option.map_eq_some_iff.mp hj
    have hread := (Codec.option_some_carries (h a ha).1 (h a ha).2).read
    show (c.option.read? (c.write a)).map (fun a => set a t) = _
    rw [show c.write a = c.option.write (some a) from rfl, hread, ha]
    rfl
  whole j hj := by
    obtain ⟨a, ha, rfl⟩ := Option.map_eq_some_iff.mp hj
    exact (h a ha).1.whole
  absent hj := by
    have hnone : get s = none := Option.map_eq_none_iff.mp hj
    exact ⟨nofun, by rw [hnone]; rfl⟩

/-- A list member changes a record where the list is not empty. -/
theorem many_carries {get : S → List A} {set : List A → S → S}
    (h : c.list.Carries n (get s)) :
    (many key c get set).Carries n s fun t => if (get s).isEmpty then t else set (get s) t where
  read j hj t := by
    obtain ⟨hne, hj⟩ : (get s).isEmpty = false ∧ c.list.write (get s) = j := by
      simpa [many] using hj
    show (c.list.read? j).map (fun a => set a t) = _
    rw [← hj, h.read, if_neg (by simp [hne])]
    rfl
  whole j hj := by
    obtain ⟨-, rfl⟩ : (get s).isEmpty = false ∧ c.list.write (get s) = j := by
      simpa [many] using hj
    exact h.whole
  absent hj := by
    have hempty : (get s).isEmpty = true := by simpa [many] using hj
    exact ⟨nofun, by simp only [hempty]; rfl⟩

theorem Carries.alone {m : Member S} {f : S → S} (h : m.Carries n s f) :
    List.Forall₂ (fun m f => m.Carries n s f) [m] [f] := .cons h .nil

/-- Members made from one list with their changes. -/
theorem carries_map {m : A → Member S} {f : A → S → S} {xs : List A}
    (h : ∀ x ∈ xs, (m x).Carries n s (f x)) :
    List.Forall₂ (fun m f => m.Carries n s f) (xs.map m) (xs.map f) := by
  rw [List.forall₂_map_left_iff, List.forall₂_map_right_iff, List.forall₂_same]
  exact h

end Member

namespace Shape

variable {S : Type} {n : Nat} {s : S}

/-- A member of a record, as it stands in the object of the record. -/
def written (s : S) (m : Member S) : Option (String × Json) := (m.write s).map fun j => (m.key, j)

/-- Members with different keys are found in the object by their keys. -/
theorem filter_written {ms : List (Member S)} (hkeys : (ms.map (·.key)).Nodup) {m : Member S}
    (hm : m ∈ ms) : (ms.filterMap (written s)).filter (·.1 == m.key) = (written s m).toList := by
  have hkey : ∀ m' : Member S, ∀ x, written s m' = some x → x.1 = m'.key := by
    intro m' x hx
    obtain ⟨j, -, rfl⟩ := Option.map_eq_some_iff.mp hx
    rfl
  -- Members under other keys leave nothing.
  have hnone : ∀ ms : List (Member S), m.key ∉ ms.map (·.key) →
      (ms.filterMap (written s)).filter (·.1 == m.key) = [] := by
    intro ms hm
    rw [List.filter_eq_nil_iff]
    intro x hx heq
    obtain ⟨m', hm', hx⟩ := List.mem_filterMap.mp hx
    have hsame : x.1 = m.key := by simpa using heq
    exact hm (List.mem_map.mpr ⟨m', hm', (hkey m' x hx).symm.trans hsame⟩)
  induction ms with
  | nil => cases hm
  | cons m' ms ih =>
    obtain ⟨hfresh, hkeys⟩ := List.nodup_cons.mp hkeys
    rcases List.mem_cons.mp hm with rfl | hm
    · cases hw : written s m with
      | none =>
        rw [List.filterMap_cons_none hw]
        exact hnone ms hfresh
      | some x =>
        rw [List.filterMap_cons_some hw, List.filter_cons_of_pos (by simp [hkey m x hw]),
          hnone ms hfresh]
        rfl
    · have hne : m'.key ≠ m.key := fun he => hfresh (List.mem_map.mpr ⟨m, hm, he.symm⟩)
      rw [← ih hkeys hm]
      cases hw : written s m' with
      | none => rw [List.filterMap_cons_none hw]
      | some x =>
        rw [List.filterMap_cons_some hw,
          List.filter_cons_of_neg (by simpa [hkey m' x hw] using hne)]

theorem readMember?_eq {given : List (String × Json)} {m : Member S} {f : S → S}
    (h : m.Carries n s f) (hgiven : given.filter (·.1 == m.key) = (written s m).toList) (t : S) :
    readMember? given t m = some (f t) := by
  unfold readMember?
  rw [hgiven, written]
  cases hw : m.write s with
  | none =>
    obtain ⟨habsence, rfl⟩ := h.absent hw
    simp [habsence]
  | some j => exact h.read j hw t

theorem foldlM_readMember? {given : List (String × Json)} {ms : List (Member S)}
    {fs : List (S → S)} (h : List.Forall₂ (fun m f => m.Carries n s f) ms fs)
    (hgiven : ∀ m ∈ ms, given.filter (·.1 == m.key) = (written s m).toList) (t : S) :
    ms.foldlM (readMember? given) t = some (fs.foldl (fun x f => f x) t) := by
  induction h generalizing t with
  | nil => rfl
  | cons hm _ ih =>
    rw [List.foldlM_cons, readMember?_eq hm (hgiven _ List.mem_cons_self)]
    exact ih (fun m hm => hgiven m (List.mem_cons_of_mem _ hm)) _

theorem wholeMembers_written {ms : List (Member S)} {depth : Nat}
    (h : ∀ m ∈ ms, ∀ j, m.write s = some j → j.whole depth = true) :
    whole.wholeMembers depth (ms.filterMap (written s)) = true := by
  induction ms with
  | nil => rfl
  | cons m ms ih =>
    have hrest := ih fun m' hm' => h m' (List.mem_cons_of_mem m hm')
    cases hw : m.write s with
    | none => rwa [List.filterMap_cons_none (by simp [written, hw])]
    | some j =>
      have hj : written s m = some (m.key, j) := by simp [written, hw]
      rw [List.filterMap_cons_some hj, whole.wholeMembers, h m List.mem_cons_self j hw, hrest]
      rfl

/-- A record comes back where the changes that its members read as make it of a blank record. -/
theorem carries {shape : Shape S} {fs : List (S → S)} (hkeys : (shape.members.map (·.key)).Nodup)
    (h : List.Forall₂ (fun m f => m.Carries n s f) shape.members fs)
    (hfs : fs.foldl (fun x f => f x) shape.blank = s) : shape.codec.Carries (n + 1) s where
  read := by
    show shape.members.foldlM (readMember? (shape.members.filterMap (written s))) shape.blank =
      some s
    rw [foldlM_readMember? h (fun m hm => filter_written hkeys hm), hfs]
  whole depth := by
    show whole.wholeMembers (depth + n) (shape.members.filterMap (written s)) = true
    refine wholeMembers_written fun m hm j hj => ?_
    obtain ⟨i, hi, rfl⟩ := List.mem_iff_getElem.mp hm
    have hi' : i < fs.length := h.length_eq ▸ hi
    exact (h.get hi hi').whole j hj depth

theorem write_codec_ne_null (shape : Shape S) (s : S) : shape.codec.write s ≠ .null := nofun

end Shape

end ActivityArchive.Json
