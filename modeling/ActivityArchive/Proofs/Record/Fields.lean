import ActivityArchive.Proofs.Json.RoundTrip
import ActivityArchive.Record.Groups

/-!
Records come back from their JSON: the fields of a record have different keys, and to copy every
field over the default record gives the record again (`Record.Described`). Only a number that is not
finite is written as something else.
-/
namespace ActivityArchive

open Json

namespace Field

variable {R : Type}

def key : Field R → String
  | .counter c => c.key
  | .text key _ _ => key
  | .real key _ _ => key
  | .window key _ _ => key

/-- Takes over the field of another record. -/
def copy : Field R → R → R → R
  | .counter c, source, r => c.copy source r
  | .text _ get set, source, r => set (get source) r
  | .real _ get set, source, r => set (get source) r
  | .window _ get set, source, r => set (get source) r

/-- A field that holds no infinity and no other value that is no number. -/
def Finite : Field R → R → Prop
  | .real _ get _, r => (get r).isFinite = true
  | _, _ => True

instance : (f : Field R) → (r : R) → Decidable (f.Finite r)
  | .real _ get _, r => inferInstanceAs (Decidable ((get r).isFinite = true))
  | .counter _, _ => inferInstanceAs (Decidable True)
  | .text .., _ => inferInstanceAs (Decidable True)
  | .window .., _ => inferInstanceAs (Decidable True)

/-- A field of which every value is written. -/
def isExact : Field R → Bool
  | .real .. => false
  | _ => true

theorem finite_of_isExact {f : Field R} (h : f.isExact = true) (r : R) : f.Finite r := by
  cases f with
  | real => cases h
  | _ => trivial

theorem key_member (f : Field R) : f.member.key = f.key := by
  cases f with
  | counter c => cases c <;> rfl
  | _ => rfl

end Field

theorem Window.read?_of_list {j : Json} {a b c : UInt64}
    (h : (Codec.list Codec.word64).read? j = some [a, b, c]) :
    Window.codec.read? j = some ⟨a, b, c⟩ := by
  unfold Window.codec
  dsimp only
  rw [h]

theorem Window.carries (w : Window) : Window.codec.Carries 1 w := by
  have hwords : (Codec.list Codec.word64).Carries 1 [w.short, w.middle, w.long] :=
    Codec.list_carries fun x _ => Codec.word64_carries x
  exact ⟨Window.read?_of_list hwords.read, hwords.whole⟩

theorem Field.carries {R : Type} {f : Field R} {r : R} (h : f.Finite r) :
    f.member.Carries 1 r (f.copy r) := by
  cases f with
  | counter c =>
    cases c with
    | word32 key get set =>
      exact Member.plain_carries ((Codec.word32_carries _).mono (Nat.zero_le 1))
    | word64 key get set =>
      exact Member.plain_carries ((Codec.word64_carries _).mono (Nat.zero_le 1))
  | text key get set => exact Member.plain_carries ((Codec.text_carries _).mono (Nat.zero_le 1))
  | real key get set => exact Member.plain_carries ((Codec.real_carries h).mono (Nat.zero_le 1))
  | window key get set => exact Member.plain_carries (Window.carries _)

namespace Record

/-- Records that are all there is in their fields, under different keys. -/
structure Described (R : Type) [Record R] : Prop where
  keys : ((fields (R := R)).map Field.key).Nodup
  copy : ∀ r : R, ((fields (R := R)).map (·.copy r)).foldl (fun x f => f x) default = r

def Finite {R : Type} [Record R] (r : R) : Prop := ∀ f ∈ fields (R := R), f.Finite r

instance {R : Type} [Record R] (r : R) : Decidable (Finite r) :=
  inferInstanceAs (Decidable (∀ _ ∈ _, _))

theorem keys_shape (R : Type) [Record R] :
    (shape R).members.map (·.key) = (fields (R := R)).map Field.key := by
  rw [shape, List.map_map]
  exact List.map_congr_left fun f _ => f.key_member

theorem carries {R : Type} [Record R] (h : Described R) {r : R} (hr : Finite r) :
    (codec R).Carries 2 r := by
  have hmembers : List.Forall₂ (fun m f => m.Carries 1 r f) (shape R).members
      ((fields (R := R)).map (·.copy r)) :=
    Member.carries_map fun f hf => Field.carries (hr f hf)
  exact Shape.carries (keys_shape R ▸ h.keys) hmembers (h.copy r)

theorem finite_of_isExact {R : Type} [Record R] (h : (fields (R := R)).all Field.isExact = true)
    (r : R) :
    Finite r := fun f hf => Field.finite_of_isExact (List.all_eq_true.mp h f hf) r

theorem described_header : Described HostHeader where
  keys := by decide +kernel
  copy r := by cases r; rfl

theorem finite_header (r : HostHeader) : Finite r := finite_of_isExact rfl r

end Record

theorem Single.described (k : Single) : Record.Described k.Rec where
  keys := by cases k <;> decide +kernel
  copy := by cases k <;> (intro r; cases r; rfl)

theorem Single.finite (k : Single) (r : k.Rec) : Record.Finite r :=
  Record.finite_of_isExact (by cases k <;> rfl) r

theorem Multi.described (k : Multi) : Record.Described k.Rec where
  keys := by cases k <;> decide +kernel
  copy := by cases k <;> (intro r; cases r; rfl)

/-- Only sensors of temperatures and voltages hold what may not be written. -/
theorem Multi.finite {k : Multi} (ht : k ≠ .temp) (hv : k ≠ .voltage) (r : k.Rec) :
    Record.Finite r := by
  refine Record.finite_of_isExact ?_ r
  cases k <;> first | rfl | exact absurd rfl ht | exact absurd rfl hv

end ActivityArchive
