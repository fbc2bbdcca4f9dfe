import ActivityArchive.Group.Keyed
import ActivityArchive.Group.Sensor
import ActivityArchive.Proofs.Instance.Numbering

/-!
The rules of the numbered domains. A rule pairs numbers with labels: the entries of a table, or a
number and a label for each item. Only the batteries have no rule of their own, since their labels
do not come from their positions.
-/
namespace ActivityArchive

namespace Text

theorem decimal_injective {m n : Nat} (h : decimal m = decimal n) : m = n := by
  have hd : Nat.toDigits 10 m = Nat.toDigits 10 n := by
    rw [← toList_decimal, ← toList_decimal, h]
  have key : ∀ n, ofDigits 10 (Nat.toDigits 10 n) = n := ofDigits_toDigits (by decide) (by decide)
  rw [← key m, hd, key n]

theorem append_decimal_injective {start : String} {m n : Nat}
    (h : start ++ decimal m = start ++ decimal n) : m = n := by
  have hl := congrArg String.toList h
  rw [String.toList_append, String.toList_append] at hl
  exact decimal_injective (String.toList_injective (List.append_cancel_left hl))

end Text

namespace Numbering

/-- A number and a label for each item. -/
def paired {A : Type} (number : A → Int) (label : A → String) (n : Int) (l : String) : Prop :=
  ∃ a, number a = n ∧ label a = l

def listed (entries : List Entry) (n : Int) (l : String) : Prop := (n, l) ∈ entries

theorem oneToOne_paired {A : Type} {number : A → Int} {label : A → String}
    (h : ∀ a b, number a = number b ↔ label a = label b) : OneToOne (paired number label) := by
  rintro _ _ ⟨a, rfl, rfl⟩ _ _ ⟨b, rfl, rfl⟩
  exact h a b

theorem oneToOne_listed {entries : List Entry} (h : entries.Pairwise Registry.Apart) :
    OneToOne (listed entries) := by
  intro n l hn m k hm
  constructor <;> intro hx
  · exact congrArg Prod.snd (Registry.eq_of_apart h hn hm (Or.inl hx))
  · exact congrArg Prod.fst (Registry.eq_of_apart h hn hm (Or.inr hx))

/-- Labels that count from zero. -/
theorem oneToOne_counted {label : Nat → String} (h : ∀ i j, label i = label j → i = j) :
    OneToOne (paired (fun i : Nat => (i : Int)) label) := by
  refine oneToOne_paired fun i j => ⟨fun hij => ?_, fun hij => ?_⟩
  · have : i = j := by omega
    rw [this]
  · rw [h i j hij]

open GroupSpec in
def rules : List (DomainId × (Int → String → Prop)) :=
  [ (Domain.perCpu, paired (fun cpu : Nat => (cpu : Int)) Domain.cpuLabel),
    (Domain.loadAverage, listed Domain.loadPeriods),
    (Domain.nfsRequest, listed Domain.nfsRequests),
    (Domain.pressure, listed Domain.pressureWindows),
    (Domain.serial, paired signed32 serialLabel),
    (Domain.fan, paired (fun i : Nat => (i : Int)) fun i => "fan" ++ Text.decimal (i + 1)),
    (Domain.temperature, paired (fun i : Nat => (i : Int)) fun i => "temp" ++ Text.decimal (i + 1)),
    (Domain.voltage, paired (fun i : Nat => (i : Int)) fun i => "in" ++ Text.decimal i),
    (Domain.usb, paired (fun i : Nat => (i : Int)) fun i => "usb" ++ Text.decimal i) ]

theorem eq_of_bmod_eq {a b m : Nat} (ha : a < m) (hb : b < m)
    (h : Int.bmod a m = Int.bmod b m) : a = b := by
  have hmod : Int.bmod a m % m = Int.bmod b m % m := by rw [h]
  rw [Int.bmod_emod, Int.bmod_emod, Int.emod_eq_of_lt (by omega) (by omega),
    Int.emod_eq_of_lt (by omega) (by omega)] at hmod
  omega

theorem signed32_injective {x y : UInt32} (h : GroupSpec.signed32 x = GroupSpec.signed32 y) :
    x = y :=
  UInt32.toNat_inj.mp (eq_of_bmod_eq x.toNat_lt y.toNat_lt h)

theorem serialLabel_injective {x y : UInt32}
    (h : GroupSpec.serialLabel x = GroupSpec.serialLabel y) : x = y :=
  UInt32.toNat_inj.mp (Text.append_decimal_injective h)

theorem oneToOne_rules {d : DomainId} {R : Int → String → Prop} (h : (d, R) ∈ rules) :
    OneToOne R := by
  simp only [rules, List.mem_cons, Prod.mk.injEq, List.not_mem_nil, or_false] at h
  rcases h with ⟨-, rfl⟩ | ⟨-, rfl⟩ | ⟨-, rfl⟩ | ⟨-, rfl⟩ | ⟨-, rfl⟩
    | ⟨-, rfl⟩ | ⟨-, rfl⟩ |
    ⟨-, rfl⟩ | ⟨-, rfl⟩
  · exact oneToOne_counted fun _ _ => Text.append_decimal_injective
  · exact oneToOne_listed (by simp [Domain.loadPeriods, Registry.Apart])
  · exact oneToOne_listed (by simp [Domain.nfsRequests, Registry.Apart])
  · exact oneToOne_listed (by simp [Domain.pressureWindows, Registry.Apart])
  · refine oneToOne_paired fun x y => ⟨fun h => ?_, fun h => ?_⟩
    · rw [signed32_injective h]
    · rw [serialLabel_injective h]
  · exact oneToOne_counted fun i j h => Nat.succ_inj.mp (Text.append_decimal_injective h)
  · exact oneToOne_counted fun i j h => Nat.succ_inj.mp (Text.append_decimal_injective h)
  · exact oneToOne_counted fun _ _ => Text.append_decimal_injective
  · exact oneToOne_counted fun _ _ => Text.append_decimal_injective

/-- The rules, with one for the batteries. -/
def withBatteries (R : Int → String → Prop) : Numbering :=
  ofRules ((Domain.battery, R) :: rules)

/-- The domains that are not free. -/
def ruled : List DomainId :=
  [Domain.battery, Domain.perCpu, Domain.loadAverage, Domain.nfsRequest, Domain.pressure,
    Domain.serial, Domain.fan, Domain.temperature, Domain.voltage, Domain.usb]

theorem map_rules (B : Int → String → Prop) :
    ((Domain.battery, B) :: rules).map (·.1) = ruled := rfl

theorem nodup_ruled : ruled.Nodup := by decide

/-- A request that is admitted, and whose number can only be refused where it is not. -/
def Accepts (N : Numbering) (q : Request) : Prop :=
  N.Admits q.1 q.2.1 q.2.2 ∧ (q.2.2.isSome → OneToOne (N q.1))

theorem accepts_ruled {d : DomainId} {R B : Int → String → Prop} {n : Int} {l : String}
    (hd : (d, R) ∈ rules) (h : R n l) : (withBatteries B).Accepts (d, l, some n) := by
  have he : withBatteries B d = R :=
    ofRules_eq (map_rules B ▸ nodup_ruled) (List.mem_cons_of_mem _ hd)
  refine ⟨?_, fun _ => ?_⟩
  · show withBatteries B d n l
    rw [he]
    exact h
  · show OneToOne (withBatteries B d)
    rw [he]
    exact oneToOne_rules hd

theorem accepts_free {d : DomainId} {B : Int → String → Prop} {l : String}
    (hd : d ∉ ruled) : (withBatteries B).Accepts (d, l, none) :=
  ⟨fun n => free_ofRules (map_rules B ▸ hd) n l, by simp⟩

theorem withBatteries_battery (B : Int → String → Prop) : withBatteries B Domain.battery = B :=
  ofRules_eq (map_rules B ▸ nodup_ruled) List.mem_cons_self

end Numbering

end ActivityArchive
