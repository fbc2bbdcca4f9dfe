import ActivityArchive.Proofs.Group.Commuting
import ActivityArchive.Proofs.Group.ItemRestoring
import Mathlib.Data.Sum.Basic

/-!
The groups one by one: different metrics of a group change different fields of its records, and none
of them the key of an item (`Group.spec_commutes`).
-/
namespace ActivityArchive

open Activities GroupSpec Record

/-- Different places of a list whose members are pairwise related. -/
theorem rel_of_getElem? {A : Type} {P : A → A → Prop}
    (hsymm : ∀ {x y}, P x y → P y x) {xs : List A}
    (h : xs.Pairwise P) {i j : Nat} (hne : i ≠ j) {x y : A} (hx : xs[i]? = some x)
    (hy : xs[j]? = some y) : P x y := by
  obtain ⟨hi, rfl⟩ := List.getElem?_eq_some_iff.mp hx
  obtain ⟨hj, rfl⟩ := List.getElem?_eq_some_iff.mp hy
  rcases Nat.lt_or_gt_of_ne hne with hlt | hlt
  · exact List.pairwise_iff_getElem.mp h i j hi hj hlt
  · exact hsymm (List.pairwise_iff_getElem.mp h j i hj hi hlt)

namespace Counter

variable {R : Type} {c c' : Counter R} {v : Value} {f : R → R}

/-- Puts a word into the field. -/
def put : Counter R → UInt64 → R → R
  | .word32 _ _ set, x => set x.toUInt32
  | .word64 _ _ set, x => set x

/-- Counters of different fields. -/
def Apart (c c' : Counter R) : Prop := ∀ x y, Function.Commute (c.put x) (c'.put y)

theorem Apart.symm (h : c.Apart c') : c'.Apart c := fun x y => (h y x).symm

theorem assign?_eq_put (h : c.assign? v = some f) : ∃ x, f = c.put x := by
  cases c with
  | word32 key get set =>
    obtain ⟨x, -, rfl⟩ := Option.map_eq_some_iff.mp h
    exact ⟨x.toUInt64, by rw [put, UInt32.toUInt32_toUInt64]⟩
  | word64 key get set =>
    obtain ⟨x, -, rfl⟩ := Option.map_eq_some_iff.mp h
    exact ⟨x, rfl⟩

end Counter

namespace GroupSpec

theorem commutes_flat (name : String) (k : Single) {counters : List (Counter k.Rec)}
    (rows : List Row)
    (h : counters.Pairwise Counter.Apart) : (flat name k counters rows).Commutes := by
  refine commutes_single _ (fun _ _ readings => ⟨readings.take 1, rfl⟩)
    (fun view i j x y f f' _ _ hne hf hf' => ?_) fun _ => rfl
  obtain ⟨c, hc, hassign⟩ := Option.bind_eq_some_iff.mp (Option.ite_none_right_eq_some.mp hf).2
  obtain ⟨c', hc', hassign'⟩ :=
    Option.bind_eq_some_iff.mp (Option.ite_none_right_eq_some.mp hf').2
  obtain ⟨m, rfl⟩ := Counter.assign?_eq_put hassign
  obtain ⟨n, rfl⟩ := Counter.assign?_eq_put hassign'
  exact rel_of_getElem? Counter.Apart.symm h hne hc hc' m n

/-- What a metric makes of words, where it is read back. -/
abbrev Setter (R : Type) := Option (UInt64 → R → R)

/-- Setters of different fields, or of none. -/
def Setter.Apart {R : Type} (u v : Setter R) : Prop :=
  ∀ f, u = some f → ∀ g, v = some g → ∀ x y, Function.Commute (f x) (g y)

theorem Setter.Apart.symm {R : Type} {u v : Setter R} (h : u.Apart v) : v.Apart u :=
  fun f hf g hg x y => (h g hg f hf y x).symm

theorem getElem?_setters {C S : Type} {columns : List C} {assign? : C → Option S}
    {i : Nat} {set : S}
    (h : columns[i]?.bind assign? = some set) : (columns.map assign?)[i]? = some (some set) := by
  obtain ⟨c, hc, hassign⟩ := Option.bind_eq_some_iff.mp h
  rw [List.getElem?_map, hc, Option.map_some, hassign]

theorem apart_memoryColumns : (memoryColumns.map (·.assign?)).Pairwise Setter.Apart := by
  simp only [memoryColumns, ramColumns, kernelColumns, swapColumns, memoryField, List.cons_append,
    List.nil_append, List.map_cons, List.map_nil, List.pairwise_cons, List.forall_mem_cons,
    List.not_mem_nil, false_imp_iff, implies_true, and_true, List.Pairwise.nil]
  and_intros <;> rintro f ⟨⟩ g ⟨⟩ x y m <;> rfl

theorem commutes_memory : memory.Commutes := by
  refine commutes_single (k := .memory) _ (fun _ _ readings => ⟨readings.take 1, rfl⟩)
    (fun view i j x y f f' _ _ hne hf hf' => ?_) fun _ => rfl
  dsimp only at hf hf'
  split at hf <;> cases hf
  rename_i u set _ hset
  split at hf' <;> cases hf'
  rename_i v put _ hput
  exact rel_of_getElem? Setter.Apart.symm apart_memoryColumns hne (getElem?_setters hset)
    (getElem?_setters hput) set rfl put rfl u v

theorem commutes_hugePages : hugePages.Commutes := by
  refine commutes_single (k := .huge) _ (fun _ _ readings => ⟨readings.take 1, rfl⟩)
    (fun view i j x y f f' _ _ hne hf hf' => ?_) fun _ => rfl
  dsimp only at hf hf'
  split at hf <;> cases hf
  rename_i u c _ hc
  split at hf' <;> cases hf'
  rename_i v d _ hd
  have hcolumns : hugeColumns.Pairwise fun c d =>
      ∀ x y, Function.Commute (c.set x) (d.set y) := by
    simp only [hugeColumns, List.pairwise_cons, List.forall_mem_cons, List.not_mem_nil,
      false_imp_iff, implies_true, and_true, List.Pairwise.nil]
    and_intros <;> exact fun _ _ _ => rfl
  exact rel_of_getElem? (fun h x y => (h y x).symm) hcolumns hne hc hd _ _

theorem commutes_uptime : uptime.Commutes := by
  refine commutes_single (k := .record) _ (fun _ _ readings => ⟨readings.take 1, rfl⟩)
    (fun view i j x y f f' hi hj hne _ _ => ?_) fun _ => rfl
  simp only [uptime, List.length_singleton] at hi hj
  omega

theorem commutes_runQueue : runQueue.Commutes := by
  refine commutes_single (k := .queue) _ (fun _ _ readings => ⟨readings, rfl⟩)
    (fun view i j x y f f' hi hj hne hf hf' => ?_) fun _ => rfl
  obtain ⟨number, v⟩ := x
  obtain ⟨number', v'⟩ := y
  have hi : i < 4 := hi
  have hj : j < 4 := hj
  dsimp only at hf hf'
  split at hf <;> split at hf' <;>
    obtain ⟨u, -, rfl⟩ := Option.map_eq_some_iff.mp hf <;>
    obtain ⟨u', -, rfl⟩ := Option.map_eq_some_iff.mp hf' <;>
    first
      | exact absurd rfl hne
      | exact fun q => rfl
      | (simp only [imp_false] at *; omega)
      | (intro q; unfold setLoad; split <;> rfl)

theorem commutes_nfsClient : nfsClient.Commutes := by
  refine commutes_single (k := .nfs) _ (fun _ _ readings => ⟨readings, rfl⟩)
    (fun view i j x y f f' hi hj hne hf hf' => ?_) fun _ => rfl
  obtain ⟨number, v⟩ := x
  obtain ⟨number', v'⟩ := y
  have hi : i < 3 := hi
  have hj : j < 3 := hj
  obtain ⟨u, -, rfl⟩ := Option.map_eq_some_iff.mp hf
  obtain ⟨u', -, rfl⟩ := Option.map_eq_some_iff.mp hf'
  intro n
  dsimp only
  split <;> split <;>
    first
      | exact absurd rfl hne
      | rfl
      | (unfold setClientRequest; split <;> rfl)
      | (simp only [imp_false] at *; omega)

theorem commutes_nfsServer : nfsServer.Commutes := by
  refine commutes_single (k := .nfsd) _ (fun _ _ readings => ⟨readings, rfl⟩)
    (fun view i j x y f f' hi hj hne hf hf' => ?_) fun _ => rfl
  obtain ⟨number, v⟩ := x
  obtain ⟨number', v'⟩ := y
  have hi : i < 8 := hi
  have hj : j < 8 := hj
  obtain ⟨u, -, rfl⟩ := Option.map_eq_some_iff.mp hf
  obtain ⟨u', -, rfl⟩ := Option.map_eq_some_iff.mp hf'
  intro n
  dsimp only
  split <;> split <;>
    first
      | exact absurd rfl hne
      | rfl
      | (unfold setServerRequest; split <;> rfl)
      | (simp only [imp_false] at *; omega)

/-- What the metrics of pressure change, the two lines one after the other. -/
theorem pressureChange?_cases {view : ImportView} {i : Nat} {x : Reading}
    {f : Pressure → Pressure} (h : pressureChange? view i x = some f) :
    (i = 0 ∧ ∃ w : Window → Window, f = fun p => { p with someAvg := w p.someAvg }) ∨
      (i = 1 ∧ ∃ n, f = fun p => { p with someTotal := n }) ∨
      (i = 2 ∧ ∃ w : Window → Window, f = fun p => { p with fullAvg := w p.fullAvg }) ∨
      (3 ≤ i ∧ ∃ n, f = fun p => { p with fullTotal := n }) := by
  obtain ⟨number, v⟩ := x
  unfold pressureChange? at h
  dsimp only at h
  split at h
  · obtain ⟨n, -, h⟩ := Option.bind_eq_some_iff.mp h
    obtain ⟨w, -, h⟩ := Option.bind_eq_some_iff.mp h
    exact .inl ⟨rfl, w, (Option.some.inj h).symm⟩
  · obtain ⟨n, -, rfl⟩ := Option.map_eq_some_iff.mp h
    exact .inr (.inl ⟨rfl, n, rfl⟩)
  · obtain ⟨n, -, h⟩ := Option.bind_eq_some_iff.mp h
    obtain ⟨w, -, h⟩ := Option.bind_eq_some_iff.mp h
    exact .inr (.inr (.inl ⟨rfl, w, (Option.some.inj h).symm⟩))
  · obtain ⟨n, -, rfl⟩ := Option.map_eq_some_iff.mp h
    simp only [imp_false] at *
    exact .inr (.inr (.inr ⟨by omega, n, rfl⟩))

theorem commute_pressureChange {view : ImportView} {i j : Nat} (hi : i < 4) (hj : j < 4)
    (hne : i ≠ j) {x y : Reading} {f f' : Pressure → Pressure}
    (hf : pressureChange? view i x = some f)
    (hf' : pressureChange? view j y = some f') : Function.Commute f f' := by
  rcases pressureChange?_cases hf with ⟨rfl, w, rfl⟩ | ⟨rfl, n, rfl⟩ | ⟨rfl, w, rfl⟩
    | ⟨hi', n, rfl⟩ <;>
    rcases pressureChange?_cases hf' with
      ⟨rfl, w', rfl⟩ | ⟨rfl, n', rfl⟩ | ⟨rfl, w', rfl⟩ | ⟨hj', n', rfl⟩ <;>
    first
      | exact absurd rfl hne
      | exact fun _ => rfl
      | omega

theorem commutes_cpuPressure : cpuPressure.Commutes :=
  commutes_single (k := .psiCpu) _ (fun _ _ readings => ⟨readings, rfl⟩)
    (fun _ i j _ _ _ _ hi hj hne hf hf' =>
      have hi : i < 2 := hi
      have hj : j < 2 := hj
      commute_pressureChange (by omega) (by omega) hne hf hf') fun _ => rfl

theorem commutes_ioPressure : ioPressure.Commutes :=
  commutes_single (k := .psiIo) _ (fun _ _ readings => ⟨readings, rfl⟩)
    (fun _ _ _ _ _ _ _ hi hj hne hf hf' => commute_pressureChange hi hj hne hf hf') fun _ => rfl

theorem commutes_memoryPressure : memoryPressure.Commutes :=
  commutes_single (k := .psiMem) _ (fun _ _ readings => ⟨readings, rfl⟩)
    (fun _ _ _ _ _ _ _ hi hj hne hf hf' => commute_pressureChange hi hj hne hf hf') fun _ => rfl

section Units

variable {k : Multi} {a b : Activities} {s : Slot}

theorem absorbUnits_eq_changeAll (k : Multi) (view : ImportView) (half idx : Nat)
    (change : Value → Option (k.Rec → k.Rec)) (readings : List Reading) :
    absorbUnits k view half idx change readings = changeAll (fun r =>
      ((unitOf? view half idx r.1).bind fun unit => (change r.2).map fun f => (unit, f)).map
        (changeRecord k view.slot)) readings := by
  funext acts
  refine foldl_related (R := Eq) rfl ?_
  rintro ⟨number, v⟩ - acts _ rfl
  dsimp only
  cases unitOf? view half idx number with
  | none => rfl
  | some unit => cases change v <;> rfl

theorem unitOf?_eq_zero {view : ImportView} {half idx : Nat} {number : Option Int} {unit : Nat}
    (h : unitOf? view half idx number = some unit) : unit = 0 ↔ idx < half := by
  unfold unitOf? at h
  split at h
  · rename_i hidx
    cases h
    exact ⟨fun _ => hidx, fun _ => rfl⟩
  · rename_i hidx
    obtain ⟨label, -, h⟩ := Option.bind_eq_some_iff.mp h
    obtain ⟨n, -, h⟩ := Option.bind_eq_some_iff.mp h
    split at h <;> cases h
    exact ⟨nofun, fun hlt => absurd hlt hidx⟩

/-- The record and the change of a reading, by its column. -/
def columnOf? (k : Multi) (columns : List (UnitColumn k.Rec)) (view : ImportView) (idx : Nat)
    (r : Reading) : Option (Nat × (k.Rec → k.Rec)) :=
  (columns[idx % columns.length]?.bind (·.assign?)).bind fun assign =>
    (unitOf? view columns.length idx r.1).bind fun unit =>
      ((view.word64? idx r.2).map assign).map fun f => (unit, f)

theorem absorbColumns_eq_changeAll (k : Multi) (columns : List (UnitColumn k.Rec))
    (view : ImportView) (idx : Nat) (readings : List Reading) :
    absorbColumns k columns view idx readings =
      changeAll (fun r => (columnOf? k columns view idx r).map (changeRecord k view.slot))
        readings := by
  unfold absorbColumns columnOf?
  cases columns[idx % columns.length]?.bind (·.assign?) with
  | none => exact (changeAll_of_none fun _ _ => rfl).symm
  | some assign => exact absorbUnits_eq_changeAll k view _ idx _ readings

/-- The aggregate and the CPUs have records of their own, and a column is a field of all of them. -/
theorem commutes_columns {g : GroupSpec} (k : Multi) (columns : List (UnitColumn k.Rec))
    (hk : k.itemKey? = none) (hlen : g.metrics.length = 2 * columns.length)
    (habsorb : g.absorb = absorbColumns k columns)
    (hapart : (columns.map (·.assign?)).Pairwise Setter.Apart)
    (hfinish : ∀ s a b, Rearranged s a b → Rearranged s (g.finish s a) (g.finish s b)) :
    g.Commutes := by
  refine commutes_position hk (columnOf? k columns)
    (fun view idx readings =>
      ⟨readings, habsorb ▸ absorbColumns_eq_changeAll k columns view idx readings⟩)
    (fun view i j x y n f f' _ hi hj hne hf hf' => ?_) hfinish
  · obtain ⟨set, hset, hf⟩ := Option.bind_eq_some_iff.mp hf
    obtain ⟨put, hput, hf'⟩ := Option.bind_eq_some_iff.mp hf'
    simp only [Option.bind_eq_some_iff, Option.map_eq_some_iff, Prod.mk.injEq] at hf hf'
    obtain ⟨unit, hunit, _, ⟨u, -, rfl⟩, rfl, rfl⟩ := hf
    obtain ⟨_, hunit', _, ⟨v, -, rfl⟩, rfl, rfl⟩ := hf'
    have hhalf := (unitOf?_eq_zero hunit).symm.trans (unitOf?_eq_zero hunit')
    have hcolumn : i % columns.length ≠ j % columns.length := by
      rw [hlen] at hi hj
      by_cases hi' : i < columns.length
      · rw [Nat.mod_eq_of_lt hi', Nat.mod_eq_of_lt (hhalf.mp hi')]
        exact hne
      · have hj' := fun hj' => hi' (hhalf.mpr hj')
        rw [Nat.mod_eq_sub_mod (by omega), Nat.mod_eq_sub_mod (a := j) (by omega),
          Nat.mod_eq_of_lt (by omega), Nat.mod_eq_of_lt (by omega)]
        omega
    exact rel_of_getElem? Setter.Apart.symm hapart hcolumn (getElem?_setters hset)
      (getElem?_setters hput) set rfl put rfl u v

theorem commutes_cpu : cpu.Commutes := by
  refine commutes_columns .cpu cpuColumns rfl rfl rfl ?_ fun s a b h => ?_
  · simp only [cpuColumns, List.map_cons, List.map_nil, List.pairwise_cons, List.forall_mem_cons,
      List.not_mem_nil, false_imp_iff, implies_true, and_true, List.Pairwise.nil]
    and_intros <;> rintro f ⟨⟩ g ⟨⟩ x y m <;> rfl
  · exact h.setPart (t := .multi .cpu) (Activity.Alike.fill (h (.multi .cpu)) CpuTimes.withGuest)

theorem commutes_softnet : softnet.Commutes := by
  refine commutes_columns .softnet softnetColumns rfl rfl rfl ?_ fun s a b h => h
  simp only [softnetColumns, List.map_cons, List.map_nil, List.pairwise_cons, List.forall_mem_cons,
    List.not_mem_nil, false_imp_iff, implies_true, and_true, List.Pairwise.nil]
  and_intros <;> rintro f ⟨⟩ g ⟨⟩ x y m <;> rfl

/-- What a value of the clock metric changes. -/
def clockOf? (view : ImportView) (idx : Nat) (v : Value) : Option (CpuClock → CpuClock) :=
  (view.real? idx v).map fun x _ => { cpufreq := Value.hundredths x }

theorem commutes_cpuClock : cpuClock.Commutes := by
  refine commutes_position (k := .cpufreq) rfl (fun view idx r =>
      (unitOf? view 0 idx r.1).bind fun unit => (clockOf? view idx r.2).map fun f => (unit, f))
    (fun view idx readings =>
      ⟨readings, absorbUnits_eq_changeAll .cpufreq view 0 idx (clockOf? view idx) readings⟩)
    (fun view i j x y n f f' _ hi hj hne _ _ => ?_) fun s a b h => h
  have hi : i < 1 := hi
  have hj : j < 1 := hj
  omega

end Units

section Sensors

variable {k : Multi} {g : Sensor k}

/-- The place and the change of a reading. -/
def Sensor.place? (g : Sensor k) (view : ImportView) (idx : Nat) (r : Reading) :
    Option (Nat × (k.Rec → k.Rec)) :=
  (position? r.1).bind fun i => (g.change? view idx r).map fun f => (i, f)

theorem Sensor.absorb_eq (g : Sensor k) (view : ImportView) (idx : Nat) (readings : List Reading) :
    g.spec.absorb view idx readings =
      changeAll (fun r => (g.place? view idx r).map (changeRecord k view.slot)) readings := by
  funext acts
  refine foldl_related (R := Eq) rfl ?_
  rintro r - acts _ rfl
  simp only [Sensor.absorbReading, Sensor.place?]
  cases Sensor.position? r.1 with
  | none => rfl
  | some i => cases g.change? view idx r <;> rfl

theorem Sensor.number_of_position {number number' : Option Int} {i : Nat}
    (h : position? number = some i) (h' : position? number' = some i) : number = number' := by
  have hnumber : ∀ {number : Option Int}, position? number = some i →
      number = some (i : Int) := by
    intro number h
    obtain ⟨n, rfl, hn⟩ := Option.bind_eq_some_iff.mp h
    split at hn <;> cases hn
    rw [Int.toNat_of_nonneg (by omega)]
  exact (hnumber h).trans (hnumber h').symm

/-- A group of sensors, whose metrics change different fields of the record at one position. -/
theorem commutes_sensor (hk : k.itemKey? = none)
    (hcomm : ∀ view i j number v w f f', view.metrics = g.metrics → i < g.metrics.length →
      j < g.metrics.length → i ≠ j → g.change? view i (number, v) = some f →
      g.change? view j (number, w) = some f' → Function.Commute f f') : g.spec.Commutes := by
  refine commutes_position hk g.place?
    (fun view idx readings => ⟨readings, g.absorb_eq view idx readings⟩)
    (fun view i j x y n f f' hview hi hj hne hf hf' => ?_) fun s a b h => h
  obtain ⟨number, v⟩ := x
  obtain ⟨number', w⟩ := y
  simp only [Sensor.place?, Option.bind_eq_some_iff, Option.map_eq_some_iff,
    Prod.mk.injEq] at hf hf'
  obtain ⟨_, hn, _, hchange, rfl, rfl⟩ := hf
  obtain ⟨_, hn', _, hchange', rfl, rfl⟩ := hf'
  obtain rfl := Sensor.number_of_position hn hn'
  exact hcomm view i j number v w _ _ hview hi hj hne hchange hchange'

end Sensors

/-- A battery under the number that a label gives, if it gives one. -/
def rebadge (id? : Option UInt32) (b : Battery) : Battery :=
  match id? with
  | some id => { b with batId := id }
  | none => b

/-- What the metrics of a battery change, next to its number. -/
theorem changeBattery?_cases {view : ImportView} {i : Nat} {r : Reading} {f : Battery → Battery}
    (h : changeBattery? view i r = some f) :
    (i = 0 ∧ ∃ x, f = fun b =>
        rebadge ((view.label? i r.1).bind batteryId?) { b with capacity := x }) ∨
      (i ≠ 0 ∧ ∃ x, f = fun b =>
        rebadge ((view.label? i r.1).bind batteryId?) { b with status := x }) := by
  have hbadge : ∀ change : Battery → Battery,
      (match (view.label? i r.1).bind batteryId? with
        | some id => some fun b => { change b with batId := id }
        | none => some change) = some f →
      f = fun b => rebadge ((view.label? i r.1).bind batteryId?) (change b) := by
    intro change h
    split at h <;> cases h <;> rename_i hid <;> rw [hid] <;> rfl
  unfold changeBattery? at h
  by_cases hi : i = 0
  · rw [if_pos hi] at h
    obtain ⟨change, hchange, h⟩ := Option.bind_eq_some_iff.mp h
    obtain ⟨x, -, rfl⟩ := Option.map_eq_some_iff.mp hchange
    exact .inl ⟨hi, x, hbadge _ h⟩
  · rw [if_neg hi] at h
    obtain ⟨change, hchange, h⟩ := Option.bind_eq_some_iff.mp h
    obtain ⟨x, -, rfl⟩ := Option.map_eq_some_iff.mp hchange
    exact .inr ⟨hi, _, hbadge _ h⟩

theorem commutes_batteries : batteries.spec.Commutes := by
  refine commutes_sensor rfl fun view i j number v w f f' hview hi hj hne hf hf' => ?_
  have hi : i < 2 := hi
  have hj : j < 2 := hj
  have hlabel : view.label? i number = view.label? j number := by
    have hdomain : ∀ i, i < 2 → (view.metrics[i]?).bind (·.domain) = some Domain.battery := by
      intro i hi
      rw [hview]
      obtain rfl | rfl : i = 0 ∨ i = 1 := by omega
      · rfl
      · rfl
    have hof : ∀ i, view.label? i number = ((view.metrics[i]?).bind (·.domain)).bind fun d =>
        number.bind (view.registry.label? d) := by
      intro i
      unfold ImportView.label?
      cases view.metrics[i]? <;> rfl
    rw [hof, hof, hdomain i hi, hdomain j hj]
  have hcommute : ∀ id? x y, Function.Commute (fun b => rebadge id? { b with capacity := x })
      (fun b => rebadge id? { b with status := y }) := by
    intro id? x y b
    cases id? <;> rfl
  have hf := changeBattery?_cases hf
  have hf' := changeBattery?_cases hf'
  dsimp only at hf hf'
  rw [hlabel] at hf
  rcases hf with ⟨hi, x, rfl⟩ | ⟨hi, x, rfl⟩ <;> rcases hf' with ⟨hj, y, rfl⟩
    | ⟨hj, y, rfl⟩
  · omega
  · exact hcommute _ x y
  · exact (hcommute _ y x).symm
  · omega

/-- The owner of items whose key is the text of their label. -/
theorem Keyed.owner_named {k : Multi} {g : Keyed k} {key : k.Rec → String}
    {rename : String → k.Rec → k.Rec}
    (howner : ∀ label, g.owner? label = some (fun r => key r == label, rename label))
    (label : String)
    (owns : k.Rec → Bool) (claim : k.Rec → k.Rec) (h : g.owner? label = some (owns, claim)) :
    ∃ t, claim = rename t ∧ ∀ r, owns r = true ↔ key r = t := by
  rw [howner] at h
  cases h
  exact ⟨label, rfl, fun _ => beq_iff_eq⟩

theorem orderless_disks :
    disks.Orderless (·.name) fun (name : String) r => { r with name := name } where
  owner := Keyed.owner_named fun _ => rfl
  key_rename _ _ := rfl
  key_assign := lawful_disks.assign
  rename_assign i f h t x r := by
    simp only [disks, assignDisk?] at h
    split at h <;> cases h <;> rfl
  assign i j f f' hne h h' x y r := by
    simp only [disks, assignDisk?] at h h'
    split at h <;> cases h <;> split at h' <;> cases h' <;> first | exact absurd rfl hne | rfl

theorem orderless_interfaces :
    interfaces.Orderless (·.interface) fun (name : String) r => { r with interface := name } where
  owner := Keyed.owner_named fun _ => rfl
  key_rename _ _ := rfl
  key_assign := lawful_interfaces.assign
  rename_assign i f h t x r := by
    simp only [interfaces, assignInterface?] at h
    split at h <;> cases h <;> rfl
  assign i j f f' hne h h' x y r := by
    simp only [interfaces, assignInterface?] at h h'
    split at h <;> cases h <;> split at h' <;> cases h' <;> first | exact absurd rfl hne | rfl

theorem orderless_interfaceErrors :
    interfaceErrors.Orderless (·.interface) fun (name : String) r =>
      { r with interface := name } where
  owner := Keyed.owner_named fun _ => rfl
  key_rename _ _ := rfl
  key_assign := lawful_interfaceErrors.assign
  rename_assign i f h t x r := by
    simp only [interfaceErrors, assignInterfaceErrors?] at h
    split at h <;> cases h <;> rfl
  assign i j f f' hne h h' x y r := by
    simp only [interfaceErrors, assignInterfaceErrors?] at h h'
    split at h <;> cases h <;> split at h' <;> cases h' <;> first | exact absurd rfl hne | rfl

theorem orderless_filesystems :
    filesystems.Orderless (·.fsName) fun (name : String) r => { r with fsName := name } where
  owner := Keyed.owner_named fun _ => rfl
  key_rename _ _ := rfl
  key_assign := lawful_filesystems.assign
  rename_assign i f h t x r := by
    simp only [filesystems, assignFilesystem?] at h
    split at h <;> cases h <;> rfl
  assign i j f f' hne h h' x y r := by
    simp only [filesystems, assignFilesystem?] at h h'
    split at h <;> cases h <;> split at h' <;> cases h' <;> first | exact absurd rfl hne | rfl

theorem orderless_fcHosts :
    fcHosts.Orderless (·.name) fun (name : String) r => { r with name := name } where
  owner := Keyed.owner_named fun _ => rfl
  key_rename _ _ := rfl
  key_assign := lawful_fcHosts.assign
  rename_assign i f h t x r := by
    simp only [fcHosts, assignFcHost?] at h
    split at h <;> cases h <;> rfl
  assign i j f f' hne h h' x y r := by
    simp only [fcHosts, assignFcHost?] at h h'
    split at h <;> cases h <;> split at h' <;> cases h' <;> first | exact absurd rfl hne | rfl

theorem orderless_serialLines :
    serialLines.Orderless (·.line) fun (line : UInt32) r => { r with line := line } where
  owner label _ _ h := by
    obtain ⟨line, -, hline⟩ := Option.map_eq_some_iff.mp h
    cases hline
    exact ⟨line, rfl, fun _ => beq_iff_eq⟩
  key_rename _ _ := rfl
  key_assign := lawful_serialLines.assign
  rename_assign i f h t x r := by
    simp only [serialLines, assignSerial?] at h
    split at h <;> cases h <;> rfl
  assign i j f f' hne h h' x y r := by
    simp only [serialLines, assignSerial?] at h h'
    split at h <;> cases h <;> split at h' <;> cases h' <;> first | exact absurd rfl hne | rfl

end GroupSpec

namespace Group

theorem spec_commutes (g : Group) : g.spec.Commutes := by
  cases g with
  | fileHeader => exact commutes_host
  | recordHeader => exact commutes_uptime
  | cpu => exact commutes_cpu
  | softnet => exact commutes_softnet
  | cpuClock => exact commutes_cpuClock
  | interrupts => exact commutes_interrupts
  | memory => exact commutes_memory
  | hugePages => exact commutes_hugePages
  | runQueue => exact commutes_runQueue
  | nfsClient => exact commutes_nfsClient
  | nfsServer => exact commutes_nfsServer
  | cpuPressure => exact commutes_cpuPressure
  | ioPressure => exact commutes_ioPressure
  | memoryPressure => exact commutes_memoryPressure
  | disks => exact commutes_keyed Sum.inl_injective rfl orderless_disks
  | interfaces => exact commutes_keyed Sum.inl_injective rfl orderless_interfaces
  | interfaceErrors => exact commutes_keyed Sum.inl_injective rfl orderless_interfaceErrors
  | serialLines => exact commutes_keyed Sum.inr_injective rfl orderless_serialLines
  | filesystems => exact commutes_keyed Sum.inl_injective rfl orderless_filesystems
  | fcHosts => exact commutes_keyed Sum.inl_injective rfl orderless_fcHosts
  | batteries => exact commutes_batteries
  | fans | temperatures | voltages | usbDevices =>
    refine commutes_sensor rfl fun view i j number v w f f' _ _ _ hne hf hf' => ?_
    simp only [GroupSpec.fans, GroupSpec.temperatures, GroupSpec.voltages,
      GroupSpec.usbDevices] at hf hf'
    split at hf <;> split at hf' <;> first
      | exact absurd rfl hne
      | contradiction
      | obtain ⟨x, -, rfl⟩ := Option.map_eq_some_iff.mp hf
        obtain ⟨y, -, rfl⟩ := Option.map_eq_some_iff.mp hf'
        exact fun _ => rfl
  | taskSwitches | swap | paging | blockIo | kernelTables | sockets | ip | ipErrors | icmp
  | icmpErrors | tcp | tcpErrors | udp | sockets6 | ip6 | ip6Errors | icmp6 | icmp6Errors
  | udp6 =>
    refine commutes_flat _ _ _ ?_
    simp only [TaskSwitches.counters, Swap.counters, Paging.counters, BlockIo.counters,
      KernelTables.counters, Sockets.counters, Ip.counters, IpErrors.counters, Icmp.counters,
      IcmpErrors.counters, Tcp.counters, TcpErrors.counters, Udp.counters, Sockets6.counters,
      Ip6.counters, Ip6Errors.counters, Icmp6.counters, Icmp6Errors.counters, Udp6.counters,
      List.pairwise_cons, List.forall_mem_cons, List.not_mem_nil, false_imp_iff, implies_true,
      and_true, List.Pairwise.nil]
    and_intros <;> exact fun _ _ _ => rfl

end Group

end ActivityArchive
