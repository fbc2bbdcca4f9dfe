import ActivityArchive.Proofs.Session.Recording

/-!
Batteries are labelled by their own number but numbered by their position, so a sample can
contradict the ones before it. That is the only way for definition or export to fail
(`succeeds_iff_batteries_agree`).
-/
namespace ActivityArchive

open Numbering Record

def batteryLabel (id : UInt32) : String := "BAT" ++ Text.decimal id.toNat

/-- The position and the number of every battery in some samples. -/
def batteryPlaces (samples : List Sample) : List (Nat × UInt32) :=
  samples.flatMap fun x => x.bat.mapIdx fun i b => (i, b.batId)

/-- The largest number of batteries in a sample. -/
def batteryCount (samples : List Sample) : Nat :=
  samples.foldl (fun n x => max n x.bat.length) 0

/-- Positions and numbers determine each other. -/
def Agree (places : List (Nat × UInt32)) : Prop :=
  ∀ p ∈ places, ∀ q ∈ places, p.1 = q.1 ↔ p.2 = q.2

instance (places : List (Nat × UInt32)) : Decidable (Agree places) :=
  inferInstanceAs (Decidable (∀ p ∈ places, ∀ q ∈ places, p.1 = q.1 ↔ p.2 = q.2))

/-- The instances that batteries may have: those of some places. -/
def batteryRule (places : List (Nat × UInt32)) (n : Int) (l : String) : Prop :=
  ∃ p ∈ places, (p.1 : Int) = n ∧ batteryLabel p.2 = l

theorem batteryLabel_injective {x y : UInt32} (h : batteryLabel x = batteryLabel y) : x = y :=
  UInt32.toNat_inj.mp (Text.append_decimal_injective h)

theorem oneToOne_batteryRule {places : List (Nat × UInt32)} (h : Agree places) :
    OneToOne (batteryRule places) := by
  rintro _ _ ⟨p, hp, rfl, rfl⟩ _ _ ⟨q, hq, rfl, rfl⟩
  have hpq := h p hp q hq
  constructor <;> intro hx
  · rw [hpq.mp (by omega)]
  · rw [hpq.mpr (batteryLabel_injective hx)]

theorem mem_batteryPlaces {samples : List Sample} {i : Nat} {id : UInt32} :
    (i, id) ∈ batteryPlaces samples ↔ ∃ x ∈ samples, ∃ b, x.bat[i]? = some b ∧
    b.batId = id := by
  simp only [batteryPlaces, List.mem_flatMap, List.mem_mapIdx, Prod.mk.injEq]
  constructor
  · rintro ⟨x, hx, j, hj, rfl, rfl⟩
    exact ⟨x, hx, x.bat[j], List.getElem?_eq_getElem hj, rfl⟩
  · rintro ⟨x, hx, b, hb, rfl⟩
    obtain ⟨hi, rfl⟩ := List.getElem?_eq_some_iff.mp hb
    exact ⟨x, hx, i, hi, rfl, rfl⟩

theorem lt_batteryCount {samples : List Sample} {i : Nat} :
    i < batteryCount samples ↔ ∃ x ∈ samples, i < x.bat.length := by
  have key : ∀ n, i < samples.foldl (fun n x => max n x.bat.length) n ↔
      i < n ∨ ∃ x ∈ samples, i < x.bat.length := by
    induction samples with
    | nil => simp
    | cons x samples ih =>
      intro n
      have hmax : i < max n x.bat.length ↔ i < n ∨ i < x.bat.length := by omega
      rw [List.foldl_cons, ih, hmax]
      simp [or_assoc]
  exact (key 0).trans (or_iff_right (Nat.not_lt_zero i))

namespace Session

variable {config : Config} {header : HostHeader} {discovery : List Sample}

theorem count_defineView (i : Nat) :
    i < (defineView config header discovery).acts.bat.count ↔ i < batteryCount discovery := by
  have hscan := Activities.lt_count_scan { Activities.empty with header } discovery .bat i
  have hempty : ¬ i < ({ Activities.empty with header }.multi .bat).count := Nat.not_lt_zero i
  rw [lt_batteryCount]
  exact hscan.trans (or_iff_right hempty)

theorem mem_define_batteries {d : DomainId} {l : String} {num : Option Int} :
    .entry d l num ∈ Group.batteries.spec.define (defineView config header discovery) ↔
      d = Domain.battery ∧ ∃ p ∈ batteryPlaces discovery, num = some (p.1 : Int) ∧
        l = batteryLabel p.2 := by
  constructor
  · intro he
    obtain ⟨x, hx, he⟩ := List.mem_flatMap.mp (List.mem_of_ne_of_mem (by simp) he)
    obtain ⟨i, hi, he⟩ := List.mem_mapIdx.mp he
    cases he
    refine ⟨rfl, (i, (x.bat[i]).batId), mem_batteryPlaces.mpr ⟨x, hx, _, ?_, rfl⟩, rfl, rfl⟩
    exact List.getElem?_eq_getElem hi
  · rintro ⟨rfl, ⟨i, id⟩, hp, rfl, rfl⟩
    obtain ⟨x, hx, b, hb, rfl⟩ := mem_batteryPlaces.mp hp
    obtain ⟨hi, rfl⟩ := List.getElem?_eq_some_iff.mp hb
    refine List.mem_cons_of_mem _ (List.mem_flatMap.mpr ⟨x, hx, ?_⟩)
    exact List.mem_mapIdx.mpr ⟨i, hi, rfl⟩

theorem batteriesKeepTo : BatteriesKeepTo (batteryRule (batteryPlaces discovery))
    (defineView config header discovery) := by
  intro d l num he
  obtain ⟨rfl, p, hp, rfl, rfl⟩ := mem_define_batteries.mp he
  exact ⟨rfl, p.1, rfl, p, hp, rfl, rfl⟩

theorem batteriesCovered : BatteriesCovered (defineView config header discovery) := by
  intro i hi
  obtain ⟨x, hx, hlt⟩ := lt_batteryCount.mp ((count_defineView i).mp hi)
  have hp : (i, (x.bat[i]).batId) ∈ batteryPlaces discovery :=
    mem_batteryPlaces.mpr ⟨x, hx, _, List.getElem?_eq_getElem hlt, rfl⟩
  exact ⟨batteryLabel (x.bat[i]).batId, mem_define_batteries.mpr ⟨rfl, _, hp, rfl, rfl⟩⟩

/-- Exports one after the other, whatever their outcomes. -/
def exportRun (run : List Sample) (w : Session × Store) : Session × Store :=
  run.foldl (fun w x => (w.1.exportRecord w.2 x).2) w

theorem exportRun_ready {dv : DefineView} {B : Int → String → Prop} (hcov : BatteriesCovered dv)
    (run : List Sample) {w : Session × Store} (h : Ready dv B w) :
    Ready dv B (exportRun run w) ∧ (exportRun run w).1.defined = w.1.defined := by
  induction run generalizing w with
  | nil => exact ⟨h, rfl⟩
  | cons x run ih =>
    have hstep : Ready dv B (w.1.exportRecord w.2 x).2 ∧
        (w.1.exportRecord w.2 x).2.1.defined = w.1.defined := by
      rcases exportRecord_outcome h hcov x with
        ⟨w', hrun, hready, hrec⟩ |
        ⟨before, after, done, rest, cause, l, n, w', hrun, hdef, hstop⟩
      · rw [hrun]
        exact ⟨hready, hrec.defined⟩
      · rw [hrun]
        exact ⟨hstop.ready, hstop.defined⟩
    obtain ⟨hready, hdef⟩ := ih hstep.1
    exact ⟨hready, hdef.trans hstep.2⟩

variable {B : Int → String → Prop} {w : Session × Store}

theorem isPresent_batteries {i : Nat} {id : UInt32} (h : (i, id) ∈ batteryPlaces discovery) :
    Group.batteries.spec.isPresent (defineView config header discovery).acts = true := by
  obtain ⟨x, hx, b, hb, -⟩ := mem_batteryPlaces.mp h
  have hi := (List.getElem?_eq_some_iff.mp hb).1
  have hcount : i < (defineView config header discovery).acts.bat.count :=
    (count_defineView i).mpr (lt_batteryCount.mpr ⟨x, hx, hi⟩)
  exact decide_eq_true (Nat.lt_of_le_of_lt (Nat.zero_le i) hcount)

/-- Batteries registered do not contradict each other. -/
theorem agree_of_established {s : Session} {store : Store}
    (h : Established (defineView config header discovery) s store)
    (hdef : ∀ i id, (i, id) ∈ batteryPlaces discovery → .batteries ∈ s.defined) :
    Agree (batteryPlaces discovery) := by
  have hreg : ∀ p ∈ batteryPlaces discovery,
      ((p.1 : Int), batteryLabel p.2) ∈ s.registry.entries Domain.battery := by
    intro p hp
    obtain ⟨n, hn, hnum⟩ := h.registered _ (hdef p.1 p.2 hp) _ _ _
      (mem_define_batteries.mpr ⟨rfl, p, hp, rfl, rfl⟩)
    obtain rfl : (p.1 : Int) = n := by simpa using hnum
    exact hn
  intro p hp q hq
  have hwf : s.registry.WellFormed := h.sound.wellFormed
  constructor <;> intro hpq
  · have hq' := hreg q hq
    rw [← hpq] at hq'
    exact batteryLabel_injective (hwf.label_unique (hreg p hp) hq')
  · have hq' := hreg q hq
    rw [← hpq] at hq'
    exact Int.ofNat_inj.mp (hwf.number_unique (hreg p hp) hq')

/-- What a sample is refused for. -/
def BatteriesKnown (discovery : List Sample) (sample : Sample) : Prop :=
  ∀ i b, sample.bat[i]? = some b → i < batteryCount discovery →
    (i, b.batId) ∈ batteryPlaces discovery

theorem records_loaded (s : Session) (sample : Sample) :
    (s.loaded sample).acts.bat.records s.slot = sample.bat :=
  Activities.multi_load s.acts s.slot sample .bat

theorem count_loaded {dv : DefineView} (h : Ready dv B w) (sample : Sample) :
    (w.1.loaded sample).acts.bat.count = dv.acts.bat.count :=
  (h.later.trans (Activities.later_load w.1.acts w.1.slot sample)).count .bat

theorem mem_emissions_loaded {s : Session} {sample : Sample} {i : Nat} {b : Battery}
    (hi : i < (s.loaded sample).acts.bat.count) (hb : sample.bat[i]? = some b) :
    .entry Domain.battery (batteryLabel b.batId) (some (i : Int)) ∈
      (s.loaded sample).emissions .batteries := by
  have hget : ((((s.loaded sample).acts.bat.records s.slot)).take
      (s.loaded sample).acts.bat.count)[i]? = some b := by
    rw [List.getElem?_take_of_lt hi, records_loaded]
    exact hb
  refine List.mem_flatten.mpr ⟨GroupSpec.batteries.emissions i b, ?_, List.mem_cons_self⟩
  refine List.mem_of_getElem? (i := i) ?_
  show (List.mapIdx GroupSpec.batteries.emissions
    ((((s.loaded sample).acts.bat.records s.slot)).take
      (s.loaded sample).acts.bat.count))[i]? = _
  rw [List.getElem?_mapIdx, hget]
  rfl

theorem known_of_recorded {sample : Sample} {w' : Session × Store}
    (h : Ready (defineView config header discovery) (batteryRule (batteryPlaces discovery)) w)
    (h' : Ready (defineView config header discovery) (batteryRule (batteryPlaces discovery)) w')
    (hrec : Recorded w.1 w.2 sample w') (hdef : .batteries ∈ w.1.defined) :
    BatteriesKnown discovery sample := by
  intro i b hb hi
  have hcount : i < (w.1.loaded sample).acts.bat.count := by
    rw [count_loaded h sample]
    exact (count_defineView i).mpr hi
  have hreq : (Domain.battery, batteryLabel b.batId, some (i : Int)) ∈
      (w.1.loaded sample).requests w.1.defined := by
    refine List.mem_flatMap.mpr ⟨.batteries, hdef, ?_⟩
    exact Emission.mem_requests.mpr (mem_emissions_loaded hcount hb)
  obtain ⟨n, hn, hnum⟩ := hrec.registered.registered _ _ _ hreq
  obtain rfl : (i : Int) = n := by simpa using hnum
  have hrule := h'.conforms _ _ hn
  rw [withBatteries_battery] at hrule
  obtain ⟨⟨j, id⟩, hp, hj, hl⟩ := hrule
  obtain rfl : j = i := Int.ofNat_inj.mp hj
  obtain rfl : id = b.batId := batteryLabel_injective hl
  exact hp

theorem not_known_of_stopped {sample : Sample} {before : List Group} {done rest : List Emission}
    {cause : RegistryError} {l : String} {n : Int} {w' : Session × Store}
    (h : Ready (defineView config header discovery) (batteryRule (batteryPlaces discovery)) w)
    (hdef : .batteries ∈ w.1.defined)
    (hstop : Stopped (defineView config header discovery) (batteryRule (batteryPlaces discovery))
      (w.1.loaded sample) before done rest cause l n w w') :
    ¬ BatteriesKnown discovery sample := by
  intro hknown
  have hmem : .entry Domain.battery l (some n) ∈ (w.1.loaded sample).emissions .batteries := by
    rw [hstop.emissions]
    simp
  obtain ⟨-, i, b, hn, hi, hb, rfl⟩ := mem_emissions_batteries hmem
  obtain rfl : n = i := by simpa using hn
  have hlt : i < batteryCount discovery :=
    (count_defineView i).mp (count_loaded h sample ▸ hi)
  have hb' : sample.bat[i]? = some b := records_loaded w.1 sample ▸ hb
  -- the battery was registered by the definition, under the same number
  obtain ⟨m, hm, hnum⟩ := h.established.registered _ hdef _ _ _
    (mem_define_batteries.mpr ⟨rfl, _, hknown i b hb' hlt, rfl, rfl⟩)
  obtain rfl : (i : Int) = m := by simpa using hnum
  have hkept := hstop.wrote.registered.kept _ _ hm
  exact hstop.unfit (.of_mem hstop.ready.established.sound.wellFormed hkept)

/-- The batteries contradict what was registered. -/
def IsBatteryConflict (e : SessionError) : Prop :=
  ∃ cause, e = .registry cause ∧ cause.domain = Domain.battery

/-- How a ready session exports a sample: it is refused for its batteries or not at all. -/
theorem exportRecord_iff
    (h : Ready (defineView config header discovery) (batteryRule (batteryPlaces discovery)) w)
    (sample : Sample) :
    ((w.1.exportRecord w.2 sample).1 = .ok () ↔
        .batteries ∉ w.1.defined ∨ BatteriesKnown discovery sample) ∧
      ∀ e, (w.1.exportRecord w.2 sample).1 = .error e → IsBatteryConflict e := by
  rcases exportRecord_outcome h batteriesCovered sample with
    ⟨w', hrun, hready, hrec⟩ |
    ⟨before, after, done, rest, cause, l, n, w', hrun, hdef, hstop⟩
  · rw [hrun]
    refine ⟨⟨fun _ => ?_, fun _ => rfl⟩, by simp⟩
    by_cases hbat : .batteries ∈ w.1.defined
    · exact Or.inr (known_of_recorded h hready hrec hbat)
    · exact Or.inl hbat
  · have hbat : .batteries ∈ w.1.defined := by
      rw [hdef]
      simp
    rw [hrun]
    refine ⟨⟨by simp, fun hor => ?_⟩, fun e he => ?_⟩
    · rcases hor with hno | hknown
      · exact absurd hbat hno
      · exact absurd hknown (not_known_of_stopped h hbat hstop)
    · obtain rfl : SessionError.registry cause = e := by simpa using he
      exact ⟨cause, rfl, hstop.domain⟩

/-- How a session is defined: it is refused for its batteries or not at all. -/
theorem define_iff (config : Config) (header : HostHeader) (discovery : List Sample) :
    (((initial config).define .empty header discovery).1 = .ok () ↔
        config.enables Group.batteries.name = false ∨ Agree (batteryPlaces discovery)) ∧
      (∀ e, ((initial config).define .empty header discovery).1 = .error e →
        IsBatteryConflict e) ∧
      (((initial config).define .empty header discovery).1 = .ok () →
        Ready (defineView config header discovery) (batteryRule (batteryPlaces discovery))
          ((initial config).define .empty header discovery).2) := by
  have hmem : .batteries ∈ Group.all.filter (taken (defineView config header discovery)) ↔
      config.enables Group.batteries.name = true ∧
        Group.batteries.spec.isPresent (defineView config header discovery).acts = true := by
    rw [List.mem_filter, taken, Bool.or_eq_true, Bool.and_eq_true]
    exact ⟨fun h => h.2.resolve_left (by decide), fun h => ⟨Group.mem_all _, Or.inr h⟩⟩
  have hkeep : BatteriesKeepTo (batteryRule (batteryPlaces discovery))
      (defineView config header discovery) := batteriesKeepTo
  rcases define_outcome hkeep with
    ⟨w, hrun, hready, -, hdef⟩ | ⟨⟨cause, w, hrun, hd⟩, hbat, hone⟩
  · rw [hrun]
    refine ⟨⟨fun _ => ?_, fun _ => rfl⟩, by simp, fun _ => hready⟩
    rcases hen : config.enables Group.batteries.name with _ | _
    · exact Or.inl rfl
    · refine Or.inr (agree_of_established hready.established fun i id hp => ?_)
      rw [hdef, hmem]
      exact ⟨hen, isPresent_batteries hp⟩
  · rw [hrun]
    refine ⟨⟨by simp, fun hor => ?_⟩, fun e he => ?_, by simp⟩
    · rcases hor with hoff | hagree
      · rw [hmem, hoff] at hbat
        exact absurd hbat.1 (by simp)
      · exact absurd (oneToOne_batteryRule hagree) hone
    · obtain rfl : SessionError.registry cause = e := by simpa using he
      exact ⟨cause, rfl, hd⟩

/-- Definition onto an empty store, and every export after it, fails for no other reason than its
batteries: those of all samples seen must agree, and those of a sample must be known. -/
theorem succeeds_iff_batteries_agree (config : Config) (header : HostHeader)
    (discovery : List Sample) :
    ∃ s, Session.new config = .ok s ∧
      let defined := s.define .empty header discovery
      (defined.1 = .ok () ↔
        config.enables Group.batteries.name = false ∨ Agree (batteryPlaces discovery)) ∧
      (∀ e, defined.1 = .error e → IsBatteryConflict e) ∧
      (defined.1 = .ok () → ∀ run sample,
        let w := exportRun run defined.2
        let exported := w.1.exportRecord w.2 sample
        (exported.1 = .ok () ↔
          .batteries ∉ defined.2.1.defined ∨ BatteriesKnown discovery sample) ∧
        ∀ e, exported.1 = .error e → IsBatteryConflict e) := by
  obtain ⟨hiff, hcause, hready⟩ := define_iff config header discovery
  refine ⟨initial config, new_eq config, hiff, hcause, fun hok run sample => ?_⟩
  obtain ⟨hready', hdef⟩ := exportRun_ready batteriesCovered run (hready hok)
  rw [← hdef]
  exact exportRecord_iff hready' sample

def withBatteries (ids : List UInt32) : Sample :=
  { Sample.blank with bat := ids.map fun batId => { batId } }

/-- A battery past those that were planned for is not looked at. -/
theorem succeeds_with_third_battery :
    ∃ s, Session.new {} = .ok s ∧
      let defined := s.define .empty {} [withBatteries [7, 3], withBatteries [7]]
      defined.1 = .ok () ∧
        ∀ run, ((exportRun run defined.2).1.exportRecord (exportRun run defined.2).2
          (withBatteries [7, 3, 7])).1 = .ok () := by
  obtain ⟨s, hs, hdef, -, hexp⟩ :=
    succeeds_iff_batteries_agree {} {} [withBatteries [7, 3], withBatteries [7]]
  have hok := hdef.mpr (Or.inr (by decide))
  refine ⟨s, hs, hok, fun run => (hexp hok run _).1.mpr (Or.inr ?_)⟩
  intro i b hb hi
  have hlt : i < 2 := hi
  obtain rfl | rfl : i = 0 ∨ i = 1 := by omega
  · cases hb
    decide
  · cases hb
    decide

end Session

end ActivityArchive
