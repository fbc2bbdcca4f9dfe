import ActivityArchive.Proofs.Session.Reachability

/-!
What a failed export leaves in the queue. An export stops at the first battery that is not
registered under its position. What the groups before the batteries wrote, and what the batteries
before that one wrote, stays queued and goes into the next record (`failed_export_queues_leftover`).
-/
namespace ActivityArchive.Session

open Record

/-- Whether a number that an emission asks for is that of its instance. -/
def agrees (r : Registry) : Emission → Bool
  | .entry d l (some n) => r.number? d l = some n
  | _ => true

/-- The values queued by an export that does not get past the batteries. -/
def leftover (s : Session) (sample : Sample) : List StoredValue :=
  if s.phase ∈ Operation.exportRecord.allowedIn then
    (s.defined.takeWhile (· ≠ .batteries)).flatMap (s.loaded sample).values ++
      (((s.loaded sample).emissions .batteries).takeWhile (agrees s.registry)).filterMap
        (Emission.stored? Group.batteries.metrics)
  else []

variable {config : Config} {header : HostHeader} {discovery : List Sample} {dv : DefineView}
  {B : Int → String → Prop} {w w' : Session × Store} {sample : Sample}
  {before after : List Group}
  {done rest : List Emission} {cause : RegistryError} {l : String} {n : Int}

theorem takeWhile_groups (hnd : w.1.defined.Nodup)
    (hdef : w.1.defined = before ++ .batteries :: after) :
    w.1.defined.takeWhile (· ≠ .batteries) = before := by
  have hbefore : ∀ g ∈ before, (decide (g ≠ .batteries)) = true := by
    intro g hg
    rw [hdef] at hnd
    exact decide_eq_true ((List.nodup_append.mp hnd).2.2 g hg .batteries List.mem_cons_self)
  rw [hdef, List.takeWhile_append_of_pos hbefore, List.takeWhile_cons_of_neg (by simp),
    List.append_nil]

/-- The battery at which an export stops is the first that does not agree with the registry. -/
theorem takeWhile_emissions (h : Ready dv B w) (hcov : BatteriesCovered dv)
    (hbat : .batteries ∈ w.1.defined)
    (hstop : Stopped dv B (w.1.loaded sample) before done rest cause l n w w') :
    ((w.1.loaded sample).emissions .batteries).takeWhile (agrees w.1.registry) = done := by
  have hwf := h.established.sound.wellFormed
  have hwf' := hstop.ready.established.sound.wellFormed
  have hkept := hstop.wrote.registered.kept
  have hdone : ∀ e ∈ done, agrees w.1.registry e = true := by
    intro e he
    have hmem : e ∈ (w.1.loaded sample).emissions .batteries :=
      hstop.emissions ▸ List.mem_append_left _ he
    match e, he, hmem with
    | .entry d l (some n), he, hmem =>
      obtain ⟨rfl, i, b, hn, hi, -, -⟩ := mem_emissions_batteries hmem
      obtain rfl : n = i := by simpa using hn
      -- both the label asked for and the one defined stand under the position in the end
      obtain ⟨k, hk⟩ := hcov i (count_loaded h sample ▸ hi)
      obtain ⟨m, hm, hnum⟩ := h.established.registered _ hbat _ _ _ hk
      obtain rfl : (i : Int) = m := by simpa using hnum
      obtain ⟨m, hm', hnum⟩ := hstop.wrote.registered.registered _ _ _
        (List.mem_append_right _ (Emission.mem_requests.mpr he))
      obtain rfl : (i : Int) = m := by simpa using hnum
      obtain rfl : l = k := hwf'.label_unique hm' (hkept _ _ hm)
      simp [agrees, (Registry.number?_eq_some_iff hwf).mpr hm]
    | .entry d l none, _, _ => rfl
    | .value idx label v, _, _ => rfl
    | .fault cause, _, _ => rfl
  have hstopped : ¬ agrees w.1.registry (.entry Domain.battery l (some n)) = true := by
    have hno : w.1.registry.number? Domain.battery l ≠ some n := by
      intro hn
      exact hstop.unfit (.of_mem hwf' (hkept _ _ (Registry.mem_of_number? hn)))
    simp [agrees, hno]
  rw [hstop.emissions, List.takeWhile_append_of_pos hdone, List.takeWhile_cons_of_neg hstopped,
    List.append_nil]

theorem leftover_eq (h : Ready dv B w) (hcov : BatteriesCovered dv)
    (hdef : w.1.defined = before ++ .batteries :: after)
    (hstop : Stopped dv B (w.1.loaded sample) before done rest cause l n w w') :
    w.1.leftover sample = before.flatMap (w.1.loaded sample).values ++
      done.filterMap (Emission.stored? Group.batteries.metrics) := by
  have hbat : .batteries ∈ w.1.defined := by
    rw [hdef]
    simp
  rw [leftover, if_pos h.phase, takeWhile_groups h.nodup hdef,
    takeWhile_emissions h hcov hbat hstop]

theorem emissions_batteries_cons {s : Session} {b : Battery} {bs : List Battery}
    (hb : sample.bat = b :: bs) (hcount : 0 < (s.loaded sample).acts.bat.count) :
    ∃ es, (s.loaded sample).emissions .batteries =
      .entry Domain.battery (batteryLabel b.batId) (some 0) ::
        .value 0 (some (batteryLabel b.batId)) (.u32 b.capacity) :: es := by
  obtain ⟨count, hc⟩ : ∃ count, (s.loaded sample).acts.bat.count = count + 1 :=
    ⟨_, (Nat.succ_pred_eq_of_pos hcount).symm⟩
  have hrecs : ((s.loaded sample).acts.bat.records s.slot).take (s.loaded sample).acts.bat.count =
      b :: bs.take count := by
    rw [records_loaded, hb, hc, List.take_succ_cons]
  have hem : (s.loaded sample).emissions .batteries =
      (List.mapIdx GroupSpec.batteries.emissions (((s.loaded sample).acts.bat.records s.slot).take
        (s.loaded sample).acts.bat.count)).flatten := rfl
  rw [hem, hrecs, List.mapIdx_cons]
  exact ⟨_, rfl⟩

/-- Batteries leave nothing exactly if the first one is refused. -/
theorem leftover_batteries_eq_nil (h : Ready dv B w) (hcov : BatteriesCovered dv)
    (hbat : .batteries ∈ w.1.defined)
    (hstop : Stopped dv B (w.1.loaded sample) before done rest cause l n w w') :
    done.filterMap (Emission.stored? Group.batteries.metrics) = [] ↔
      ∃ b, sample.bat.head? = some b ∧
        w.1.registry.number? Domain.battery (batteryLabel b.batId) ≠ some 0 := by
  have hmem : .entry Domain.battery l (some n) ∈ (w.1.loaded sample).emissions .batteries := by
    rw [hstop.emissions]
    simp
  obtain ⟨-, i, b, -, hi, hb, -⟩ := mem_emissions_batteries hmem
  have hb' : sample.bat[i]? = some b := records_loaded w.1 sample ▸ hb
  rcases hlist : sample.bat with _ | ⟨b₀, bs⟩
  · simp [hlist] at hb'
  obtain ⟨es, hes⟩ := emissions_batteries_cons (s := w.1) hlist (Nat.zero_lt_of_lt hi)
  have hdone := takeWhile_emissions h hcov hbat hstop
  rw [hes] at hdone
  rw [← hdone]
  by_cases hb₀ : w.1.registry.number? Domain.battery (batteryLabel b₀.batId) = some 0
  · have hagree : agrees w.1.registry
        (.entry Domain.battery (batteryLabel b₀.batId) (some 0)) = true := by
      simp [agrees, hb₀]
    have hvalue : agrees w.1.registry
        (.value 0 (some (batteryLabel b₀.batId)) (.u32 b₀.capacity)) = true := rfl
    have hentry : Emission.stored? Group.batteries.metrics
        (.entry Domain.battery (batteryLabel b₀.batId) (some 0)) = none := rfl
    obtain ⟨v, hv⟩ : ∃ v, Emission.stored? Group.batteries.metrics
        (.value 0 (some (batteryLabel b₀.batId)) (.u32 b₀.capacity)) = some v := ⟨_, rfl⟩
    rw [List.takeWhile_cons_of_pos hagree, List.takeWhile_cons_of_pos hvalue,
      List.filterMap_cons_none hentry, List.filterMap_cons_some hv]
    simp [hb₀]
  · have hno : ¬ agrees w.1.registry
        (.entry Domain.battery (batteryLabel b₀.batId) (some 0)) = true := by
      simp [agrees, hb₀]
    rw [List.takeWhile_cons_of_neg hno]
    simp [hb₀]

/-- Whether a failed export of a sample leaves the queue as it was. -/
def Isolates (s : Session) (sample : Sample) : Prop :=
  s.phase ∉ Operation.exportRecord.allowedIn ∨
    (∀ g ∈ s.defined.takeWhile (· ≠ .batteries), (s.loaded sample).values g = []) ∧
      ∃ b, sample.bat.head? = some b ∧
        s.registry.number? Domain.battery (batteryLabel b.batId) ≠ some 0

theorem leftover_eq_nil_iff (h : Ready dv B w) (hcov : BatteriesCovered dv)
    (hdef : w.1.defined = before ++ .batteries :: after)
    (hstop : Stopped dv B (w.1.loaded sample) before done rest cause l n w w') :
    w.1.leftover sample = [] ↔ w.1.Isolates sample := by
  have hbat : .batteries ∈ w.1.defined := by
    rw [hdef]
    simp
  rw [leftover_eq h hcov hdef hstop, Isolates, takeWhile_groups h.nodup hdef,
    List.append_eq_nil_iff, List.flatMap_eq_nil_iff, leftover_batteries_eq_nil h hcov hbat hstop]
  exact ⟨Or.inr, fun hor => hor.resolve_left (absurd h.phase)⟩

/-- What a failed export of a sample comes to: its leftover is queued, and stands before the values
of the next record. -/
structure Left (w : Session × Store) (sample : Sample) (failed : Session × Store) : Prop where
  pending : failed.2.pending = w.2.pending ++ w.1.leftover sample
  records : failed.2.records = w.2.records
  isolates : failed.2.pending = w.2.pending ↔ w.1.Isolates sample
  next : ∀ next, (failed.1.exportRecord failed.2 next).1 = .ok () →
    (failed.1.exportRecord failed.2 next).2.2.records = w.2.records ++ [⟨next.timestamp,
      w.2.pending ++ w.1.leftover sample ++
        failed.1.defined.flatMap (failed.1.loaded next).values⟩]

theorem left_of_uninitialized (h : w.1.phase = .uninitialized) :
    Left w sample (w.1.exportRecord w.2 sample).2 := by
  have hno : w.1.phase ∉ Operation.exportRecord.allowedIn := by
    rw [h]
    decide
  have hleft : w.1.leftover sample = [] := if_neg hno
  rw [exportRecord_of_uninitialized h]
  refine ⟨by rw [hleft, List.append_nil], rfl, ⟨fun _ => Or.inl hno, fun _ => rfl⟩,
    fun next hok => ?_⟩
  rw [exportRecord_of_uninitialized h] at hok
  cases hok

theorem left_of_ready (h : Ready dv B w) (hcov : BatteriesCovered dv) {e : SessionError}
    (herr : (w.1.exportRecord w.2 sample).1 = .error e) :
    Left w sample (w.1.exportRecord w.2 sample).2 := by
  rcases exportRecord_outcome h hcov sample with
    ⟨w', hrun, -, -⟩ | ⟨before, after, done, rest, cause, l, n, failed, hrun, hdef, hstop⟩
  · rw [hrun] at herr
    cases herr
  rw [hrun]
  have hpending : failed.2.pending = w.2.pending ++ w.1.leftover sample := by
    rw [leftover_eq h hcov hdef hstop]
    exact hstop.wrote.pending
  refine ⟨hpending, hstop.wrote.records, ?_, fun next hok => ?_⟩
  · rw [← leftover_eq_nil_iff h hcov hdef hstop, hpending]
    exact List.append_right_eq_self
  · rcases exportRecord_outcome hstop.ready hcov next with
      ⟨w'', hrun', -, hrec⟩ | ⟨_, _, _, _, _, _, _, _, hrun', -, -⟩
    · rw [hrun', hrec.records, hstop.wrote.records, hpending]
    · rw [hrun'] at hok
      cases hok

/-- A failed export writes no record, but what it queued stays. Nothing stays exactly if no group
before the batteries has a value and the first battery is refused. -/
theorem failed_export_queues_leftover (h : Reachable config w) {e : SessionError}
    (herr : (w.1.exportRecord w.2 sample).1 = .error e) :
    Left w sample (w.1.exportRecord w.2 sample).2 := by
  rcases h.condition with rfl | hspent | ⟨header, discovery, hready⟩
  · exact left_of_uninitialized rfl
  · exact left_of_uninitialized hspent.phase
  · exact left_of_ready hready batteriesCovered herr

/-- A session on which only the batteries are enabled, defined for one battery. -/
def oneBattery : Session × Store :=
  ((initial { groups := some ["bat"] }).define .empty {} [withBatteries [0]]).2

/-- A battery of another number is refused, and the values of the host stay queued. -/
theorem other_battery_leaves_host :
    Reachable { groups := some ["bat"] } oneBattery ∧
      (oneBattery.1.exportRecord oneBattery.2 (withBatteries [1])).1 =
        .error (.registry (.conflictingInstance Domain.battery 0 "BAT0" "BAT1")) ∧
      Left oneBattery (withBatteries [1])
        (oneBattery.1.exportRecord oneBattery.2 (withBatteries [1])).2 ∧
      (oneBattery.1.leftover (withBatteries [1])).map (·.text) = ["0", "0", "", "", "", ""] := by
  have hreach : Reachable { groups := some ["bat"] } oneBattery := .define _ _ (.new (new_eq _))
  have herr : (oneBattery.1.exportRecord oneBattery.2 (withBatteries [1])).1 =
    .error (.registry (.conflictingInstance Domain.battery 0 "BAT0" "BAT1")) := rfl
  exact ⟨hreach, herr, failed_export_queues_leftover hreach herr, rfl⟩

end ActivityArchive.Session
