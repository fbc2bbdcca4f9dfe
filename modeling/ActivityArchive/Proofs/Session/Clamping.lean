import ActivityArchive.Proofs.Group.Clamping
import ActivityArchive.Proofs.Session.Runs

/-!
Units that were not planned for leave no trace. They make buffers larger and are observed, but an
export of a sample and an export of its truncation end alike, with the same store, and leave
sessions that agree as far as they planned (`exportRecord_clamped`); so it is for every run of
exports (`exports_clamped`).
-/
namespace ActivityArchive.Session

open Record

/-- Exports samples one after the other, each whatever became of those before it, and tells how each
of them ended. -/
def exportEach :
    List Sample → Session × Store → List (Except SessionError Unit) × Session × Store
  | [], w => ([], w)
  | x :: xs, w =>
    let (outcome, w) := w.1.exportRecord w.2 x
    let (outcomes, w) := exportEach xs w
    (outcome :: outcomes, w)

theorem exportEach_cons (x : Sample) (xs : List Sample) (w : Session × Store) :
    exportEach (x :: xs) w =
      ((w.1.exportRecord w.2 x).1 :: (exportEach xs (w.1.exportRecord w.2 x).2).1,
        (exportEach xs (w.1.exportRecord w.2 x).2).2) := rfl

/-- How many instances and rows a session planned for. -/
def counts (s : Session) : Counts := ⟨fun k => (s.acts.multi k).count, s.acts.irq.count⟩

/-- The most instances and rows that one of the samples has. -/
def mostSeen (samples : List Sample) : Counts :=
  ⟨fun k => longest k samples, Archive.interruptRows samples⟩

/-- A definition plans for the most that was seen before it. -/
theorem counts_define (config : Config) (header : HostHeader) (discovery : List Sample)
    (store : Store) :
    ((initial config).define store header discovery).2.1.counts = mostSeen discovery := by
  rw [counts, acts_define]
  simp only [multi_defineView, interrupts_defineView]
  rfl

/-- Sessions that agree as far as they planned, with the same store. -/
def Clamped (c : Counts) (w w' : Session × Store) : Prop :=
  ∃ b, Activities.Clamped c w.1.acts b ∧ w' = ({ w.1 with acts := b }, w.2)

variable {c : Counts} {w w' : Session × Store}

theorem Clamped.refl (h : Activities.Clamped c w.1.acts w.1.acts) : Clamped c w w := ⟨_, h, rfl⟩

/-- A group writes the same to both stores. -/
theorem exportGroup_clamped (h : Clamped c w w') (g : Group) :
    (exportGroup g w).1 = (exportGroup g w').1 ∧
      Clamped c (exportGroup g w).2 (exportGroup g w').2 := by
  obtain ⟨b, hacts, rfl⟩ := h
  obtain ⟨hemissions, hrest⟩ := g.emit_clamped (w.1.view g) hacts
  have hsame : ({ w.1 with acts := b } : Session).emissions g = w.1.emissions g := hemissions
  rw [exportGroup_eq, exportGroup_eq, hsame]
  exact ⟨rfl, _, hrest, rfl⟩

theorem loaded_clamped (h : Clamped c w w') (x : Sample) :
    Clamped c (w.1.loaded x, w.2) (w'.1.loaded (x.clamp c), w'.2) := by
  obtain ⟨b, hacts, rfl⟩ := h
  exact ⟨_, hacts.load w.1.slot x, rfl⟩

/-- One export of a sample, and one of what was planned for of it. -/
theorem exportRecord_clamped (h : Clamped c w w') (x : Sample) :
    (w.1.exportRecord w.2 x).1 = (w'.1.exportRecord w'.2 (x.clamp c)).1 ∧
      Clamped c (w.1.exportRecord w.2 x).2 (w'.1.exportRecord w'.2 (x.clamp c)).2 := by
  have hloaded := loaded_clamped h x
  obtain ⟨b, hacts, rfl⟩ := h
  rcases hcheck : w.1.check .exportRecord with e | _
  · have hcheck' : ({ w.1 with acts := b } : Session).check .exportRecord = .error e := hcheck
    rw [exportRecord, exportRecord, hcheck, hcheck']
    exact ⟨rfl, b, hacts, rfl⟩
  · have hcheck' : ({ w.1 with acts := b } : Session).check .exportRecord = .ok () := hcheck
    obtain ⟨hout, hgroups⟩ :=
      attemptAll_related hloaded fun g (_ : g ∈ w.1.defined) w w' hw =>
      exportGroup_clamped hw g
    rw [exportRecord_eq hcheck, exportRecord_eq hcheck']
    rcases hrun : attemptAll exportGroup w.1.defined
      (w.1.loaded x, w.2) with ⟨outcome, s, store⟩
    rcases hrun' : attemptAll exportGroup w.1.defined
      (({ w.1 with acts := b } : Session).loaded (x.clamp c), w.2) with ⟨outcome', w'⟩
    rw [hrun, hrun'] at hout hgroups
    obtain ⟨b', hacts', rfl⟩ := hgroups
    obtain rfl : outcome = outcome' := hout
    cases outcome with
    | error e => exact ⟨rfl, b', hacts', rfl⟩
    | ok _ =>
      rw [show (x.clamp c).timestamp = x.timestamp from rfl]
      dsimp only
      cases store.write x.timestamp with
      | error cause => exact ⟨rfl, b', hacts', rfl⟩
      | ok store => exact ⟨rfl, b', hacts', rfl⟩

theorem exportEach_clamped (h : Clamped c w w') (samples : List Sample) :
    (exportEach samples w).1 = (exportEach (samples.map (Sample.clamp c)) w').1 ∧
      Clamped c (exportEach samples w).2 (exportEach (samples.map (Sample.clamp c)) w').2 := by
  induction samples generalizing w w' with
  | nil => exact ⟨rfl, h⟩
  | cons x samples ih =>
    obtain ⟨hout, hnext⟩ := exportRecord_clamped h x
    obtain ⟨houts, hlast⟩ := ih hnext
    rw [List.map_cons, exportEach_cons, exportEach_cons, hout, houts]
    exact ⟨rfl, hlast⟩

/-- A session that was just defined agrees with itself: nothing was observed yet. -/
theorem clamped_define (config : Config) (header : HostHeader) (discovery : List Sample)
    (store : Store) :
    Clamped ((initial config).define store header discovery).2.1.counts
      ((initial config).define store header discovery).2
      ((initial config).define store header discovery).2 := by
  refine .refl fun t => ?_
  rw [counts, acts_define]
  cases t with
  | header => rfl
  | single k => rfl
  | multi k => exact Activity.clamped_of_empty (multi_defineView config header discovery k).1
  | interrupts => exact .refl (sized_defineView config header discovery)

/-- A definition plans for the most that it has seen. Of samples that have more, and of those
without what is more, every export ends alike, and the store is the same. -/
theorem exports_clamped (config : Config) (header : HostHeader) (discovery samples : List Sample) :
    let w := ((initial config).define .empty header discovery).2
    let clamped := samples.map (Sample.clamp w.1.counts)
    w.1.counts = mostSeen discovery ∧
      (exportEach samples w).1 = (exportEach clamped w).1 ∧
      (exportEach samples w).2.2 = (exportEach clamped w).2.2 := by
  intro w clamped
  obtain ⟨houts, b, -, hlast⟩ :=
    exportEach_clamped (clamped_define config header discovery .empty)
    samples
  exact ⟨counts_define config header discovery .empty, houts, (congrArg Prod.snd hlast).symm⟩

end ActivityArchive.Session
