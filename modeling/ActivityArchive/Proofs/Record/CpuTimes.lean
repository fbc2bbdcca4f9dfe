import ActivityArchive.Proofs.Record.Sums

/-!
CPU times as whole numbers. As long as nothing reaches 2^64, totals and sums are what they are among
whole numbers (`toNat_ticks`, `toNat_sum`), and guest time stays within the time that it is part of.
-/
namespace ActivityArchive.Record.CpuTimes

/-- The counters of a CPU, one by one. -/
def words : List (CpuTimes → UInt64) :=
  [(·.user), (·.nice), (·.sys), (·.idle), (·.iowait), (·.steal), (·.hardirq),
    (·.softirq), (·.guest), (·.guestNice)]

/-- All ticks of a CPU, whether they fit into a word or not. -/
def total (c : CpuTimes) : Nat :=
  c.user.toNat + c.nice.toNat + c.sys.toNat + c.idle.toNat + c.iowait.toNat + c.hardirq.toNat +
    c.softirq.toNat + c.steal.toNat

/-- The sum of one counter over some records. -/
def sumOf (f : CpuTimes → UInt64) (cs : List CpuTimes) : Nat :=
  cs.foldl (fun n c => n + (f c).toNat) 0

/-- Guest time is in user time already, and nice guest time in nice time. -/
def IncludesGuest (c : CpuTimes) : Prop := c.guest ≤ c.user ∧ c.guestNice ≤ c.nice

instance (c : CpuTimes) : Decidable c.IncludesGuest :=
  inferInstanceAs (Decidable (c.guest ≤ c.user ∧ c.guestNice ≤ c.nice))

variable {c : CpuTimes} {f g : CpuTimes → UInt64} {cs : List CpuTimes}

theorem toNat_ticks_eq (c : CpuTimes) : c.ticks.toNat = c.total % UInt64.size := by
  simp only [ticks, total, UInt64.toNat_add, UInt64.size]
  omega

theorem toNat_ticks (h : c.total < UInt64.size) : c.ticks.toNat = c.total := by
  rw [toNat_ticks_eq, Nat.mod_eq_of_lt h]

/-- The interval between two records is empty unless the ticks have grown. -/
theorem cpuInterval_eq_zero_iff {curr prev : CpuTimes} (hcurr : curr.total < UInt64.size)
    (hprev : prev.total < UInt64.size) :
    cpuInterval curr prev = 0 ↔ ¬ prev.total < curr.total := by
  rw [← UInt64.toNat_inj, cpuInterval, toNat_satSub, toNat_ticks hcurr, toNat_ticks hprev]
  show _ = 0 ↔ _
  omega

theorem word_add (hf : f ∈ words) (a b : CpuTimes) : f (a.add b) = f a + f b := by
  simp only [words, List.mem_cons, List.not_mem_nil, or_false] at hf
  rcases hf with rfl | rfl | rfl | rfl | rfl | rfl | rfl | rfl | rfl | rfl <;> rfl

theorem word_default (hf : f ∈ words) : f default = 0 := by
  simp only [words, List.mem_cons, List.not_mem_nil, or_false] at hf
  rcases hf with rfl | rfl | rfl | rfl | rfl | rfl | rfl | rfl | rfl | rfl <;> rfl

theorem wordwise : Wordwise add words where
  word_add _ hf := word_add hf
  word_default _ hf := word_default hf
  ext a b h := by
    cases a
    cases b
    simpa [words] using h

/-- A sum that fits into a word is not cut off. -/
theorem toNat_sum (hf : f ∈ words) (h : sumOf f cs < UInt64.size) :
    (f (cs.foldl add default)).toNat = sumOf f cs := by
  rw [wordwise.word_sum hf]
  exact UInt64.toNat_ofNat_of_lt h

theorem sumOf_cons (f : CpuTimes → UInt64) (c : CpuTimes) (cs : List CpuTimes) :
    sumOf f (c :: cs) = (f c).toNat + sumOf f cs := by
  have key : ∀ n, cs.foldl (fun n c => n + (f c).toNat) n = n + sumOf f cs := by
    induction cs with
    | nil => exact fun _ => rfl
    | cons d cs ih =>
      intro n
      have hstart : sumOf f (d :: cs) = 0 + (f d).toNat + sumOf f cs := ih _
      rw [List.foldl_cons, ih, hstart]
      omega
  rw [sumOf, List.foldl_cons, key, Nat.zero_add]

/-- A sum falls by no more than the terms that fall. -/
theorem sumOf_map_le {A : Type} {x y : A → CpuTimes} (p : A → Bool) (as : List A)
    (h : ∀ a ∈ as, p a = false → f (x a) ≤ f (y a)) :
    sumOf f (as.map x) ≤ sumOf f (as.map y) + sumOf f ((as.filter p).map x) := by
  induction as with
  | nil => exact Nat.le_refl 0
  | cons a as ih =>
    have hrest := ih fun b hb => h b (List.mem_cons_of_mem a hb)
    rw [List.map_cons, List.map_cons, sumOf_cons, sumOf_cons]
    cases hp : p a with
    | true =>
      rw [List.filter_cons_of_pos hp, List.map_cons, sumOf_cons]
      omega
    | false =>
      have ha := UInt64.le_iff_toNat_le.mp (h a List.mem_cons_self hp)
      rw [List.filter_cons_of_neg (by simp [hp])]
      omega

theorem sumOf_le (h : ∀ c ∈ cs, f c ≤ g c) : sumOf f cs ≤ sumOf g cs := by
  have key : ∀ m n, m ≤ n → cs.foldl (fun n c => n + (f c).toNat) m ≤
      cs.foldl (fun n c => n + (g c).toNat) n := by
    induction cs with
    | nil => exact fun m n hmn => hmn
    | cons c cs ih =>
      intro m n hmn
      have hc := UInt64.le_iff_toNat_le.mp (h c List.mem_cons_self)
      exact ih (fun d hd => h d (List.mem_cons_of_mem c hd)) _ _ (Nat.add_le_add hmn hc)
  exact key 0 0 (Nat.le_refl 0)

/-- A sum includes guest time if its terms do. -/
theorem includesGuest_sum (h : ∀ c ∈ cs, c.IncludesGuest)
    (hfits : ∀ f ∈ words, sumOf f cs < UInt64.size) : (cs.foldl add default).IncludesGuest := by
  have hle : ∀ {f g : CpuTimes → UInt64}, f ∈ words → g ∈ words →
    (∀ c ∈ cs, f c ≤ g c) →
      f (cs.foldl add default) ≤ g (cs.foldl add default) := by
    intro f g hf hg hfg
    rw [UInt64.le_iff_toNat_le, toNat_sum hf (hfits f hf), toNat_sum hg (hfits g hg)]
    exact sumOf_le hfg
  refine ⟨hle (f := (·.guest)) (g := (·.user)) ?_ ?_ fun c hc => (h c hc).1,
    hle (f := (·.guestNice)) (g := (·.nice)) ?_ ?_ fun c hc => (h c hc).2⟩ <;> simp [words]

end ActivityArchive.Record.CpuTimes
