import ActivityArchive.Activity.Aggregate

/-!
Sums of words, and of records word by word. A sum of words is the sum among whole numbers as far as
it fits a word (`foldl_add_eq`), and a sum of records has in each word the sum of that word
(`Wordwise.word_sum`).
-/
namespace ActivityArchive

/-- A sum of words, started from a number that is known up to the size of a word. -/
theorem toNat_foldl_add {xs : List UInt64} {z : UInt64} {n : Nat} (h : z.toNat = n % UInt64.size) :
    (xs.foldl (· + ·) z).toNat = xs.foldl (fun n x => n + x.toNat) n % UInt64.size := by
  induction xs generalizing z n with
  | nil => exact h
  | cons x xs ih =>
    refine ih ?_
    rw [UInt64.toNat_add, h]
    exact Nat.mod_add_mod n UInt64.size x.toNat

theorem foldl_add_eq (xs : List UInt64) :
    xs.foldl (· + ·) 0 = UInt64.ofNat (xs.foldl (fun n x => n + x.toNat) 0) :=
  UInt64.toNat_inj.mp ((toNat_foldl_add (n := 0) rfl).trans UInt64.toNat_ofNat'.symm)

theorem toNat_satSub (a b : UInt64) : (satSub a b).toNat = a.toNat - b.toNat := by
  rw [satSub]
  split
  · exact UInt64.toNat_sub_of_le a b ‹_›
  · have hlt := UInt64.lt_iff_toNat_lt.mp (UInt64.not_le.mp ‹_›)
    exact (Nat.sub_eq_zero_of_le (Nat.le_of_lt hlt)).symm

section

variable {R : Type} [Inhabited R] {add : R → R → R} {words : List (R → UInt64)}
  {f : R → UInt64} {r : R}

/-- Records that are made of words: added word by word, and blank where all words are zero. -/
structure Wordwise (add : R → R → R) (words : List (R → UInt64)) : Prop where
  word_add : ∀ f ∈ words, ∀ a b, f (add a b) = f a + f b
  word_default : ∀ f ∈ words, f default = 0
  ext : ∀ a b, (∀ f ∈ words, f a = f b) → a = b

namespace Wordwise

theorem eq_default_iff (h : Wordwise add words) : r = default ↔ ∀ f ∈ words, f r = 0 :=
  ⟨fun hr f hf => hr ▸ h.word_default f hf,
    fun hzero => h.ext r default fun f hf => (hzero f hf).trans (h.word_default f hf).symm⟩

/-- The sum of one word over some records. -/
theorem word_sum (h : Wordwise add words) (hf : f ∈ words) (rs : List R) :
    f (rs.foldl add default) = UInt64.ofNat (rs.foldl (fun n r => n + (f r).toNat) 0) := by
  have hwords : f (rs.foldl add default) = (rs.map f).foldl (· + ·) (f default) := by
    rw [List.foldl_map]
    exact (List.foldl_hom f fun a b => (h.word_add f hf a b).symm).symm
  rw [hwords, h.word_default f hf, foldl_add_eq, List.foldl_map]

end Wordwise

end

namespace Record.Softnet

/-- The counters of a packet queue, one by one. -/
def words : List (Softnet → UInt64) :=
  [(·.processed), (·.dropped), (·.timeSqueeze), (·.receivedRps), (·.flowLimit),
    (·.backlogLen)]

theorem wordwise : Wordwise add words where
  word_add := by simp [words, add]
  word_default := by simp [words, default]
  ext a b h := by
    cases a
    cases b
    simpa [words] using h

end Record.Softnet

end ActivityArchive
