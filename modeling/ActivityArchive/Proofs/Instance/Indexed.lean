import ActivityArchive.Instance.Indexed
import ActivityArchive.Proofs.Instance.Calls

/-!
A registry with tables shows what a registry of lists alone shows, whatever function the digest is.
The tables of a domain say where its entries stand (`DomainIndex.Sound`): a number has one position,
while the positions under a digest may be those of several labels, which are compared before one is
taken. Every call keeps the tables in step with the list and the domains with their order
(`Mirrors.call`), so the numbers and labels of a domain determine each other however the look-up is
done.
-/
namespace ActivityArchive

namespace DomainIndex

variable {digest : String → UInt64} {t : DomainIndex} {n : Int} {l : String} {e : Entry}

/-- The tables give exactly the positions of the list. -/
structure Sound (digest : String → UInt64) (t : DomainIndex) : Prop where
  number : ∀ (n : Int) (pos : Nat), t.byNumber[n]? = some pos ↔
    ∃ l, t.entries[pos]? = some (n, l)
  label : ∀ (word : UInt64) (pos : Nat), pos ∈ t.bucket word ↔
    ∃ e, t.entries[pos]? = some e ∧ digest e.2 = word

theorem sound_empty (digest : String → UInt64) : Sound digest {} :=
  ⟨fun n pos => by simp, fun word pos => by simp [bucket]⟩

theorem entry_of_getElem? {pos : Nat} (h : t.entries[pos]? = some e) : t.entry pos = e := by
  simp [entry, List.getD_eq_getElem?_getD, h]

/-- No position falls outside the list, so the default of `entry` is never read. -/
theorem Sound.position_lt (h : t.Sound digest) {word : UInt64} {pos : Nat} :
    (t.byNumber[n]? = some pos ∨ pos ∈ t.bucket word) → pos < t.entries.length := by
  rintro (hpos | hpos)
  · obtain ⟨l, hl⟩ := (h.number n pos).mp hpos
    exact (List.getElem?_eq_some_iff.mp hl).1
  · obtain ⟨e, he, -⟩ := (h.label word pos).mp hpos
    exact (List.getElem?_eq_some_iff.mp he).1

/-- Either no entry has the number, or the table gives one that has. -/
theorem Sound.byNumber_cases (h : t.Sound digest) (n : Int) :
    (t.byNumber[n]? = none ∧ ∀ e ∈ t.entries, e.1 ≠ n) ∨
      ∃ pos l, t.byNumber[n]? = some pos ∧ t.entry pos = (n, l) ∧ (n, l) ∈ t.entries := by
  cases hpos : t.byNumber[n]? with
  | none =>
    refine Or.inl ⟨rfl, fun e he hn => ?_⟩
    obtain ⟨pos, hget⟩ := List.mem_iff_getElem?.mp he
    have hsome := (h.number n pos).mpr ⟨e.2, by rw [hget, ← hn]⟩
    rw [hpos] at hsome
    cases hsome
  | some pos =>
    obtain ⟨l, hl⟩ := (h.number n pos).mp hpos
    exact Or.inr ⟨pos, l, rfl, entry_of_getElem? hl, List.mem_of_getElem? hl⟩

/-- Either no entry has the label, or the bucket of its digest holds one that has, whatever else it
holds. -/
theorem Sound.positionOf_cases (h : t.Sound digest) (l : String) :
    (t.positionOf? digest l = none ∧ ∀ e ∈ t.entries, e.2 ≠ l) ∨
      ∃ pos n, t.positionOf? digest l = some pos ∧ t.entry pos = (n, l) ∧
      (n, l) ∈ t.entries := by
  unfold positionOf?
  cases hpos : (t.bucket (digest l)).find? fun pos => (t.entry pos).2 = l with
  | none =>
    refine Or.inl ⟨rfl, fun e he hl => ?_⟩
    obtain ⟨pos, hget⟩ := List.mem_iff_getElem?.mp he
    have hmem := (h.label (digest l) pos).mpr ⟨e, hget, by rw [hl]⟩
    have hne := List.find?_eq_none.mp hpos pos hmem
    simp [entry_of_getElem? hget, hl] at hne
  | some pos =>
    obtain ⟨⟨n, l'⟩, hget, -⟩ := (h.label _ pos).mp (List.mem_of_find?_eq_some hpos)
    have hl := List.find?_some hpos
    simp only [entry_of_getElem? hget, decide_eq_true_eq] at hl
    subst hl
    exact Or.inr ⟨pos, n, rfl, entry_of_getElem? hget, List.mem_of_getElem? hget⟩

theorem getElem?_concat_iff {es : List Entry} {pos : Nat} {x : Entry} :
    (es ++ [e])[pos]? = some x ↔ es[pos]? = some x ∨ (pos = es.length ∧ x = e) := by
  rcases Nat.lt_trichotomy pos es.length with hlt | rfl | hgt
  · simp [List.getElem?_append_left hlt, Nat.ne_of_lt hlt]
  · simp [eq_comm]
  · have hlen : (es ++ [e]).length ≤ pos := by simp; omega
    simp [List.getElem?_eq_none hlen, List.getElem?_eq_none (Nat.le_of_lt hgt), Nat.ne_of_gt hgt]

/-- The label may have come before: its position only joins the bucket. -/
theorem Sound.push (h : t.Sound digest) (hn : ∀ e ∈ t.entries, e.1 ≠ n) :
    (t.push digest (n, l)).Sound digest := by
  refine ⟨fun m pos => ?_, fun word pos => ?_⟩
  · simp only [DomainIndex.push, Std.HashMap.getElem?_insert, getElem?_concat_iff]
    by_cases hm : n = m
    · subst hm
      have hnone : ∀ k, t.entries[pos]? ≠ some (n, k) :=
        fun k hk => hn (n, k) (List.mem_of_getElem? hk) rfl
      simp [hnone, eq_comm]
    · simp [hm, h.number, Ne.symm hm]
  · have hbucket : (t.push digest (n, l)).bucket word =
        if digest l = word then t.bucket word ++ [t.entries.length] else t.bucket word := by
      simp only [bucket, DomainIndex.push, Std.HashMap.getD_insert, beq_iff_eq]
      split
      · rename_i hword
        rw [hword]
      · rfl
    have hconcat : (∃ e, (t.push digest (n, l)).entries[pos]? = some e ∧ digest e.2 = word) ↔
        pos ∈ t.bucket word ∨ (pos = t.entries.length ∧ digest l = word) := by
      simp only [DomainIndex.push, getElem?_concat_iff, h.label]
      constructor
      · rintro ⟨e, he | ⟨hpos, rfl⟩, hword⟩
        · exact Or.inl ⟨e, he, hword⟩
        · exact Or.inr ⟨hpos, hword⟩
      · rintro (⟨e, he, hword⟩ | ⟨hpos, hword⟩)
        · exact ⟨e, Or.inl he, hword⟩
        · exact ⟨(n, l), Or.inr ⟨hpos, rfl⟩, hword⟩
    rw [hbucket, hconcat]
    by_cases hword : digest l = word <;> simp [hword]

end DomainIndex

namespace IndexedRegistry

variable {digest : String → UInt64} {x x' : IndexedRegistry} {r r' : Registry} {d d' : DomainId}
  {n : Int} {l : String}

/-- Outcomes aside, what a call leaves behind. -/
def call (digest : String → UInt64) (x : IndexedRegistry) : Registry.Call → IndexedRegistry
  | .add d label number => (x.add digest d label number).2
  | .ensure d label => (x.ensure digest d label).2

/-- The registry after some calls on a new one. -/
def after (digest : String → UInt64) (calls : List Registry.Call) : IndexedRegistry :=
  calls.foldl (call digest) {}

/-- Tables in step with the lists of the domains, and domains in step with their order. -/
structure Mirrors (digest : String → UInt64) (x : IndexedRegistry) (r : Registry) : Prop where
  order : x.order = r.inUse
  entries : ∀ d, x.entries d = r.entries d
  known : ∀ d : DomainId, x.domains[d]? = none ↔ d ∉ r.inUse
  sound : ∀ (d : DomainId) (t : DomainIndex), x.domains[d]? = some t → t.Sound digest

theorem mirrors_empty (digest : String → UInt64) : Mirrors digest {} .empty :=
  ⟨rfl, fun d => by simp [entries], fun d => by simp [Registry.inUse, Registry.empty],
    fun d t h => by simp at h⟩

theorem entries_of_getElem? {t : DomainIndex} (ht : x.domains[d]? = some t) :
    x.entries d = t.entries := by simp [entries, ht]

theorem Mirrors.next (h : Mirrors digest x r) (d : DomainId) : x.next d = r.next d := by
  rw [IndexedRegistry.next, h.entries]
  rfl

theorem Mirrors.entries_of_none (h : Mirrors digest x r) (hd : x.domains[d]? = none) :
    r.entries d = [] := by
  rw [← h.entries d]
  simp [IndexedRegistry.entries, hd]

theorem Mirrors.label? (h : Mirrors digest x r) (hw : r.WellFormed) (d : DomainId) (n : Int) :
    x.label? d n = r.label? d n := by
  cases ht : x.domains[d]? with
  | none =>
    rw [Registry.label?_eq_none_iff.mpr (by simp [h.entries_of_none ht])]
    simp [IndexedRegistry.label?, ht]
  | some t =>
    have hentries : t.entries = r.entries d := by rw [← h.entries d, entries_of_getElem? ht]
    rcases (h.sound d t ht).byNumber_cases n with ⟨hpos, hfree⟩ | ⟨pos, l, hpos, he, hmem⟩
    · rw [Registry.label?_eq_none_iff.mpr (hentries ▸ hfree)]
      simp [IndexedRegistry.label?, ht, hpos]
    · rw [(Registry.label?_eq_some_iff hw).mpr (hentries ▸ hmem)]
      simp [IndexedRegistry.label?, ht, hpos, he]

theorem Mirrors.number? (h : Mirrors digest x r) (hw : r.WellFormed) (d : DomainId) (l : String) :
    x.number? digest d l = r.number? d l := by
  cases ht : x.domains[d]? with
  | none =>
    rw [Registry.number?_eq_none_iff.mpr (by simp [h.entries_of_none ht])]
    simp [IndexedRegistry.number?, ht]
  | some t =>
    have hentries : t.entries = r.entries d := by rw [← h.entries d, entries_of_getElem? ht]
    rcases (h.sound d t ht).positionOf_cases l with ⟨hpos, hfree⟩ | ⟨pos, n, hpos, he, hmem⟩
    · rw [Registry.number?_eq_none_iff.mpr (hentries ▸ hfree)]
      simp [IndexedRegistry.number?, ht, hpos]
    · rw [(Registry.number?_eq_some_iff hw).mpr (hentries ▸ hmem)]
      simp [IndexedRegistry.number?, ht, hpos, he]

/-- The one way in which a registry changes. -/
theorem Mirrors.push (h : Mirrors digest x r) (hn : ∀ e ∈ r.entries d, e.1 ≠ n) :
    Mirrors digest
      (push digest { x with order := if d ∈ x.order then x.order else x.order ++ [d] } d (n, l))
      (r.insert d (n, l)) := by
  have hgetD : (x.domains.getD d {}).entries = x.entries d := by
    rw [Std.HashMap.getD_eq_getD_getElem?, IndexedRegistry.entries]
    cases x.domains[d]? <;> rfl
  have hsound : (x.domains.getD d {}).Sound digest := by
    rw [Std.HashMap.getD_eq_getD_getElem?]
    cases ht : x.domains[d]? with
    | none => exact DomainIndex.sound_empty digest
    | some t => exact h.sound d t ht
  refine ⟨?_, fun d' => ?_, fun d' => ?_, fun d' t ht => ?_⟩
  · simp only [IndexedRegistry.push, h.order, Registry.inUse_insert]
  · rw [Registry.entries_insert, ← h.entries d, ← h.entries d']
    by_cases hd : d' = d
    · subst hd
      rw [if_pos rfl, ← hgetD]
      simp [IndexedRegistry.entries, IndexedRegistry.push, DomainIndex.push]
    · simp [IndexedRegistry.entries, IndexedRegistry.push, Std.HashMap.getElem?_insert,
        hd, Ne.symm hd]
  · rw [Registry.inUse_insert]
    by_cases hd : d' = d
    · subst hd
      by_cases hin : d' ∈ r.inUse <;> simp [IndexedRegistry.push, hin]
    · by_cases hin : d ∈ r.inUse <;>
        simp [IndexedRegistry.push, Std.HashMap.getElem?_insert, Ne.symm hd, hin, hd, h.known]
  · simp only [IndexedRegistry.push, Std.HashMap.getElem?_insert, beq_iff_eq] at ht
    split at ht
    · cases ht
      exact hsound.push (by rw [hgetD, h.entries]; exact hn)
    · exact h.sound d' t ht

/-- Registration has the outcome it has on the lists, cause included. -/
theorem Mirrors.add (h : Mirrors digest x r) (hw : r.WellFormed) (d : DomainId)
    (l : String) (n : Int) :
    (x.add digest d l n).1 = (r.add d l n).map (·.1) ∧
      Mirrors digest (x.add digest d l n).2 (r.call (.add d l n)) := by
  cases ht : x.domains[d]? with
  | none =>
    have hnil := h.entries_of_none ht
    have hadd := Registry.add_fresh (r := r) (d := d) (n := n) (l := l) (by simp [hnil])
      (by simp [hnil])
    have horder : d ∉ x.order := h.order ▸ (h.known d).mp ht
    have hpush := h.push (d := d) (n := n) (l := l) (by simp [hnil])
    rw [if_neg horder] at hpush
    simp only [IndexedRegistry.add, ht, Registry.call, hadd]
    exact ⟨rfl, hpush⟩
  | some t =>
    have hentries : t.entries = r.entries d := by rw [← h.entries d, entries_of_getElem? ht]
    rcases (h.sound d t ht).byNumber_cases n with ⟨hpos, hn⟩ | ⟨pos, l', hpos, he, hmem⟩
    · rcases (h.sound d t ht).positionOf_cases l with ⟨hpos', hl⟩
        | ⟨pos, m, hpos', he, hmem⟩
      · rw [hentries] at hn hl
        have horder : d ∈ x.order := by
          rw [h.order]
          exact Decidable.not_not.mp fun hd => by simp [(h.known d).mpr hd] at ht
        have hpush := h.push (d := d) (n := n) (l := l) hn
        rw [if_pos horder] at hpush
        simp only [IndexedRegistry.add, ht, hpos, hpos', Registry.call, Registry.add_fresh hn hl]
        exact ⟨rfl, hpush⟩
      · have hnone := Registry.label?_eq_none_iff.mpr (hentries ▸ hn)
        have hsome := (Registry.number?_eq_some_iff hw).mpr (hentries ▸ hmem)
        simp only [IndexedRegistry.add, ht, hpos, hpos', he, Registry.call,
          Registry.add, hnone, hsome]
        exact ⟨rfl, h⟩
    · have hsome := (Registry.label?_eq_some_iff hw).mpr (hentries ▸ hmem)
      by_cases hll : l' = l
      · simp only [IndexedRegistry.add, ht, hpos, he, Registry.call, Registry.add,
          hsome, if_pos hll]
        exact ⟨rfl, h⟩
      · simp only [IndexedRegistry.add, ht, hpos, he, Registry.call, Registry.add,
          hsome, if_neg hll]
        exact ⟨rfl, h⟩

theorem Mirrors.ensure (h : Mirrors digest x r) (hw : r.WellFormed) (d : DomainId) (l : String) :
    (x.ensure digest d l).1 = (r.ensure d l).map (·.1) ∧
      Mirrors digest (x.ensure digest d l).2 (r.call (.ensure d l)) := by
  unfold IndexedRegistry.ensure
  rw [h.number? hw]
  rcases hnum : r.number? d l with _ | n
  · obtain ⟨hout, hmirrors⟩ := h.add hw d l (r.next d)
    have hadd := Registry.add_fresh (fun _ he => Registry.number_ne_next he)
      (Registry.number?_eq_none_iff.mp hnum)
    simp only [Registry.call, Registry.ensure, hnum, hadd] at hout hmirrors ⊢
    rw [h.next, hout]
    exact ⟨rfl, hmirrors⟩
  · simp only [Registry.call, Registry.ensure, hnum]
    exact ⟨rfl, h⟩

theorem Mirrors.call (h : Mirrors digest x r) (hw : r.WellFormed) (c : Registry.Call) :
    Mirrors digest (x.call digest c) (r.call c) := by
  cases c with
  | add d l n => exact (h.add hw d l n).2
  | ensure d l => exact (h.ensure hw d l).2

theorem mirrors_after (digest : String → UInt64) (calls : List Registry.Call) :
    Mirrors digest (after digest calls) (Registry.after calls) := by
  have key : ∀ x r, Mirrors digest x r → r.Tidy →
      Mirrors digest (calls.foldl (IndexedRegistry.call digest) x)
        (calls.foldl Registry.call r) := by
    induction calls with
    | nil => exact fun _ _ h _ => h
    | cons c calls ih => exact fun x r h hr => ih _ _ (h.call hr.wellFormed c) (hr.call c)
  exact key _ _ (mirrors_empty digest) Registry.tidy_empty

/-- The same domains and instances in the same order, the same answers, and the same outcomes. -/
structure Shows (digest : String → UInt64) (x : IndexedRegistry) (r : Registry) : Prop where
  inUse : x.order = r.inUse
  entries : ∀ d, x.entries d = r.entries d
  label? : ∀ d n, x.label? d n = r.label? d n
  number? : ∀ d l, x.number? digest d l = r.number? d l
  next : ∀ d, x.next d = r.next d
  add : ∀ d l n, (x.add digest d l n).1 = (r.add d l n).map (·.1)
  ensure : ∀ d l, (x.ensure digest d l).1 = (r.ensure d l).map (·.1)

theorem Mirrors.shows (h : Mirrors digest x r) (hw : r.WellFormed) : Shows digest x r :=
  ⟨h.order, h.entries, h.label? hw, h.number? hw, h.next, fun d l n => (h.add hw d l n).1,
    fun d l => (h.ensure hw d l).1⟩

/-- A registry that refuses a pair stays as it is, tables included. -/
theorem add_error {cause : RegistryError} (h : (x.add digest d l n).1 = .error cause) :
    (x.add digest d l n).2 = x := by
  unfold add at h ⊢
  split
  · simp [*] at h
  · split
    · dsimp only
      split <;> rfl
    · split
      · rfl
      · simp [*] at h

/-- Numbers and labels of a domain determine each other, in the list and in both look-ups; a pair is
taken when it is known or shares nothing with the known ones. -/
structure OneToOne (digest : String → UInt64) (x : IndexedRegistry) : Prop where
  numbers : ∀ d, ((x.entries d).map (·.1)).Nodup
  labels : ∀ d, ((x.entries d).map (·.2)).Nodup
  label_iff : ∀ d n l, x.label? d n = some l ↔ (n, l) ∈ x.entries d
  number_iff : ∀ d n l, x.number? digest d l = some n ↔ (n, l) ∈ x.entries d
  order : x.order.Nodup
  order_iff : ∀ d, d ∈ x.order ↔ x.entries d ≠ []
  add_iff : ∀ d l n, (∃ new, (x.add digest d l n).1 = .ok new) ↔
    (n, l) ∈ x.entries d ∨ (∀ e ∈ x.entries d, e.1 ≠ n) ∧
    ∀ e ∈ x.entries d, e.2 ≠ l
  refused : ∀ d l n cause, (x.add digest d l n).1 = .error cause → (x.add digest d l n).2 = x
  ensured : ∀ d l, ∃ n, (x.ensure digest d l).1 = .ok n
  next_le : ∀ d bound, 0 ≤ bound → (∀ e ∈ x.entries d, e.1 < bound) → x.next d ≤ bound

theorem Shows.oneToOne (h : Shows digest x r) (hr : r.Tidy) : OneToOne digest x := by
  have hw := hr.wellFormed
  refine ⟨fun d => ?_, fun d => ?_, fun d n l => ?_, fun d n l => ?_, ?_, fun d => ?_,
    fun d l n => ?_, fun _ _ _ _ hadd => add_error hadd, fun d l => ?_, fun d bound h0 hlt => ?_⟩
  · rw [h.entries]
    exact List.pairwise_map.mpr ((hw d).imp And.left)
  · rw [h.entries]
    exact List.pairwise_map.mpr ((hw d).imp And.right)
  · rw [h.label?, h.entries, Registry.label?_eq_some_iff hw]
  · rw [h.number?, h.entries, Registry.number?_eq_some_iff hw]
  · exact h.inUse ▸ hr.nodup
  · rw [h.inUse, h.entries, hr.mem_inUse]
  · rw [h.add, h.entries, ← Registry.add_ok_iff hw]
    cases r.add d l n <;> simp [Except.map]
  · rw [h.ensure]
    rcases Registry.ensure_cases r d l with ⟨n, hensure, -⟩ | ⟨hensure, -⟩ <;> rw [hensure]
    · exact ⟨n, rfl⟩
    · exact ⟨r.next d, rfl⟩
  · rw [h.next]
    exact Registry.next_le h0 (h.entries d ▸ hlt)

/-- Whatever the digest makes of the labels, after any calls the numbers and labels of every domain
determine each other; and no answer depends on the digest. -/
theorem one_to_one_after_calls (digest : String → UInt64) (calls : List Registry.Call) :
    OneToOne digest (after digest calls) ∧ Shows digest (after digest calls)
      (Registry.after calls) ∧
      ∀ (d : DomainId) (t : DomainIndex), (after digest calls).domains[d]? = some t →
      t.Sound digest := by
  have hmirrors := mirrors_after digest calls
  have htidy := Registry.tidy_after calls
  have hshows := hmirrors.shows htidy.wellFormed
  exact ⟨hshows.oneToOne htidy, hshows, hmirrors.sound⟩

end IndexedRegistry

end ActivityArchive
