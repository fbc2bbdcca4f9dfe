/-!
Lists read by position, with a default value behind their end, lists without their repetitions, and
lists of items with keys. Defaults put behind a list are not seen.
-/
namespace ActivityArchive

variable {A : Type} {d : A}

theorem getD_of_le {xs : List A} {i : Nat} (h : xs.length ≤ i) : xs.getD i d = d := by
  rw [List.getD_eq_getElem?_getD, List.getElem?_eq_none h, Option.getD_none]

theorem getD_of_lt {xs : List A} {i : Nat} (h : i < xs.length) : xs.getD i d = xs[i] := by
  rw [List.getD_eq_getElem?_getD, List.getElem?_eq_getElem h, Option.getD_some]

theorem getD_append_replicate (xs : List A) (n i : Nat) :
    (xs ++ List.replicate n d).getD i d = xs.getD i d := by
  rw [List.getD_eq_getElem?_getD, List.getElem?_append]
  split
  · rw [List.getD_eq_getElem?_getD]
  · rename_i h
    rw [getD_of_le (Nat.le_of_not_lt h), List.getElem?_replicate]
    split <;> rfl

theorem getD_append_drop {xs : List A} {n : Nat} (h : xs.length = n) (ys : List A) (i : Nat) :
    (xs ++ ys.drop n).getD i d = if i < n then xs.getD i d else ys.getD i d := by
  subst h
  simp only [List.getD_eq_getElem?_getD, List.getElem?_append]
  split
  · rfl
  · rename_i h
    rw [List.getElem?_drop, Nat.add_sub_cancel' (Nat.le_of_not_lt h)]

/-- A repetition behind a list leaves nothing, all else stays in its place. -/
theorem eraseDups_concat [DecidableEq A] (xs : List A) (x : A) :
    (xs ++ [x]).eraseDups = if x ∈ xs then xs.eraseDups else xs.eraseDups ++ [x] := by
  by_cases hx : x ∈ xs <;> simp [List.eraseDups_append, List.removeAll, hx, List.eraseDups_cons]

/-- Items behind their keys, found by the position of the key. -/
theorem lookup_zip {K : Type} [BEq K] [LawfulBEq K] (ks : List K) (xs : List A) (k : K)
    (h : xs.length ≤ ks.length) : (ks.zip xs).lookup k = xs[ks.idxOf k]? := by
  induction ks generalizing xs with
  | nil =>
    obtain rfl := List.eq_nil_of_length_eq_zero (Nat.le_zero.mp h)
    rfl
  | cons k' ks ih =>
    cases xs with
    | nil => rfl
    | cons x xs =>
      rw [List.zip_cons_cons, List.lookup_cons, List.idxOf_cons, ih xs (Nat.le_of_succ_le_succ h)]
      by_cases hk : k = k'
      · simp [hk]
      · have hk' : (k' == k) = false := beq_eq_false_iff_ne.mpr (Ne.symm hk)
        rw [beq_eq_false_iff_ne.mpr hk, hk']
        rfl

/-- Items with different numbers, each of which changes what has its number. -/
theorem foldl_lookup {B : Type} {rows : List (Nat × A)} (h : (rows.map (·.1)).Nodup) (i : Nat)
    (f : A → B → B) (z : B) :
    rows.foldl (fun z row => if i = row.1 then f row.2 z else z) z =
      (rows.lookup i).elim z (f · z) := by
  induction rows generalizing z with
  | nil => rfl
  | cons row rows ih =>
    obtain ⟨hrow, hnd⟩ := List.nodup_cons.mp h
    rw [List.foldl_cons, ih hnd]
    by_cases hi : i = row.1
    · have hnone : rows.lookup i = none := by
        refine List.lookup_eq_none_iff.mpr fun row' hrow' => bne_iff_ne.mpr fun he => hrow ?_
        exact List.mem_map.mpr ⟨row', hrow', he.symm.trans hi⟩
      have hsome : (row :: rows).lookup i = some row.2 := by
        rw [List.lookup_cons, beq_iff_eq.mpr hi]
      rw [if_pos hi, hnone, hsome]
      rfl
    · have hskip : (row :: rows).lookup i = rows.lookup i := by
        rw [List.lookup_cons, beq_eq_false_iff_ne.mpr hi]
      rw [if_neg hi, hskip]

/-- Changes by the items of two lists that have no number in common, one list after the other. -/
theorem elim_lookup_append {B : Type} {xs ys : List (Nat × A)}
    (h : ∀ x ∈ xs, ∀ y ∈ ys, x.1 ≠ y.1) (f : A → B → B) (i : Nat) (z : B) :
    ((xs ++ ys).lookup i).elim z (f · z) =
      (ys.lookup i).elim ((xs.lookup i).elim z (f · z))
        (f · ((xs.lookup i).elim z (f · z))) := by
  rw [List.lookup_append]
  cases hlookup : xs.lookup i with
  | none => rfl
  | some x =>
    obtain ⟨before, after, hsplit, -⟩ := List.lookup_eq_some_iff.mp hlookup
    have hmem : (i, x) ∈ xs := by simp [hsplit]
    have hnone : ys.lookup i = none :=
      List.lookup_eq_none_iff.mpr fun y hy => bne_iff_ne.mpr (h (i, x) hmem y hy)
    rw [hnone]
    rfl

end ActivityArchive
