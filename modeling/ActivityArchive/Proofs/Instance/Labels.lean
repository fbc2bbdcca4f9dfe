import ActivityArchive.Instance.Domains

/-!
Labels of a line on a CPU. However often the separator stands in the name of a line, the last one in
a label is the one before the number, since a number has no colon in it; so a label gives its line
and its CPU back (`splitLabel?_lineLabel`), and no two lines or CPUs have one in common
(`lineLabels_apart`).
-/
namespace ActivityArchive.Domain

variable {cs : List Char}

theorem colon_notMem_toDigits (n : Nat) : ':' ∉ Nat.toDigits 10 n := by
  intro hcolon
  have hdigits := Text.isDigits_toDigits (by decide : 1 < 10) (by decide) n
  have hvalue : Text.digitValue ':' = 16 := by decide
  have hlt := hdigits.2 ':' hcolon
  omega

theorem splitLast?_of_notMem (h : ':' ∉ cs) : splitLast? cs = none := by
  induction cs with
  | nil => rfl
  | cons c cs ih =>
    rw [List.mem_cons, not_or] at h
    have hstart : separator.isPrefixOf (c :: cs) = false := by
      simp [separator, List.isPrefixOf, h.1]
    rw [splitLast?, ih h.2]
    simp [hstart]

/-- A text without a colon stands behind the last separator. -/
theorem splitLast?_separator (h : ':' ∉ cs) : splitLast? (separator ++ cs) = some ([], cs) := by
  have hnone : splitLast? ('c' :: 'p' :: 'u' :: cs) = none :=
    splitLast?_of_notMem (by simpa using h)
  have hcolon : splitLast? (':' :: 'c' :: 'p' :: 'u' :: cs) = none := by
    rw [splitLast?, hnone]
    simp [separator, List.isPrefixOf]
  show splitLast? (':' :: ':' :: 'c' :: 'p' :: 'u' :: cs) = _
  rw [splitLast?, hcolon]
  simp [separator, List.isPrefixOf]

theorem splitLast?_append {rest before behind : List Char}
    (h : splitLast? rest = some (before, behind)) (cs : List Char) :
    splitLast? (cs ++ rest) = some (cs ++ before, behind) := by
  induction cs with
  | nil => exact h
  | cons c cs ih => rw [List.cons_append, splitLast?, ih, List.cons_append]

/-- The name of the line and the digits of the CPU stand around the last separator. -/
theorem splitLast?_lineLabel (line : String) (cpu : Nat) :
    splitLast? (lineLabel line cpu).toList = some (line.toList, Nat.toDigits 10 cpu) := by
  have hlast := splitLast?_append (splitLast?_separator (colon_notMem_toDigits cpu)) line.toList
  rwa [List.append_nil, ← List.append_assoc, ← String.toList_ofList (l := _ ++ _)] at hlast

/-- The numbers of CPUs are words. -/
theorem splitLabel?_lineLabel {cpu : Nat} (h : cpu < UInt64.size) (line : String) :
    splitLabel? (lineLabel line cpu) = some (line, cpu) := by
  have hread : Text.natural? 10 UInt64.size (Nat.toDigits 10 cpu) = some cpu :=
    Text.natural?_toDigits (by decide) (by decide) h
  rw [splitLabel?, splitLast?_lineLabel]
  simp [hread]

theorem lineLabel_inj {line line' : String} {cpu cpu' : Nat} :
    lineLabel line cpu = lineLabel line' cpu' ↔ line = line' ∧ cpu = cpu' := by
  refine ⟨fun h => ?_, fun h => by rw [h.1, h.2]⟩
  have hlast := congrArg (fun label => splitLast? label.toList) h
  simp only [splitLast?_lineLabel, Option.some.injEq, Prod.mk.injEq] at hlast
  refine ⟨String.toList_inj.mp hlast.1, ?_⟩
  have hvalue := congrArg (Text.ofDigits 10) hlast.2
  rwa [Text.ofDigits_toDigits (by decide) (by decide),
    Text.ofDigits_toDigits (by decide) (by decide)] at hvalue

/-- Whatever a line is called, also where its name has separators with numbers or without in it, its
label on a CPU gives the line and the CPU back, and is the label of no other line or CPU. -/
theorem lineLabels_apart (line : String) (cpu : UInt64) :
    splitLabel? (lineLabel line cpu.toNat) = some (line, cpu.toNat) ∧
      ∀ line' cpu', lineLabel line' cpu' = lineLabel line cpu.toNat ↔
        line' = line ∧ cpu' = cpu.toNat :=
  ⟨splitLabel?_lineLabel cpu.toNat_lt line, fun _ _ => lineLabel_inj⟩

/-- The name of this line is itself a label. -/
example : lineLabel "7::cpu3" 0 = "7::cpu3::cpu0" ∧
    splitLast? "7::cpu3::cpu0".toList = some ("7::cpu3".toList, ['0']) := by decide

end ActivityArchive.Domain
