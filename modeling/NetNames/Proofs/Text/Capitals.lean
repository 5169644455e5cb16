import NetNames.Proofs.Text.Trim
import NetNames.Text.Uppercase

/-! Upper case of text is settled: upper-casing it again changes nothing. The table is decided by
one comparison of two bit sets, the code points that have an upper case and those that are one.
Blanks are neither, so that upper-casing neither makes a blank nor changes one, and a text may as well
be trimmed first. -/
namespace NetNames.Text

/-- The first multiples of the stride, as the bits of a number. -/
private def multiples (stride : Nat) : Nat → Nat
  | 0 => 0
  | n + 1 => 1 ||| (multiples stride n <<< stride)

private theorem testBit_multiples (stride : Nat) {count i : Nat} (h : i < count) :
    (multiples stride count).testBit (i * stride) = true := by
  induction count generalizing i with
  | zero => omega
  | succ n ih =>
    cases i with
    | zero => simp [multiples]
    | succ i =>
      have hi : (multiples stride n).testBit (i * stride) = true := ih (by omega)
      rw [multiples, Nat.succ_mul]
      simp [hi]

private def union {α : Type} (l : List α) (bits : α → Nat) : Nat :=
  l.foldr (fun a acc => bits a ||| acc) 0

private theorem testBit_union {α : Type} {l : List α} {bits : α → Nat} {a : α} {n : Nat}
    (ha : a ∈ l) (h : (bits a).testBit n = true) : (union l bits).testBit n = true := by
  induction l with
  | nil => simp at ha
  | cons b l ih =>
    rw [union, List.foldr_cons, Nat.testBit_or, Bool.or_eq_true]
    rcases List.mem_cons.mp ha with rfl | ha
    · exact .inl h
    · exact .inr (ih ha)

private def CaseRun.length (r : CaseRun) : Nat := (r.last - r.first) / r.stride + 1

/-- The code points that upper-casing changes, read off the two tables. -/
private def changing (runs : List CaseRun) (expansions : List (Nat × List Nat)) : Nat :=
  multiples 1 26 <<< 0x61 |||
    (union runs (fun r => multiples r.stride r.length <<< r.first) |||
      union expansions fun e => 1 <<< e.1)

/-- The code points that upper-casing brings in. -/
private def capitals (runs : List CaseRun) (expansions : List (Nat × List Nat)) : Nat :=
  union runs (fun r => multiples r.stride r.length <<< r.image) |||
    union expansions fun e => union e.2 (1 <<< ·)

private def isChanging (n : Nat) : Bool := (changing caseRuns caseExpansions).testBit n
private def isCapital (n : Nat) : Bool := (capitals caseRuns caseExpansions).testBit n

private theorem tables_settled :
    changing caseRuns caseExpansions &&& capitals caseRuns caseExpansions = 0 := by
  decide +kernel

private theorem not_changing_of_capital {n : Nat} (h : isCapital n = true) :
    isChanging n = false := by
  have hn : (isChanging n && isCapital n) = false := by
    rw [isChanging, isCapital, ← Nat.testBit_and, tables_settled, Nat.zero_testBit]
  simpa [h] using hn

/-- A covered code point is so many strides above the first one of its run. -/
private theorem CaseRun.covers_iff {r : CaseRun} {n : Nat} (h : r.covers n = true) :
    ∃ i < r.length, n = i * r.stride + r.first := by
  simp only [CaseRun.covers, Bool.and_eq_true, decide_eq_true_eq, beq_iff_eq] at h
  obtain ⟨⟨hf, hl⟩, hm⟩ := h
  have hd : (n - r.first) / r.stride * r.stride = n - r.first :=
    Nat.div_mul_cancel (Nat.dvd_of_mod_eq_zero hm)
  refine ⟨(n - r.first) / r.stride, ?_, by omega⟩
  exact Nat.lt_succ_of_le (Nat.div_le_div_right (by omega))

private theorem testBit_run {base stride count i : Nat} (h : i < count) :
    (multiples stride count <<< base).testBit (i * stride + base) = true := by
  simp [testBit_multiples stride h]

private theorem testBit_single (n : Nat) : (1 <<< n).testBit n = true := by simp

private theorem isChanging_of_expansion {e : Nat × List Nat} (he : e ∈ caseExpansions) :
    isChanging e.1 = true := by
  have hb : (union caseExpansions fun e => 1 <<< e.1).testBit e.1 = true :=
    testBit_union he (testBit_single e.1)
  rw [isChanging, changing, Nat.testBit_or, Nat.testBit_or, hb, Bool.or_true, Bool.or_true]

private theorem isChanging_of_run {r : CaseRun} {n : Nat} (hr : r ∈ caseRuns)
    (hc : r.covers n = true) : isChanging n = true := by
  obtain ⟨i, hi, rfl⟩ := CaseRun.covers_iff hc
  have hb : (union caseRuns fun r => multiples r.stride r.length <<< r.first).testBit
      (i * r.stride + r.first) = true := testBit_union hr (testBit_run hi)
  rw [isChanging, changing, Nat.testBit_or, Nat.testBit_or, hb, Bool.true_or, Bool.or_true]

private theorem isCapital_of_expansion {e : Nat × List Nat} {m : Nat}
    (he : e ∈ caseExpansions) (hm : m ∈ e.2) : isCapital m = true := by
  have hb : (union caseExpansions fun e => union e.2 (1 <<< ·)).testBit m = true :=
    testBit_union he (testBit_union hm (testBit_single m))
  rw [isCapital, capitals, Nat.testBit_or, hb, Bool.or_true]

private theorem isCapital_of_run {r : CaseRun} {n : Nat} (hr : r ∈ caseRuns)
    (hc : r.covers n = true) : isCapital (r.image + (n - r.first)) = true := by
  obtain ⟨i, hi, rfl⟩ := CaseRun.covers_iff hc
  have hb : (union caseRuns fun r => multiples r.stride r.length <<< r.image).testBit
      (i * r.stride + r.image) = true := testBit_union hr (testBit_run hi)
  rw [Nat.add_sub_cancel, Nat.add_comm, isCapital, capitals, Nat.testBit_or, hb, Bool.true_or]

private theorem upperCode_of_not_changing {n : Nat} (h : isChanging n = false) :
    upperCode n = [n] := by
  have hx : caseExpansions.find? (·.1 == n) = none :=
    List.find?_eq_none.mpr fun e he heq => by
      simp [← beq_iff_eq.mp heq, isChanging_of_expansion he] at h
  have hr : caseRuns.find? (·.covers n) = none :=
    List.find?_eq_none.mpr fun r hr hc => by simp [isChanging_of_run hr hc] at h
  rw [upperCode, hx, hr]

private theorem mem_upperCode {n m : Nat} (h : m ∈ upperCode n) :
    isCapital m = true ∨ m = n ∧ upperCode n = [n] := by
  cases hx : caseExpansions.find? (·.1 == n) with
  | some e =>
    rw [upperCode, hx] at h
    exact .inl (isCapital_of_expansion (List.mem_of_find?_eq_some hx) h)
  | none =>
    cases hr : caseRuns.find? (·.covers n) with
    | some r =>
      have hc : r.covers n = true := by simpa using List.find?_some hr
      rw [upperCode, hx, hr] at h
      obtain rfl := List.mem_singleton.mp h
      exact .inl (isCapital_of_run (List.mem_of_find?_eq_some hr) hc)
    | none =>
      have hn : upperCode n = [n] := by rw [upperCode, hx, hr]
      rw [hn] at h
      exact .inr ⟨List.mem_singleton.mp h, hn⟩

private theorem toUpper_ascii {n : Nat} (h : n < 0x80) :
    (Char.ofNat n).toUpper.toNat < 0x80 ∧
      (Char.ofNat n).toUpper.toUpper = (Char.ofNat n).toUpper ∧
      (multiples 1 26 <<< 0x61).testBit n = (Char.ofNat n).isLower ∧
      ((Char.ofNat n).toUpper = Char.ofNat n ↔ (Char.ofNat n).isLower = false) := by
  have key : ∀ m : Fin 0x80, (Char.ofNat m.val).toUpper.toNat < 0x80 ∧
      (Char.ofNat m.val).toUpper.toUpper = (Char.ofNat m.val).toUpper ∧
      (multiples 1 26 <<< 0x61).testBit m.val = (Char.ofNat m.val).isLower ∧
      ((Char.ofNat m.val).toUpper = Char.ofNat m.val ↔ (Char.ofNat m.val).isLower = false) := by
    decide +kernel
  exact key ⟨n, h⟩

private theorem toNat_ofNat_or (n : Nat) : (Char.ofNat n).toNat = n ∨ Char.ofNat n = '\x00' := by
  by_cases h : n.isValidChar
  · exact .inl (by rw [Char.ofNat, dif_pos h]; rfl)
  · exact .inr (by rw [Char.ofNat, dif_neg h]; rfl)

private theorem upperChar_of_isCapital {n : Nat} (h : isCapital n = true) :
    upperChar (Char.ofNat n) = [Char.ofNat n] := by
  have hn := not_changing_of_capital h
  rcases toNat_ofNat_or n with hv | hv
  · rw [upperChar, hv]
    split
    · rename_i hlow
      have hbits : (multiples 1 26 <<< 0x61).testBit n = false := by
        simp only [isChanging, changing, Nat.testBit_or, Bool.or_eq_false_iff] at hn
        exact hn.1
      obtain ⟨-, -, hl, hu⟩ := toUpper_ascii hlow
      rw [hu.mpr (hl ▸ hbits)]
    · rw [upperCode_of_not_changing hn, List.map_singleton]
  · rw [hv]
    decide

/-- Every character that upper-casing gives stays as it is. -/
theorem upperChar_of_mem {c d : Char} (h : c ∈ upperChar d) : upperChar c = [c] := by
  rw [upperChar] at h
  split at h
  · rename_i hlow
    obtain ⟨hn, hu, -, -⟩ := toUpper_ascii hlow
    rw [Char.ofNat_toNat] at hn hu
    obtain rfl := List.mem_singleton.mp h
    rw [upperChar, if_pos hn, hu]
  · rename_i hhigh
    obtain ⟨m, hm, rfl⟩ := List.mem_map.mp h
    rcases mem_upperCode hm with hcap | ⟨rfl, hself⟩
    · exact upperChar_of_isCapital hcap
    · rw [Char.ofNat_toNat, upperChar, if_neg hhigh, hself, List.map_singleton, Char.ofNat_toNat]

/-- A character that upper-casing keeps is no lower-case ASCII letter. -/
theorem isLower_of_upperChar {c : Char} (h : upperChar c = [c]) : c.isLower = false := by
  by_cases hlow : c.toNat < 0x80
  · obtain ⟨-, -, -, hu⟩ := toUpper_ascii hlow
    rw [Char.ofNat_toNat] at hu
    rw [upperChar, if_pos hlow, List.singleton_inj] at h
    exact hu.mp h
  · refine Bool.eq_false_iff.mpr fun hl => hlow ?_
    obtain ⟨-, hz⟩ := Bool.and_eq_true_iff.mp hl
    exact Nat.lt_of_le_of_lt (UInt32.le_iff_toNat_le.mp (of_decide_eq_true hz)) (by decide)

private def blankCodes : List Nat :=
  [0x09, 0x0a, 0x0b, 0x0c, 0x0d, 0x20, 0x85, 0xa0, 0x1680, 0x2000, 0x2001, 0x2002, 0x2003, 0x2004,
    0x2005, 0x2006, 0x2007, 0x2008, 0x2009, 0x200a, 0x2028, 0x2029, 0x202f, 0x205f, 0x3000]

private theorem mem_blankCodes {c : Char} (h : isBlank c = true) : c.toNat ∈ blankCodes := by
  simp only [isBlank, Bool.or_eq_true, Bool.and_eq_true, decide_eq_true_eq, beq_iff_eq] at h
  simp only [blankCodes, List.mem_cons, List.not_mem_nil, or_false]
  omega

private theorem blanks_apart :
    union blankCodes (1 <<< ·) &&&
      (changing caseRuns caseExpansions ||| capitals caseRuns caseExpansions) = 0 := by
  decide +kernel

/-- A blank has no upper case and is none. -/
private theorem not_changing_of_blank {c : Char} (h : isBlank c = true) :
    isChanging c.toNat = false ∧ isCapital c.toNat = false := by
  have hblank : (union blankCodes (1 <<< ·)).testBit c.toNat = true :=
    testBit_union (mem_blankCodes h) (testBit_single _)
  have hapart := congrArg (Nat.testBit · c.toNat) blanks_apart
  simp only [Nat.testBit_and, hblank, Bool.true_and, Nat.testBit_or, Nat.zero_testBit,
    Bool.or_eq_false_iff] at hapart
  exact hapart

private theorem isBlank_toUpper {n : Nat} (h : n < 0x80) :
    isBlank (Char.ofNat n).toUpper = isBlank (Char.ofNat n) := by
  have key : ∀ m : Fin 0x80,
      isBlank (Char.ofNat m.val).toUpper = isBlank (Char.ofNat m.val) := by decide +kernel
  exact key ⟨n, h⟩

/-- Upper-casing leaves blanks as they are. -/
theorem upperChar_of_isBlank {c : Char} (h : isBlank c = true) : upperChar c = [c] := by
  obtain ⟨hchanging, -⟩ := not_changing_of_blank h
  rw [upperChar]
  split
  · rename_i hlow
    have hbits : (multiples 1 26 <<< 0x61).testBit c.toNat = false := by
      simp only [isChanging, changing, Nat.testBit_or, Bool.or_eq_false_iff] at hchanging
      exact hchanging.1
    obtain ⟨-, -, hl, hu⟩ := toUpper_ascii hlow
    rw [Char.ofNat_toNat] at hl hu
    rw [hu.mpr (hl ▸ hbits)]
  · rw [upperCode_of_not_changing hchanging, List.map_singleton, Char.ofNat_toNat]

/-- Upper-casing makes no blank of anything else. -/
theorem isBlank_of_mem_upperChar {c d : Char} (h : c ∈ upperChar d) (hc : isBlank c = true) :
    isBlank d = true := by
  rw [upperChar] at h
  split at h
  · rename_i hlow
    have hsame := isBlank_toUpper hlow
    rw [Char.ofNat_toNat] at hsame
    rwa [List.mem_singleton.mp h, hsame] at hc
  · obtain ⟨m, hm, rfl⟩ := List.mem_map.mp h
    rcases toNat_ofNat_or m with hv | hv
    · obtain ⟨-, hcapital⟩ := not_changing_of_blank hc
      rw [hv] at hcapital
      rcases mem_upperCode hm with hcap | ⟨rfl, -⟩
      · rw [hcapital] at hcap
        cases hcap
      · rwa [Char.ofNat_toNat] at hc
    · rw [hv] at hc
      cases hc

theorem upperChar_ne_nil (c : Char) : upperChar c ≠ [] := by
  have hexpansions : ∀ e ∈ caseExpansions, e.2 ≠ [] := by decide +kernel
  rw [upperChar]
  split
  · exact List.cons_ne_nil _ _
  · rw [ne_eq, List.map_eq_nil_iff, upperCode]
    split
    · rename_i e he
      exact hexpansions e (List.mem_of_find?_eq_some he)
    · split <;> exact List.cons_ne_nil _ _

theorem upperChar_of_mem_upper {s : List Char} {c : Char} (h : c ∈ upper s) :
    upperChar c = [c] := by
  obtain ⟨d, -, hd⟩ := List.mem_flatMap.mp h
  exact upperChar_of_mem hd

theorem upper_eq_self {s : List Char} (h : ∀ c ∈ s, upperChar c = [c]) : upper s = s := by
  induction s with
  | nil => rfl
  | cons c s ih =>
    have hs : upper s = s := ih fun d hd => h d (List.mem_cons_of_mem c hd)
    change upperChar c ++ upper s = c :: s
    rw [h c List.mem_cons_self, hs, List.singleton_append]

theorem upper_upper (s : List Char) : upper (upper s) = upper s :=
  upper_eq_self fun _ => upperChar_of_mem_upper

theorem upper_append (s t : List Char) : upper (s ++ t) = upper s ++ upper t :=
  List.flatMap_append

theorem upper_cons (c : Char) (s : List Char) : upper (c :: s) = upperChar c ++ upper s := rfl

theorem not_isBlank_of_mem_upperChar {c d : Char} (h : c ∈ upperChar d) (hd : isBlank d = false) :
    isBlank c = false := by
  refine Bool.eq_false_iff.mpr fun hc => ?_
  rw [isBlank_of_mem_upperChar h hc] at hd
  cases hd

theorem exists_mem_upperChar {c : Char} (hc : isBlank c = false) :
    ∃ x ∈ upperChar c, isBlank x = false := by
  obtain ⟨x, hx⟩ := List.exists_mem_of_ne_nil _ (upperChar_ne_nil c)
  exact ⟨x, hx, not_isBlank_of_mem_upperChar hx hc⟩

/-- The upper case of a character that is no blank has none at its ends. -/
theorem trim_upperChar {c : Char} (hc : isBlank c = false) : trim (upperChar c) = upperChar c :=
  trim_of_full fun _ hx => not_isBlank_of_mem_upperChar hx hc

theorem trimStart_upper (s : List Char) : trimStart (upper s) = upper (trimStart s) := by
  induction s with
  | nil => rfl
  | cons c s ih =>
    cases hc : isBlank c with
    | true =>
      have hdrop (t : List Char) : trimStart (c :: t) = trimStart t :=
        List.dropWhile_cons_of_pos hc
      rw [upper_cons, upperChar_of_isBlank hc, List.singleton_append, hdrop, hdrop, ih]
    | false =>
      have hstart : trimStart (c :: s) = c :: s :=
        List.dropWhile_cons_of_neg (Bool.eq_false_iff.mp hc)
      rw [hstart, upper_cons, trimStart_append (exists_mem_upperChar hc),
        trimStart_eq_self (trim_upperChar hc)]

theorem trimEnd_upper (s : List Char) : trimEnd (upper s) = upper (trimEnd s) := by
  induction s using List.reverseRecOn with
  | nil => rfl
  | append_singleton s c ih =>
    have hupper : upper (s ++ [c]) = upper s ++ upperChar c := by
      rw [upper_append, upper_cons]
      exact congrArg (upper s ++ ·) (List.append_nil _)
    cases hc : isBlank c with
    | true => rw [hupper, upperChar_of_isBlank hc, trimEnd_concat hc, trimEnd_concat hc, ih]
    | false =>
      have hend : trimEnd (s ++ [c]) = s ++ [c] := trimEnd_append_cons s [] hc
      rw [hend, hupper, trimEnd_append (exists_mem_upperChar hc),
        trimEnd_eq_self (trim_upperChar hc)]

/-- It makes no difference whether a text is trimmed before it is upper-cased or after it. -/
theorem trim_upper (s : List Char) : trim (upper s) = upper (trim s) := by
  rw [trim, trimStart_upper, trimEnd_upper, trim]

end NetNames.Text

namespace NetNames

theorem upperCase_upperCase (s : String) : upperCase (upperCase s) = upperCase s := by
  rw [upperCase, upperCase, String.toList_ofList, Text.upper_upper]

end NetNames
