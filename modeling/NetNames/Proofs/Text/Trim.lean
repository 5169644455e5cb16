import Mathlib.Data.List.DropRight
import NetNames.Text.Class

/-! Trimming and lower case. Both are settled after one application, and neither cares which of the
two comes first; a character that is no blank stops the trimming on either side. -/
namespace NetNames.Text

theorem toNat_toLower (c : Char) :
    c.toLower.toNat = if 0x41 ≤ c.toNat ∧ c.toNat ≤ 0x5a then c.toNat + 0x20 else c.toNat := by
  by_cases h : c.val ≥ 'A'.val ∧ c.val ≤ 'Z'.val
  · have hn : 0x41 ≤ c.toNat ∧ c.toNat ≤ 0x5a := by
      simpa [UInt32.le_iff_toNat_le] using h
    have hlower : c.toLower.val = c.val + 0x20 := congrArg Char.val (dif_pos h)
    rw [if_pos hn, ← Char.toNat_val, hlower, UInt32.toNat_add]
    change (c.toNat + 0x20) % 2 ^ 32 = c.toNat + 0x20
    omega
  · have hn : ¬(0x41 ≤ c.toNat ∧ c.toNat ≤ 0x5a) := by
      simpa [UInt32.le_iff_toNat_le] using h
    have hlower : c.toLower = c := dif_neg h
    rw [if_neg hn, hlower]

theorem isLower_iff {c : Char} : c.isLower = true ↔ 0x61 ≤ c.toNat ∧ c.toNat ≤ 0x7a := by
  have hlower : c.isLower = (decide ('a'.val ≤ c.val) && decide (c.val ≤ 'z'.val)) := rfl
  simp [hlower, UInt32.le_iff_toNat_le]

@[simp] theorem toLower_toLower (c : Char) : c.toLower.toLower = c.toLower := by
  have hn := toNat_toLower c
  apply Char.toNat_inj.mp
  rw [toNat_toLower c.toLower]
  split at hn <;> split <;> omega

/-- Lower-casing merges two characters only if one of them is a lower-case letter. -/
theorem toLower_inj {c d : Char} (hc : c.isLower = false) (hd : d.isLower = false)
    (h : c.toLower = d.toLower) : c = d := by
  have hn := congrArg Char.toNat h
  rw [toNat_toLower, toNat_toLower] at hn
  rw [Bool.eq_false_iff, ne_eq, isLower_iff] at hc hd
  apply Char.toNat_inj.mp
  split at hn <;> split at hn <;> omega

@[simp] theorem isBlank_toLower (c : Char) : isBlank c.toLower = isBlank c := by
  have hn := toNat_toLower c
  split at hn
  · have hblank (d : Char) (h : 0x41 ≤ d.toNat ∧ d.toNat ≤ 0x7a) : isBlank d = false := by
      simp only [isBlank, Bool.or_eq_false_iff, Bool.and_eq_false_iff, beq_eq_false_iff_ne,
        decide_eq_false_iff_not]
      omega
    rw [hblank c (by omega), hblank c.toLower (by omega)]
  · rw [isBlank, hn, isBlank]

@[simp] theorem lower_nil : lower [] = [] := rfl
@[simp] theorem lower_cons (c : Char) (s : List Char) : lower (c :: s) = c.toLower :: lower s := rfl
@[simp] theorem lower_append (s t : List Char) : lower (s ++ t) = lower s ++ lower t :=
  List.map_append

@[simp] theorem lower_lower (s : List Char) : lower (lower s) = lower s := by
  simp [lower]

/-- Lower-casing merges no two texts without lower-case letters. -/
theorem lower_inj {s t : List Char} (hs : ∀ c ∈ s, c.isLower = false)
    (ht : ∀ c ∈ t, c.isLower = false) (h : lower s = lower t) : s = t := by
  induction s generalizing t with
  | nil => exact (List.map_eq_nil_iff.mp h.symm).symm
  | cons c s ih =>
    cases t with
    | nil => cases h
    | cons d t =>
      obtain ⟨hc, hs⟩ := List.forall_mem_cons.mp hs
      obtain ⟨hd, ht⟩ := List.forall_mem_cons.mp ht
      obtain ⟨hcd, h⟩ := List.cons.inj h
      rw [toLower_inj hc hd hcd, ih hs ht h]

theorem trimStart_lower (s : List Char) : trimStart (lower s) = lower (trimStart s) := by
  simp [trimStart, lower, List.dropWhile_map, Function.comp_def]

theorem trimEnd_lower (s : List Char) : trimEnd (lower s) = lower (trimEnd s) := by
  simp [trimEnd, dropEnd, lower, ← List.map_reverse, List.dropWhile_map, Function.comp_def]

theorem trim_lower (s : List Char) : trim (lower s) = lower (trim s) := by
  rw [trim, trimStart_lower, trimEnd_lower, trim]

theorem trimStart_append_cons (a b : List Char) {x : Char} (hx : isBlank x = false) :
    trimStart (a ++ x :: b) = trimStart a ++ x :: b := by
  induction a with
  | nil => simp [trimStart, hx]
  | cons c a ih =>
    by_cases hc : isBlank c = true
    · simpa [trimStart, hc] using ih
    · simp [trimStart, hc]

theorem trimEnd_append_cons (a b : List Char) {x : Char} (hx : isBlank x = false) :
    trimEnd (a ++ x :: b) = a ++ x :: trimEnd b := by
  have h := trimStart_append_cons b.reverse a.reverse hx
  simp only [trimStart] at h
  simp [trimEnd, dropEnd, h]

theorem trimStart_of_blank {s : List Char} (h : ∀ c ∈ s, isBlank c = true) : trimStart s = [] :=
  List.dropWhile_eq_nil_iff.mpr h

theorem trimEnd_of_blank {s : List Char} (h : ∀ c ∈ s, isBlank c = true) : trimEnd s = [] :=
  List.rdropWhile_eq_nil_iff.mpr h

/-- A text is all blank, or it starts with blanks up to a character that is none. -/
theorem blank_or_split (s : List Char) :
    (∀ c ∈ s, isBlank c = true) ∨
      ∃ a x b, s = a ++ x :: b ∧ (∀ c ∈ a, isBlank c = true) ∧ isBlank x = false := by
  induction s with
  | nil => exact .inl fun c hc => absurd hc List.not_mem_nil
  | cons c s ih =>
    by_cases hc : isBlank c = true
    · rcases ih with h | ⟨a, x, b, rfl, ha, hx⟩
      · exact .inl (List.forall_mem_cons.mpr ⟨hc, h⟩)
      · exact .inr ⟨c :: a, x, b, rfl, List.forall_mem_cons.mpr ⟨hc, ha⟩, hx⟩
    · exact .inr ⟨[], c, s, rfl, fun d hd => absurd hd List.not_mem_nil,
        Bool.eq_false_iff.mpr hc⟩

theorem split_of_exists {s : List Char} (h : ∃ c ∈ s, isBlank c = false) :
    ∃ a x b, s = a ++ x :: b ∧ (∀ c ∈ a, isBlank c = true) ∧ isBlank x = false := by
  obtain ⟨c, hc, hblank⟩ := h
  refine (blank_or_split s).resolve_left fun hs => ?_
  rw [hs c hc] at hblank
  cases hblank

theorem trim_of_blank {s : List Char} (h : ∀ c ∈ s, isBlank c = true) : trim s = [] := by
  rw [trim, trimStart_of_blank h]
  rfl

theorem trim_split {a b : List Char} {x : Char} (ha : ∀ c ∈ a, isBlank c = true)
    (hx : isBlank x = false) : trim (a ++ x :: b) = x :: trimEnd b := by
  rw [trim, trimStart_append_cons a b hx, trimStart_of_blank ha]
  exact trimEnd_append_cons [] b hx

theorem exists_of_trim_ne_nil {s : List Char} (h : trim s ≠ []) : ∃ c ∈ s, isBlank c = false := by
  by_contra hnone
  exact h (trim_of_blank (by simpa using hnone))

theorem trim_eq_self {s : List Char} (hfirst : ∀ c ∈ s.head?, isBlank c = false)
    (hlast : ∀ c ∈ s.getLast?, isBlank c = false) : trim s = s := by
  have hend : trimEnd s = s := List.rdropWhile_eq_self_iff.mpr fun hs => by
    simp [hlast _ (List.getLast_mem_getLast? hs)]
  have hstart : trimStart s = s := by
    cases s with
    | nil => rfl
    | cons c s => exact List.dropWhile_cons_of_neg (by simp [hfirst c rfl])
  rw [trim, hstart, hend]

theorem trim_of_full {s : List Char} (h : ∀ c ∈ s, isBlank c = false) : trim s = s :=
  trim_eq_self (fun c hc => h c (List.mem_of_mem_head? hc))
    fun c hc => h c (List.mem_of_mem_getLast? hc)

theorem trimStart_eq_self {s : List Char} (h : trim s = s) : trimStart s = s := by
  rcases blank_or_split s with hs | ⟨a, x, b, rfl, ha, hx⟩
  · rw [← h, trim_of_blank hs]
    rfl
  · rw [trim_split ha hx] at h
    rw [← h]
    exact trimStart_append_cons [] _ hx

theorem trimEnd_append {s : List Char} (h : ∃ c ∈ s, isBlank c = false) (l : List Char) :
    trimEnd (l ++ s) = l ++ trimEnd s := by
  obtain ⟨a, x, b, rfl, -, hx⟩ := split_of_exists h
  rw [← List.append_assoc, trimEnd_append_cons _ _ hx, trimEnd_append_cons _ _ hx,
    List.append_assoc]

theorem trimStart_append {s : List Char} (h : ∃ c ∈ s, isBlank c = false) (l : List Char) :
    trimStart (s ++ l) = trimStart s ++ l := by
  obtain ⟨a, x, b, rfl, -, hx⟩ := split_of_exists h
  rw [List.append_assoc, List.cons_append, trimStart_append_cons _ _ hx,
    trimStart_append_cons _ _ hx, List.append_assoc, List.cons_append]

theorem exists_append_trimEnd (s : List Char) :
    ∃ t, s = trimEnd s ++ t ∧ ∀ c ∈ t, isBlank c = true := by
  refine ⟨(s.reverse.takeWhile isBlank).reverse, ?_, fun c hc => ?_⟩
  · rw [trimEnd, dropEnd, ← List.reverse_append, List.takeWhile_append_dropWhile,
      List.reverse_reverse]
  · exact List.mem_takeWhile_imp (List.mem_reverse.mp hc)

theorem trimEnd_trimEnd (s : List Char) : trimEnd (trimEnd s) = trimEnd s :=
  List.rdropWhile_idempotent isBlank s

theorem trim_trimEnd (s : List Char) : trim (trimEnd s) = trim s := by
  rcases blank_or_split s with h | ⟨a, x, b, rfl, ha, hx⟩
  · rw [trimEnd_of_blank h, trim_of_blank h]
    rfl
  · rw [trimEnd_append_cons a b hx, trim_split ha hx, trim_split ha hx, trimEnd_trimEnd]

theorem trimEnd_concat {c : Char} (hc : isBlank c = true) (s : List Char) :
    trimEnd (s ++ [c]) = trimEnd s := by
  simp [trimEnd, dropEnd, hc]

theorem trim_concat {c : Char} (hc : isBlank c = true) (s : List Char) :
    trim (s ++ [c]) = trim s := by
  rw [← trim_trimEnd, trimEnd_concat hc, trim_trimEnd]

theorem trim_append_blank {t : List Char} (ht : ∀ c ∈ t, isBlank c = true) (s : List Char) :
    trim (s ++ t) = trim s := by
  induction t generalizing s with
  | nil => rw [List.append_nil]
  | cons c t ih =>
    obtain ⟨hc, ht⟩ := List.forall_mem_cons.mp ht
    rw [List.append_cons, ih ht, trim_concat hc]

theorem trim_blank_append {t : List Char} (ht : ∀ c ∈ t, isBlank c = true) (s : List Char) :
    trim (t ++ s) = trim s := by
  rw [trim, trimStart, List.dropWhile_append_of_pos ht]
  rfl

@[simp] theorem trim_trim (s : List Char) : trim (trim s) = trim s := by
  rcases blank_or_split s with h | ⟨a, x, b, rfl, ha, hx⟩
  · rw [trim_of_blank h]
    rfl
  · rw [trim_split ha hx]
    exact (trim_split (fun c hc => absurd hc List.not_mem_nil) hx).trans (by rw [trimEnd_trimEnd])

theorem trimEnd_eq_self {s : List Char} (h : trim s = s) : trimEnd s = s := by
  rw [← h, trim, trimEnd_trimEnd]

theorem trim_eq_trimStart {s : List Char} (h : trimEnd s = s) : trim s = trimStart s := by
  rcases blank_or_split s with hs | ⟨a, x, b, rfl, ha, hx⟩
  · rw [trim_of_blank hs, trimStart_of_blank hs]
  · rw [trimEnd_append_cons a b hx] at h
    rw [trim_split ha hx, trimStart_append_cons a b hx, trimStart_of_blank ha, List.nil_append,
      (List.cons.inj (List.append_cancel_left h)).2]

theorem length_trim_le (s : List Char) : (trim s).length ≤ s.length := by
  have hs : (trimStart s).length ≤ s.length := (List.dropWhile_suffix _).length_le
  have he : (trimEnd (trimStart s)).length ≤ (trimStart s).length :=
    (List.rdropWhile_prefix isBlank (trimStart s)).length_le
  exact Nat.le_trans he hs

end NetNames.Text
