import NetNames.Descriptor
import NetNames.Proofs.Text.Trim

/-! What the readers of keywords accept: a word in either case, a sign among spaces, a run of one
class of characters. Each of them finds what it is meant to find, whatever follows it. -/
namespace NetNames.Text

variable {s t gap word : List Char} {c : Char}

theorem isName_iff : isName c = true ↔
    (0x61 ≤ c.toNat ∧ c.toNat ≤ 0x7a) ∨ (0x41 ≤ c.toNat ∧ c.toNat ≤ 0x5a) ∨
      (0x30 ≤ c.toNat ∧ c.toNat ≤ 0x39) ∨ c.toNat = 0x5f ∨ c.toNat = 0x2e := by
  simp only [isName, isWord, isLetter, isDigit, Bool.or_eq_true, Bool.and_eq_true,
    decide_eq_true_eq, beq_iff_eq, Char.le_def, UInt32.le_iff_toNat_le, ← Char.toNat_inj,
    or_assoc]
  rfl

theorem not_isBlank_of_isName (h : isName c = true) : isBlank c = false := by
  rw [isName_iff] at h
  simp only [isBlank, Bool.or_eq_false_iff, Bool.and_eq_false_iff, beq_eq_false_iff_ne, ne_eq,
    decide_eq_false_iff_not]
  omega

theorem not_isSpace_of_isName (h : isName c = true) : isSpace c = false := by
  cases hc : isSpace c with
  | false => rfl
  | true => exact absurd (isBlank_of_isSpace hc) (Bool.eq_false_iff.mp (not_isBlank_of_isName h))

theorem not_isName_of_isBlank (h : isBlank c = true) : isName c = false := by
  cases hc : isName c with
  | false => rfl
  | true => exact absurd h (Bool.eq_false_iff.mp (not_isBlank_of_isName hc))

theorem not_isName_of_isSpace (h : isSpace c = true) : isName c = false :=
  not_isName_of_isBlank (isBlank_of_isSpace h)

/-- No character of a name becomes one, or stops being one, by its case. -/
theorem isName_toLower (c : Char) : isName c.toLower = isName c := by
  have hn := toNat_toLower c
  rw [Bool.eq_iff_iff, isName_iff, isName_iff]
  split at hn <;> omega

/-- A word of a name's characters is one in every case. -/
theorem isName_of_lower_eq {w : List Char} (hword : word.all isName = true)
    (h : lower w = lower word) : ∀ c ∈ w, isName c = true := by
  intro c hc
  have hlower : c.toLower ∈ lower word := h ▸ List.mem_map_of_mem hc
  obtain ⟨d, hd, hcd⟩ := List.mem_map.mp hlower
  rw [← isName_toLower, ← hcd, isName_toLower]
  exact List.all_eq_true.mp hword d hd

/-- The first character of one text, or of the next one if that is empty. -/
theorem forall_head?_append {P : Char → Prop} (hs : ∀ c ∈ s, P c) (ht : ∀ c ∈ t.head?, P c) :
    ∀ c ∈ (s ++ t).head?, P c := by
  cases s with
  | nil => exact ht
  | cons d s =>
    rintro c ⟨⟩
    exact hs d List.mem_cons_self

theorem forall_head?_append_of_ne_nil {P : Char → Prop} (hne : s ≠ []) (hs : ∀ c ∈ s, P c)
    (t : List Char) : ∀ c ∈ (s ++ t).head?, P c := by
  cases s with
  | nil => exact absurd rfl hne
  | cons d s =>
    rintro c ⟨⟩
    exact hs d List.mem_cons_self

theorem exists_append_skipSpaces (s : List Char) :
    ∃ gap, s = gap ++ skipSpaces s ∧ ∀ c ∈ gap, isSpace c = true :=
  ⟨s.takeWhile isSpace, List.takeWhile_append_dropWhile.symm, fun _ hc => List.mem_takeWhile_imp hc⟩

theorem skipSpaces_append (h : ∀ c ∈ gap, isSpace c = true) (s : List Char) :
    skipSpaces (gap ++ s) = skipSpaces s :=
  List.dropWhile_append_of_pos h

theorem skipSpaces_cons (h : isSpace c = false) (s : List Char) :
    skipSpaces (c :: s) = c :: s :=
  List.dropWhile_cons_of_neg (Bool.eq_false_iff.mp h)

theorem afterWord_eq_some_iff {word r : List Char} :
    afterWord word s = some r ↔ ∃ w, s = w ++ r ∧ lower w = lower word := by
  induction word generalizing s with
  | nil => simp [afterWord, lower, eq_comm]
  | cons c word ih =>
    cases s with
    | nil => simp [afterWord]
    | cons d s =>
      rw [afterWord]
      constructor
      · intro h
        split at h
        · rename_i hd
          obtain ⟨w, rfl, hw⟩ := ih.mp h
          exact ⟨d :: w, rfl, by rw [lower_cons, lower_cons, hw, hd]⟩
        · cases h
      · rintro ⟨w, hs, hw⟩
        cases w with
        | nil => cases hw
        | cons e w =>
          obtain ⟨rfl, rfl⟩ := List.cons.inj hs
          obtain ⟨he, hw⟩ := List.cons.inj hw
          rw [if_pos he.symm]
          exact ih.mpr ⟨w, rfl, hw⟩

/-- A word is found just where the text begins with it in some case. -/
theorem afterWord_eq_none_iff : afterWord word s = none ↔ ¬ lower word <+: lower s := by
  rw [Option.eq_none_iff_forall_ne_some]
  constructor
  · rintro h ⟨r, hr⟩
    obtain ⟨w, t, rfl, hw, -⟩ := List.map_eq_append_iff.mp hr.symm
    exact h t (afterWord_eq_some_iff.mpr ⟨w, rfl, hw⟩)
  · intro h r hr
    obtain ⟨w, rfl, hw⟩ := afterWord_eq_some_iff.mp hr
    exact h ⟨lower r, by rw [lower_append, hw]⟩

/-- A word is found after spaces. -/
theorem afterWord_skipSpaces {w : List Char} (hgap : ∀ c ∈ gap, isSpace c = true)
    (hword : word.all isName = true) (hne : word ≠ []) (h : lower w = lower word)
    (rest : List Char) : afterWord word (skipSpaces (gap ++ (w ++ rest))) = some rest := by
  cases w with
  | nil => exact absurd (List.map_eq_nil_iff.mp h.symm) hne
  | cons c w =>
    have hc := not_isSpace_of_isName (isName_of_lower_eq hword h c List.mem_cons_self)
    rw [skipSpaces_append hgap, List.cons_append, skipSpaces_cons hc]
    exact afterWord_eq_some_iff.mpr ⟨c :: w, rfl, h⟩

theorem afterSpaced_append (hc : isSpace c = false) (hgap : ∀ c ∈ gap, isSpace c = true)
    (rest : List Char) : afterSpaced c (gap ++ c :: rest) = some (skipSpaces rest) := by
  rw [afterSpaced, skipSpaces_append hgap, skipSpaces_cons hc]
  exact if_pos rfl

/-- A sign with spaces on both sides is left at the first character that is no space. -/
theorem afterSpaced_append_append {gap' : List Char} (hc : isSpace c = false)
    (hgap : ∀ c ∈ gap, isSpace c = true) (hgap' : ∀ c ∈ gap', isSpace c = true)
    (hs : ∀ c ∈ s.head?, isSpace c = false) :
    afterSpaced c (gap ++ c :: (gap' ++ s)) = some s := by
  rw [afterSpaced_append hc hgap, skipSpaces_append hgap']
  cases s with
  | nil => rfl
  | cons d s => rw [skipSpaces_cons (hs d rfl)]

theorem afterSpaced_eq_some_iff (hc : isSpace c = false) {r : List Char} :
    afterSpaced c s = some r ↔
      ∃ gap rest, s = gap ++ c :: rest ∧ (∀ c ∈ gap, isSpace c = true) ∧ skipSpaces rest = r := by
  constructor
  · intro h
    obtain ⟨gap, hs, hgap⟩ := exists_append_skipSpaces s
    rw [afterSpaced] at h
    split at h
    · cases h
    · rename_i d rest hrest
      split at h
      · rename_i hd
        exact ⟨gap, rest, by rw [hs, hrest, hd], hgap, Option.some.inj h⟩
      · cases h
  · rintro ⟨gap, rest, rfl, hgap, rfl⟩
    exact afterSpaced_append hc hgap rest

end NetNames.Text

namespace NetNames.Descriptor

open Text

theorem takeRun_append {p : Char → Bool} {run rest : List Char} (hne : run ≠ [])
    (hrun : ∀ c ∈ run, p c = true) (hrest : ∀ c ∈ rest.head?, p c = false) :
    takeRun p (run ++ rest) = some (run, rest) := by
  have htake : rest.takeWhile p = [] ∧ rest.dropWhile p = rest := by
    cases rest with
    | nil => exact ⟨rfl, rfl⟩
    | cons c rest =>
      have hc : ¬ p c = true := Bool.eq_false_iff.mp (hrest c rfl)
      exact ⟨List.takeWhile_cons_of_neg hc, List.dropWhile_cons_of_neg hc⟩
  rw [takeRun, List.takeWhile_append_of_pos hrun, List.dropWhile_append_of_pos hrun, htake.1,
    htake.2, List.append_nil]
  cases run with
  | nil => exact absurd rfl hne
  | cons c run => rfl

theorem takeRun_eq_some_iff {p : Char → Bool} {s run rest : List Char} :
    takeRun p s = some (run, rest) ↔
      s = run ++ rest ∧ run ≠ [] ∧ (∀ c ∈ run, p c = true) ∧ ∀ c ∈ rest.head?, p c = false := by
  constructor
  · intro h
    rw [takeRun] at h
    split at h
    · cases h
    · rename_i hne
      cases h
      refine ⟨List.takeWhile_append_dropWhile.symm, hne, fun c hc => List.mem_takeWhile_imp hc,
        fun c hc => ?_⟩
      have hhead := List.head?_dropWhile_not p s
      rwa [Option.mem_def.mp hc] at hhead
  · rintro ⟨rfl, hne, hrun, hrest⟩
    exact takeRun_append hne hrun hrest

/-- The parts of an assignment are found one after another: the word, the equals sign and the
value. -/
theorem assignment_append {p : Char → Bool} {word w gap gap' value rest : List Char}
    (hw : lower w = lower word) (hgap : ∀ c ∈ gap, isSpace c = true)
    (hgap' : ∀ c ∈ gap', isSpace c = true) (hne : value ≠ []) (hvalue : ∀ c ∈ value, p c = true)
    (hspace : ∀ c ∈ value, isSpace c = false) (hrest : ∀ c ∈ rest.head?, p c = false) :
    afterWord word (w ++ (gap ++ '=' :: (gap' ++ (value ++ rest)))) =
        some (gap ++ '=' :: (gap' ++ (value ++ rest))) ∧
      afterSpaced '=' (gap ++ '=' :: (gap' ++ (value ++ rest))) = some (value ++ rest) ∧
      takeRun p (value ++ rest) = some (value, rest) := by
  refine ⟨afterWord_eq_some_iff.mpr ⟨w, rfl, hw⟩, ?_, takeRun_append hne hvalue hrest⟩
  exact afterSpaced_append_append (by decide) hgap hgap'
    (forall_head?_append_of_ne_nil hne hspace rest)

end NetNames.Descriptor
