import Mathlib.Data.List.Basic
import NetNames.Text.Lines

/-! A text put together from lines without line feeds is cut into these lines again, except that
each loses a carriage return at its end. Every text is put together in this way, up to a last line
that no feed ends. -/
namespace NetNames.Text

/-- The text of lines that all end with a line feed. -/
def unlines (ls : List (List Char)) : List Char := ls.flatMap (· ++ ['\n'])

@[simp] theorem unlines_nil : unlines [] = [] := rfl
@[simp] theorem unlines_cons (l : List Char) (ls : List (List Char)) :
    unlines (l :: ls) = l ++ '\n' :: unlines ls := by
  simp [unlines]

@[simp] theorem flatten_cutLines (s : List Char) : (cutLines s).flatten = s := by
  induction s with
  | nil => rfl
  | cons c r ih =>
    rw [cutLines]
    split
    · simp [ih]
    · split <;> simp_all

/-- A cut at a line feed splits the lines there. -/
theorem cutLines_append_newline (a b : List Char) :
    cutLines (a ++ '\n' :: b) = cutLines (a ++ ['\n']) ++ cutLines b := by
  induction a with
  | nil => simp [cutLines]
  | cons c a ih =>
    simp only [List.cons_append, cutLines, ih]
    split
    · simp
    · cases h : cutLines (a ++ ['\n']) with
      | nil => simpa using congrArg List.flatten h
      | cons l ls => simp

theorem cutLines_of_not_mem {l : List Char} (h : '\n' ∉ l) :
    cutLines (l ++ ['\n']) = [l ++ ['\n']] := by
  induction l with
  | nil => rfl
  | cons c l ih =>
    obtain ⟨hc, hl⟩ := List.ne_and_not_mem_of_not_mem_cons h
    rw [List.cons_append, cutLines, if_neg (Ne.symm hc), ih hl]

/-- A line as it is cut out of a text: a carriage return at its end is lost. -/
def withoutReturn (l : List Char) : List Char := dropEnding (l ++ ['\n'])

/-- The first line ends at the first line feed. -/
theorem lines_append_feed {l : List Char} (h : '\n' ∉ l) (rest : List Char) :
    lines (l ++ '\n' :: rest) = withoutReturn l :: lines rest := by
  rw [lines, cutLines_append_newline, cutLines_of_not_mem h]
  rfl

theorem withoutReturn_eq_self {l : List Char} (h : l.getLast? ≠ some '\r') :
    withoutReturn l = l := by
  rw [withoutReturn, dropEnding, List.reverse_append]
  rw [← List.head?_reverse] at h
  cases hl : l.reverse with
  | nil => simpa using hl
  | cons c s =>
    rw [hl] at h
    have hc : c ≠ '\r' := fun hc => h (congrArg some hc)
    have hkeep := congrArg List.reverse hl
    rw [List.reverse_reverse] at hkeep
    simp [hc, hkeep]

theorem withoutReturn_append_return (l : List Char) : withoutReturn (l ++ ['\r']) = l := by
  simp [withoutReturn, dropEnding]

/-- A line is cut out as it is, or it loses a carriage return. -/
theorem eq_withoutReturn_or (l : List Char) :
    l = withoutReturn l ∨ l = withoutReturn l ++ ['\r'] := by
  by_cases h : l.getLast? = some '\r'
  · obtain ⟨s, rfl⟩ := List.getLast?_eq_some_iff.mp h
    exact .inr (by rw [withoutReturn_append_return])
  · exact .inl (withoutReturn_eq_self h).symm

theorem mem_of_mem_withoutReturn {l : List Char} {c : Char} (h : c ∈ withoutReturn l) : c ∈ l := by
  rcases eq_withoutReturn_or l with hl | hl
  · rwa [hl]
  · rw [hl]
    exact List.mem_append_left _ h

theorem withoutReturn_cons {c : Char} (hc : c ≠ '\r') (l : List Char) :
    withoutReturn (c :: l) = c :: withoutReturn l := by
  by_cases h : l.getLast? = some '\r'
  · obtain ⟨s, rfl⟩ := List.getLast?_eq_some_iff.mp h
    rw [← List.cons_append, withoutReturn_append_return, withoutReturn_append_return]
  · have hcons : (c :: l).getLast? ≠ some '\r' := by
      cases l with
      | nil => exact fun hl => hc (Option.some.inj hl)
      | cons d l => rwa [List.getLast?_cons_cons]
    rw [withoutReturn_eq_self h, withoutReturn_eq_self hcons]

/-- Lines that end with a feed are cut off one by one, each without its carriage return. -/
theorem lines_unlines_append {ls : List (List Char)} (h : ∀ l ∈ ls, '\n' ∉ l) (s : List Char) :
    lines (unlines ls ++ s) = ls.map withoutReturn ++ lines s := by
  induction ls with
  | nil => rfl
  | cons l ls ih =>
    obtain ⟨hl, hls⟩ := List.forall_mem_cons.mp h
    rw [unlines_cons, List.append_assoc, List.cons_append, lines_append_feed hl, ih hls]
    rfl

theorem lines_unlines {ls : List (List Char)} (h : ∀ l ∈ ls, '\n' ∉ l) :
    lines (unlines ls) = ls.map withoutReturn := by
  have hlines := lines_unlines_append h []
  rwa [List.append_nil, show lines [] = [] from rfl, List.append_nil] at hlines

theorem unlines_append (ls ms : List (List Char)) :
    unlines (ls ++ ms) = unlines ls ++ unlines ms :=
  List.flatMap_append

theorem length_withoutReturn_le (l : List Char) : (withoutReturn l).length ≤ l.length := by
  rcases eq_withoutReturn_or l with h | h
  · exact Nat.le_of_eq (congrArg List.length h.symm)
  · rw [h, withoutReturn_append_return, List.length_append]
    exact Nat.le_add_right _ _

theorem length_unlines_withoutReturn_le (ls : List (List Char)) :
    (unlines (ls.map withoutReturn)).length ≤ (unlines ls).length := by
  induction ls with
  | nil => exact Nat.le_refl 0
  | cons l ls ih =>
    have hl := length_withoutReturn_le l
    simp only [List.map_cons, unlines_cons, List.length_append, List.length_cons]
    omega

/-- Lines lose a character if one of them ends with a carriage return. -/
theorem length_unlines_withoutReturn_lt {ls : List (List Char)}
    (h : ∃ l ∈ ls, l.getLast? = some '\r') :
    (unlines (ls.map withoutReturn)).length < (unlines ls).length := by
  obtain ⟨l, hl, hreturn⟩ := h
  obtain ⟨s, rfl⟩ := List.getLast?_eq_some_iff.mp hreturn
  obtain ⟨before, after, rfl⟩ := List.append_of_mem hl
  have hbefore := length_unlines_withoutReturn_le before
  have hafter := length_unlines_withoutReturn_le after
  simp only [List.map_append, List.map_cons, withoutReturn_append_return, unlines_append,
    unlines_cons, List.length_append, List.length_cons]
  omega

/-- A line without a feed is the only one of its text, unless it is empty. -/
theorem lines_of_not_mem {l : List Char} (h : '\n' ∉ l) (hne : l ≠ []) : lines l = [l] := by
  have hcut : ∀ s : List Char, '\n' ∉ s → s ≠ [] → cutLines s = [s] := by
    intro s
    induction s with
    | nil => exact fun _ h => absurd rfl h
    | cons c s ih =>
      intro hs _
      obtain ⟨hc, hs⟩ := List.ne_and_not_mem_of_not_mem_cons hs
      rw [cutLines, if_neg (Ne.symm hc)]
      cases s with
      | nil => rfl
      | cons d s => rw [ih hs (List.cons_ne_nil d s)]
  have hend : l.getLast? ≠ some '\n' := fun hl => h (List.mem_of_getLast? hl)
  rw [lines, hcut l h hne, List.map_singleton, dropEnding]
  rw [← List.head?_reverse] at hend
  cases hr : l.reverse with
  | nil => rfl
  | cons c s =>
    rw [hr] at hend
    have hc : c ≠ '\n' := fun hc => hend (congrArg some hc)
    simp [hc]

/-- A text is made of the pieces between its line feeds. -/
theorem unlines_splitOn (s : List Char) : unlines (s.splitOn '\n') = s ++ ['\n'] := by
  induction s with
  | nil => rfl
  | cons c s ih =>
    rw [List.splitOn_cons_eq_if_modifyHead]
    split
    · rename_i hc
      rw [unlines_cons, ih, beq_iff_eq.mp hc]
      rfl
    · cases hs : s.splitOn '\n' with
      | nil => exact absurd hs (List.splitOn_ne_nil '\n' s)
      | cons l ls =>
        rw [hs, unlines_cons] at ih
        rw [List.modifyHead_cons, unlines_cons, List.cons_append, ih]
        rfl

theorem splitOn_of_not_mem {l : List Char} (h : '\n' ∉ l) : l.splitOn '\n' = [l] := by
  induction l with
  | nil => rfl
  | cons c l ih =>
    obtain ⟨hc, hl⟩ := List.ne_and_not_mem_of_not_mem_cons h
    have hne : (c == '\n') = false := beq_eq_false_iff_ne.mpr (Ne.symm hc)
    rw [List.splitOn_cons_eq_if_modifyHead, hne, ih hl]
    rfl

theorem splitOn_append_feed {l : List Char} (h : '\n' ∉ l) (s : List Char) :
    (l ++ '\n' :: s).splitOn '\n' = l :: s.splitOn '\n' := by
  induction l with
  | nil => rw [List.nil_append, List.splitOn_cons_eq_if_modifyHead]; rfl
  | cons c l ih =>
    obtain ⟨hc, hl⟩ := List.ne_and_not_mem_of_not_mem_cons h
    have hne : (c == '\n') = false := beq_eq_false_iff_ne.mpr (Ne.symm hc)
    rw [List.cons_append, List.splitOn_cons_eq_if_modifyHead, hne, ih hl]
    rfl

theorem not_mem_of_mem_splitOn {s l : List Char} (h : l ∈ s.splitOn '\n') : '\n' ∉ l := by
  induction s generalizing l with
  | nil => simp_all
  | cons c s ih =>
    rw [List.splitOn_cons_eq_if_modifyHead] at h
    split at h
    · rcases List.mem_cons.mp h with rfl | h
      · exact List.not_mem_nil
      · exact ih h
    · rename_i hc
      cases hs : s.splitOn '\n' with
      | nil => exact absurd hs (List.splitOn_ne_nil '\n' s)
      | cons l' ls =>
        rw [hs, List.modifyHead_cons] at h
        rw [hs] at ih
        rcases List.mem_cons.mp h with rfl | h
        · exact List.not_mem_cons_of_ne_of_not_mem
            (fun hfeed => hc (beq_iff_eq.mpr hfeed.symm)) (ih List.mem_cons_self)
        · exact ih (List.mem_cons_of_mem l' h)

/-- A text is made of lines that end with a feed and of what comes after the last one. -/
theorem exists_unlines_append (s : List Char) :
    ∃ ls l, s = unlines ls ++ l ∧ (∀ x ∈ ls, '\n' ∉ x) ∧ '\n' ∉ l := by
  obtain ⟨ls, l, hs⟩ := (List.eq_nil_or_concat' (s.splitOn '\n')).resolve_left
    (List.splitOn_ne_nil '\n' s)
  have hall : ∀ x ∈ ls ++ [l], '\n' ∉ x := fun x hx => not_mem_of_mem_splitOn (hs ▸ hx)
  have hlines := unlines_splitOn s
  rw [hs, unlines_append, unlines_cons, unlines_nil, ← List.append_assoc,
    List.append_cancel_right_eq] at hlines
  exact ⟨ls, l, hlines.symm, fun x hx => hall x (List.mem_append_left _ hx),
    hall l (List.mem_append_right _ (List.mem_singleton_self l))⟩

theorem not_mem_of_mem_lines {s l : List Char} (h : l ∈ lines s) : '\n' ∉ l := by
  obtain ⟨ls, x, rfl, hls, hx⟩ := exists_unlines_append s
  rw [lines_unlines_append hls] at h
  rcases List.mem_append.mp h with h | h
  · obtain ⟨y, hy, rfl⟩ := List.mem_map.mp h
    exact fun hfeed => hls y hy (mem_of_mem_withoutReturn hfeed)
  · by_cases hne : x = []
    · subst hne
      cases h
    · rw [lines_of_not_mem hx hne, List.mem_singleton] at h
      exact h ▸ hx

/-- A feed after a text ends its last line, which may lose a carriage return by that. -/
theorem exists_lines_concat (s : List Char) :
    ∃ ls l, lines s = ls ++ lines l ∧ lines (s ++ ['\n']) = ls ++ [withoutReturn l] ∧
      (l = [] ∨ lines l = [l]) := by
  obtain ⟨ls, l, rfl, hls, hl⟩ := exists_unlines_append s
  refine ⟨ls.map withoutReturn, l, lines_unlines_append hls l, ?_, ?_⟩
  · rw [List.append_assoc, lines_unlines_append hls, lines_append_feed hl]
    rfl
  · by_cases hne : l = []
    · exact .inl hne
    · exact .inr (lines_of_not_mem hl hne)

end NetNames.Text
