import NetNames.NamesFile.Block
import NetNames.Proofs.Text.Matching

/-! Which lines of a names file begin something. A line is an include line or an alias line by what
stands in it up to its equals sign; that it is found to be one says no more and no less. Lines that
begin with one make blocks of their own. -/
namespace NetNames.NamesFile

open Text

variable {s t name gap rest indent word : List Char}

/-- The line reads `IFILE =` in upper or lower case, with spaces allowed before each of the two. -/
def StartsInclusion (s : List Char) : Prop :=
  ∃ indent word gap rest, s = indent ++ (word ++ (gap ++ '=' :: rest)) ∧
    (∀ c ∈ indent, isSpace c = true) ∧ lower word = lower includeWord ∧
    ∀ c ∈ gap, isSpace c = true

/-- The line reads `name =` from its first column on, with spaces allowed between the two. -/
def StartsDefinition (s : List Char) : Prop :=
  ∃ name gap rest, s = name ++ (gap ++ '=' :: rest) ∧ name ≠ [] ∧
    (∀ c ∈ name, isName c = true) ∧ ∀ c ∈ gap, isSpace c = true

theorem isName_of_mem_word {word : List Char} (h : lower word = lower includeWord) {c : Char}
    (hc : c ∈ word) : isName c = true :=
  isName_of_lower_eq (by decide) h c hc

/-- The target of an include line is what follows its equals sign. -/
theorem inclusionTarget?_append (hindent : ∀ c ∈ indent, isSpace c = true)
    (hlower : lower word = lower includeWord) (hgap : ∀ c ∈ gap, isSpace c = true)
    (rest : List Char) :
    inclusionTarget? (indent ++ (word ++ (gap ++ '=' :: rest))) = some (skipSpaces rest) := by
  rw [inclusionTarget?, afterWord_skipSpaces hindent (by decide) (by decide) hlower]
  exact afterSpaced_append (by decide) hgap rest

theorem inclusionTarget?_isSome_iff : (inclusionTarget? s).isSome ↔ StartsInclusion s := by
  constructor
  · intro h
    obtain ⟨target, htarget⟩ := Option.isSome_iff_exists.mp h
    obtain ⟨r, hr, hspaced⟩ := Option.bind_eq_some_iff.mp htarget
    obtain ⟨indent, hs, hindent⟩ := exists_append_skipSpaces s
    obtain ⟨word, hword, hlower⟩ := afterWord_eq_some_iff.mp hr
    obtain ⟨gap, rest, rfl, hgap, -⟩ := (afterSpaced_eq_some_iff (by decide)).mp hspaced
    exact ⟨indent, word, gap, rest, by rw [hs, hword], hindent, hlower, hgap⟩
  · rintro ⟨indent, word, gap, rest, rfl, hindent, hlower, hgap⟩
    rw [inclusionTarget?_append hindent hlower hgap]
    rfl

theorem inclusionTarget?_eq_none_iff : inclusionTarget? s = none ↔ ¬ StartsInclusion s := by
  rw [← inclusionTarget?_isSome_iff, Option.not_isSome_iff_eq_none]

instance : DecidablePred StartsInclusion := fun _ =>
  decidable_of_iff _ inclusionTarget?_isSome_iff

/-- Spaces and an equals sign begin with no part of a name. -/
theorem exists_cons_of_gap (hgap : ∀ c ∈ gap, isSpace c = true) (rest : List Char) :
    ∃ c r, gap ++ '=' :: rest = c :: r ∧ isName c = false := by
  cases gap with
  | nil => exact ⟨'=', rest, rfl, by decide⟩
  | cons c gap =>
    refine ⟨c, gap ++ '=' :: rest, rfl, Bool.eq_false_iff.mpr fun hc => ?_⟩
    exact absurd (hgap c List.mem_cons_self) (Bool.eq_false_iff.mp (not_isSpace_of_isName hc))

theorem takeWhile_isName (hname : ∀ c ∈ name, isName c = true)
    (hgap : ∀ c ∈ gap, isSpace c = true) (rest : List Char) :
    (name ++ (gap ++ '=' :: rest)).takeWhile isName = name := by
  obtain ⟨c, r, hr, hc⟩ := exists_cons_of_gap hgap rest
  rw [List.takeWhile_append_of_pos hname, hr, List.takeWhile_cons_of_neg (by simp [hc]),
    List.append_nil]

/-- The name of an alias line reaches to its spaces or its equals sign. -/
theorem aliasHead?_append (hne : name ≠ []) (hname : ∀ c ∈ name, isName c = true)
    (hgap : ∀ c ∈ gap, isSpace c = true) (rest : List Char) :
    aliasHead? (name ++ (gap ++ '=' :: rest)) = some (name, rest) := by
  obtain ⟨c, r, hr, hc⟩ := exists_cons_of_gap hgap rest
  have hdrop : (name ++ (gap ++ '=' :: rest)).dropWhile isName = gap ++ '=' :: rest := by
    rw [List.dropWhile_append_of_pos hname, hr, List.dropWhile_cons_of_neg (by simp [hc])]
  rw [aliasHead?, takeWhile_isName hname hgap, hdrop, skipSpaces_append hgap,
    skipSpaces_cons (by decide)]
  cases name with
  | nil => exact absurd rfl hne
  | cons c name => rfl

theorem aliasHead?_eq_some_iff : aliasHead? s = some (name, rest) ↔
    ∃ gap, s = name ++ (gap ++ '=' :: rest) ∧ name ≠ [] ∧ (∀ c ∈ name, isName c = true) ∧
      ∀ c ∈ gap, isSpace c = true := by
  constructor
  · intro h
    rw [aliasHead?] at h
    split at h
    · rename_i c run rest' hname hrest
      cases h
      obtain ⟨gap, hs, hgap⟩ := exists_append_skipSpaces (s.dropWhile isName)
      refine ⟨gap, ?_, List.cons_ne_nil c run, ?_, hgap⟩
      · rw [← hrest, ← hs, ← hname, List.takeWhile_append_dropWhile]
      · rw [← hname]
        exact fun x hx => List.mem_takeWhile_imp hx
    · cases h
  · rintro ⟨gap, rfl, hne, hname, hgap⟩
    exact aliasHead?_append hne hname hgap rest

theorem aliasHead?_isSome_iff : (aliasHead? s).isSome ↔ StartsDefinition s := by
  rw [Option.isSome_iff_exists]
  constructor
  · rintro ⟨⟨name, rest⟩, h⟩
    obtain ⟨gap, h⟩ := aliasHead?_eq_some_iff.mp h
    exact ⟨name, gap, rest, h⟩
  · rintro ⟨name, gap, rest, h⟩
    exact ⟨(name, rest), aliasHead?_eq_some_iff.mpr ⟨gap, h⟩⟩

theorem aliasHead?_eq_none_iff : aliasHead? s = none ↔ ¬ StartsDefinition s := by
  rw [← aliasHead?_isSome_iff, Option.not_isSome_iff_eq_none]

instance : DecidablePred StartsDefinition := fun _ =>
  decidable_of_iff _ aliasHead?_isSome_iff

/-- An alias line is an include line only if its name is the include word. -/
theorem not_startsInclusion (hne : name ≠ []) (hname : ∀ c ∈ name, isName c = true)
    (hword : lower name ≠ lower includeWord) (hgap : ∀ c ∈ gap, isSpace c = true)
    (rest : List Char) : ¬ StartsInclusion (name ++ (gap ++ '=' :: rest)) := by
  rintro ⟨indent, word, gap', rest', hs, hindent, hlower, hgap'⟩
  cases indent with
  | nil =>
    have hrun := congrArg (List.takeWhile isName) hs
    rw [List.nil_append, takeWhile_isName hname hgap,
      takeWhile_isName (fun c hc => isName_of_mem_word hlower hc) hgap'] at hrun
    exact hword (hrun ▸ hlower)
  | cons c indent =>
    cases name with
    | nil => exact hne rfl
    | cons d name =>
      obtain ⟨rfl, -⟩ := List.cons.inj hs
      have hspace := hindent d List.mem_cons_self
      rw [not_isSpace_of_isName (hname d List.mem_cons_self)] at hspace
      cases hspace

theorem Line.of_definition (hne : name ≠ []) (hname : ∀ c ∈ name, isName c = true)
    (hword : lower name ≠ lower includeWord) (hgap : ∀ c ∈ gap, isSpace c = true)
    (rest : List Char) : Line.of (name ++ (gap ++ '=' :: rest)) = .definition name rest := by
  have hblank : isBlankLine (name ++ (gap ++ '=' :: rest)) = false := by
    cases name with
    | nil => exact absurd rfl hne
    | cons c name =>
      have hc := hname c List.mem_cons_self
      have hcomment : c ≠ '#' := by
        rintro rfl
        cases hc
      simp [isBlankLine, trimStart, not_isBlank_of_isName hc, hcomment]
  have hi := not_startsInclusion hne hname hword hgap rest
  rw [← inclusionTarget?_eq_none_iff] at hi
  simp [Line.of, hblank, hi, aliasHead?_append hne hname hgap]

theorem Line.of_inclusion (hindent : ∀ c ∈ indent, isSpace c = true)
    (hlower : lower word = lower includeWord) (hgap : ∀ c ∈ gap, isSpace c = true)
    (rest : List Char) :
    Line.of (indent ++ (word ++ (gap ++ '=' :: rest))) = .inclusion (skipSpaces rest) := by
  have hblank : isBlankLine (indent ++ (word ++ (gap ++ '=' :: rest))) = false := by
    cases word with
    | nil => cases hlower
    | cons c word =>
      have hc := isName_of_mem_word hlower List.mem_cons_self
      have hindent : ∀ c ∈ indent, isBlank c = true :=
        fun c hc => isBlank_of_isSpace (hindent c hc)
      have hcomment : c ≠ '#' := by
        rintro rfl
        cases hc
      rw [isBlankLine, List.cons_append, trimStart_append_cons _ _ (not_isBlank_of_isName hc),
        trimStart_of_blank hindent]
      exact beq_eq_false_iff_ne.mpr hcomment
  simp [Line.of, hblank, inclusionTarget?_append hindent hlower hgap]

theorem Line.of_eq_blank_iff : Line.of s = .blank ↔ isBlankLine s = true := by
  rw [Line.of]
  constructor
  · intro h
    split at h
    · assumption
    · split at h
      · cases h
      · split at h <;> cases h
  · exact fun h => if_pos h

/-- Only an alias line whose name is not the include word defines something. -/
theorem Line.of_eq_definition (h : Line.of s = .definition name rest) :
    (∃ gap, s = name ++ (gap ++ '=' :: rest) ∧ name ≠ [] ∧ (∀ c ∈ name, isName c = true) ∧
      ∀ c ∈ gap, isSpace c = true) ∧ lower name ≠ lower includeWord := by
  rw [Line.of] at h
  split at h
  · cases h
  · split at h
    · cases h
    · rename_i hi
      split at h
      · rename_i hd
        cases h
        have hform := aliasHead?_eq_some_iff.mp hd
        refine ⟨hform, fun hword => inclusionTarget?_eq_none_iff.mp hi ?_⟩
        obtain ⟨gap, hs, -, -, hgap⟩ := hform
        exact ⟨[], name, gap, rest, hs, List.forall_mem_nil _, hword, hgap⟩
      · cases h

theorem Line.of_eq_inclusion (h : Line.of s = .inclusion t) : StartsInclusion s := by
  by_contra hi
  rw [← inclusionTarget?_eq_none_iff] at hi
  rw [Line.of, hi] at h
  split at h
  · cases h
  · dsimp only at h
    split at h <;> cases h

theorem Line.of_text (hb : isBlankLine s = false) (hi : ¬ StartsInclusion s)
    (hd : ¬ StartsDefinition s) : Line.of s = .text s := by
  rw [← inclusionTarget?_eq_none_iff] at hi
  rw [← aliasHead?_eq_none_iff] at hd
  simp [Line.of, hb, hi, hd]

theorem Line.of_eq_text (h : Line.of s = .text t) :
    t = s ∧ isBlankLine s = false ∧ ¬ StartsInclusion s ∧ ¬ StartsDefinition s := by
  rw [← inclusionTarget?_eq_none_iff, ← aliasHead?_eq_none_iff]
  rw [Line.of] at h
  split at h
  · cases h
  · rename_i hblank
    split at h
    · cases h
    · rename_i hi
      split at h
      · cases h
      · rename_i hd
        cases h
        exact ⟨rfl, Bool.eq_false_iff.mpr hblank, hi, hd⟩

theorem Line.of_eq_text_iff : Line.of s = .text s ↔
    isBlankLine s = false ∧ ¬ StartsInclusion s ∧ ¬ StartsDefinition s :=
  ⟨fun h => (Line.of_eq_text h).2, fun ⟨hb, hi, hd⟩ => Line.of_text hb hi hd⟩

/-- A line that ends the definition above it. -/
def Line.isHead : Line → Bool
  | .definition _ _ => true
  | .inclusion _ => true
  | _ => false

/-- Include lines and alias lines, and no others, end the body above them. -/
theorem Line.isHead_iff :
    (Line.of s).isHead = true ↔ StartsDefinition s ∨ StartsInclusion s := by
  constructor
  · intro h
    by_contra hnone
    obtain ⟨hd, hi⟩ := not_or.mp hnone
    by_cases hblank : isBlankLine s = true
    · rw [Line.of_eq_blank_iff.mpr hblank] at h
      cases h
    · rw [Line.of_text (Bool.eq_false_iff.mpr hblank) hi hd] at h
      cases h
  · intro h
    by_cases hi : StartsInclusion s
    · obtain ⟨indent, word, gap, rest, rfl, hindent, hlower, hgap⟩ := hi
      rw [Line.of_inclusion hindent hlower hgap]
      rfl
    · obtain ⟨name, gap, rest, rfl, hne, hname, hgap⟩ := h.resolve_right hi
      have hword : lower name ≠ lower includeWord := fun hword =>
        hi ⟨[], name, gap, rest, rfl, List.forall_mem_nil _, hword, hgap⟩
      rw [Line.of_definition hne hname hword hgap]
      rfl

/-- The first of the lines that is not blank begins something. -/
def HeadFirst (ls : List Line) : Prop :=
  ∀ l ∈ (ls.filter (· != .blank)).head?, l.isHead = true

/-- No text is left over above a head. -/
theorem HeadFirst.lines_eq_nil {ls : List Line} (h : HeadFirst ls) :
    (ls.foldr Pending.add {}).lines = [] := by
  induction ls with
  | nil => rfl
  | cons l ls ih =>
    cases l with
    | blank => exact ih h
    | text s => cases h (.text s) rfl
    | definition name rest => rfl
    | inclusion target => rfl

/-- Lines above blocks that nothing is left over from make the blocks that they make alone. -/
theorem foldr_add_of_lines_eq_nil (ls : List Line) {p : Pending} (hp : p.lines = []) :
    ls.foldr Pending.add p = { ls.foldr Pending.add {} with
      blocks := (ls.foldr Pending.add {}).blocks ++ p.blocks } := by
  induction ls with
  | nil =>
    cases p
    cases hp
    rfl
  | cons l ls ih =>
    rw [List.foldr_cons, ih, List.foldr_cons]
    cases l with
    | blank => rfl
    | text s => rfl
    | definition name rest => rfl
    | inclusion target => simp [Pending.add]

/-- Lines that start with a head, blank lines aside, make blocks of their own. -/
theorem Block.ofLines_append (ls : List Line) {ms : List Line} (h : HeadFirst ms) :
    Block.ofLines (ls ++ ms) = Block.ofLines ls ++ Block.ofLines ms := by
  simp only [Block.ofLines, List.foldr_append, foldr_add_of_lines_eq_nil ls h.lines_eq_nil,
    Pending.close, h.lines_eq_nil, List.map_nil, List.nil_append, List.append_assoc]

/-- What ends a line without an equals sign leaves its first one where it is. -/
theorem append_eq_of_not_mem {p : List Char} (ht : '=' ∉ t)
    (h : s ++ t = p ++ '=' :: rest) : ∃ r, s = p ++ '=' :: r ∧ rest = r ++ t := by
  rcases List.append_eq_append_iff.mp h with ⟨q, -, ht'⟩ | ⟨q, hs, hq⟩
  · exact absurd (ht' ▸ List.mem_append_right q List.mem_cons_self) ht
  · cases q with
    | nil =>
      rw [List.nil_append] at hq
      exact absurd (hq ▸ List.mem_cons_self) ht
    | cons c q =>
      obtain ⟨rfl, rfl⟩ := List.cons.inj hq
      exact ⟨q, hs, rfl⟩

section BlankEnd
variable (ht : ∀ c ∈ t, isBlank c = true)
include ht

theorem equals_not_mem : '=' ∉ t := fun h => absurd (ht _ h) (by decide)

theorem isBlankLine_append : isBlankLine (s ++ t) = isBlankLine s := by
  rcases blank_or_split s with h | ⟨a, x, b, rfl, ha, hx⟩
  · have hst : ∀ c ∈ s ++ t, isBlank c = true := List.forall_mem_append.mpr ⟨h, ht⟩
    rw [isBlankLine, trimStart_of_blank hst, isBlankLine, trimStart_of_blank h]
  · rw [List.append_assoc, List.cons_append, isBlankLine, trimStart_append_cons a _ hx,
      isBlankLine, trimStart_append_cons a b hx, trimStart_of_blank ha]
    rfl

theorem startsInclusion_append_iff : StartsInclusion (s ++ t) ↔ StartsInclusion s := by
  constructor
  · rintro ⟨indent, word, gap, rest, h, hindent, hlower, hgap⟩
    rw [← List.append_assoc, ← List.append_assoc] at h
    obtain ⟨r, rfl, -⟩ := append_eq_of_not_mem (equals_not_mem ht) h
    exact ⟨indent, word, gap, r, by simp, hindent, hlower, hgap⟩
  · rintro ⟨indent, word, gap, rest, rfl, hindent, hlower, hgap⟩
    exact ⟨indent, word, gap, rest ++ t, by simp, hindent, hlower, hgap⟩

theorem startsDefinition_append_iff : StartsDefinition (s ++ t) ↔ StartsDefinition s := by
  constructor
  · rintro ⟨name, gap, rest, h, hne, hname, hgap⟩
    rw [← List.append_assoc] at h
    obtain ⟨r, rfl, -⟩ := append_eq_of_not_mem (equals_not_mem ht) h
    exact ⟨name, gap, r, by simp, hne, hname, hgap⟩
  · rintro ⟨name, gap, rest, rfl, hne, hname, hgap⟩
    exact ⟨name, gap, rest ++ t, by simp, hne, hname, hgap⟩

/-- Blanks at the end of a line make no difference to whether it is text. -/
theorem Line.of_append_eq_text_iff : Line.of (s ++ t) = .text (s ++ t) ↔ Line.of s = .text s := by
  rw [Line.of_eq_text_iff, Line.of_eq_text_iff, isBlankLine_append ht,
    startsInclusion_append_iff ht, startsDefinition_append_iff ht]

end BlankEnd

end NetNames.NamesFile
