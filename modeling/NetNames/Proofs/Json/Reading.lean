import Mathlib.Data.List.DropRight
import NetNames.Json.Reader

/-! A written JSON text is read back. Both written forms spell the same tokens and differ in the
blanks between them, so they are two cases of one relation between values and texts, and the reader
gives the value of every text of that relation. -/
namespace NetNames.Json

open Text

variable {c : Char} {s t r rest gap : List Char} {n : Nat}

/-! Strings. -/

private theorem readUnit_control (h : n < 0x20) (r : List Char) :
    readUnit ('0' :: '0' :: hexDigit (n / 16) :: hexDigit (n % 16) :: r) = some (n, r) := by
  have hzero : hexValue? '0' = some 0 := rfl
  have hhigh := hexValue?_hexDigit (show n / 16 < 16 by omega)
  have hlow := hexValue?_hexDigit (show n % 16 < 16 by omega)
  rw [readUnit, hzero, hhigh, hlow]
  simp [Nat.div_add_mod']

private theorem readCoded_control (h : c.toNat < 0x20) (r : List Char) :
    readCoded ('0' :: '0' :: hexDigit (c.toNat / 16) :: hexDigit (c.toNat % 16) :: r) =
      some (some c, r) := by
  have htrailing : isTrailing c.toNat = false := by simp [isTrailing]; omega
  have hleading : isLeading c.toNat = false := by simp [isLeading]; omega
  rw [readCoded, readUnit_control h]
  simp [htrailing, hleading]

/-- One more character in front of what was read of a string. -/
def readMore (c : Char) (read : Option (List Char) × List Char) :
    Option (List Char) × List Char :=
  (do return c :: (← read.1), read.2)

private theorem readString_escape (n : Nat) {e : Char} (h : plainEscape? e = some c)
    (r : List Char) : readString (n + 1) ('\\' :: e :: r) = readMore c <$> readString n r := by
  have hcoded : e ≠ 'u' := by
    rintro rfl
    cases h
  rw [readString, h]
  · rfl
  · simpa using hcoded

theorem readString_escapeChar (n : Nat) (c : Char) (r : List Char) :
    readString (n + 1) (escapeChar c ++ r) = readMore c <$> readString n r := by
  unfold escapeChar
  split
  iterate 7 exact readString_escape n (by rfl) r
  rename_i hquote hslash _ _ _ _ _
  split
  · rename_i hc
    simp only [List.cons_append, List.nil_append]
    rw [readString, readCoded_control hc]
    rfl
  · rename_i hc
    simp only [List.cons_append, List.nil_append]
    rw [readString]
    · rw [if_neg (by simpa using ⟨Nat.not_lt.mp hc, hslash⟩)]
      rfl
    · exact hquote
    · exact fun _ h => absurd h hslash
    · exact fun _ _ h => absurd h hslash

/-- What is quoted is read back, whatever it holds. -/
theorem readString_quoted (hn : s.length ≤ n) (rest : List Char) :
    readString n (s.flatMap escapeChar ++ '"' :: rest) = some (some s, rest) := by
  induction s generalizing n with
  | nil => rw [List.flatMap_nil, List.nil_append, readString]
  | cons c s ih =>
    obtain ⟨n, rfl⟩ : ∃ m, n = m + 1 := ⟨n - 1, by simp at hn; omega⟩
    rw [List.flatMap_cons, List.append_assoc, readString_escapeChar, ih (by simpa using hn)]
    rfl

theorem length_escapeChar_pos (c : Char) : 0 < (escapeChar c).length := by
  unfold escapeChar
  split
  iterate 7 exact Nat.two_pos
  split <;> exact Nat.succ_pos _

theorem length_le_flatMap_escapeChar (s : List Char) : s.length ≤ (s.flatMap escapeChar).length := by
  induction s with
  | nil => exact Nat.le_refl _
  | cons c s ih =>
    have hc := length_escapeChar_pos c
    rw [List.flatMap_cons, List.length_append, List.length_cons]
    omega

/-! Numbers. -/

/-- No number goes on with the text. -/
def Stops (s : List Char) : Prop :=
  ∀ c ∈ s.head?, isDigit c = false ∧ c ≠ '.' ∧ c ≠ 'e' ∧ c ≠ 'E'

theorem readFraction_of_stops (h : Stops s) : readFraction s = some (false, s) := by
  unfold readFraction
  split
  · exact absurd rfl (h '.' rfl).2.1
  · simp only [Option.bind_eq_bind, Option.bind_some]
    split
    · exact absurd rfl (h 'e' rfl).2.2.1
    · exact absurd rfl (h 'E' rfl).2.2.2
    · rfl

theorem isDigit_of_mem_toDigits (h : c ∈ Nat.toDigits 10 n) : isDigit c = true := by
  simpa [isDigit, Char.isDigit, Char.le_def] using
    Nat.isDigit_of_mem_toDigits (by decide) (by decide) h

theorem exists_cons_toDigits (n : Nat) :
    ∃ d ds, Nat.toDigits 10 n = d :: ds ∧ isDigit d = true ∧ ∀ c ∈ ds, isDigit c = true := by
  obtain ⟨d, ds, hdigits⟩ := List.exists_cons_of_ne_nil (@Nat.toDigits_ne_nil n 10)
  have hdigit : ∀ c ∈ d :: ds, isDigit c = true := fun c hc =>
    isDigit_of_mem_toDigits (n := n) (hdigits ▸ hc)
  exact ⟨d, ds, hdigits, List.forall_mem_cons.mp hdigit⟩

/-- Only zero is written with a zero in front. -/
theorem head?_toDigits_ne (hn : 0 < n) : (Nat.toDigits 10 n).head? ≠ some '0' := by
  induction n using Nat.strongRecOn with
  | ind n ih =>
    rw [Nat.toDigits_eq_if (by decide)]
    split
    · rename_i hten
      have key : ∀ d : Fin 10, 0 < d.val → Nat.digitChar d.val ≠ '0' := by decide
      simpa using key ⟨n, hten⟩ hn
    · rename_i hten
      have hhigh := ih (n / 10) (by omega) (by omega)
      obtain ⟨d, ds, hdigits, -⟩ := exists_cons_toDigits (n / 10)
      rw [hdigits] at hhigh ⊢
      exact hhigh

theorem span_digits {ds : List Char} (hds : ∀ c ∈ ds, isDigit c = true) (h : Stops rest) :
    (ds ++ rest).takeWhile isDigit = ds ∧ (ds ++ rest).dropWhile isDigit = rest := by
  rw [List.takeWhile_append_of_pos hds, List.dropWhile_append_of_pos hds]
  cases rest with
  | nil => exact ⟨List.append_nil _, rfl⟩
  | cons c rest =>
    have hc : ¬ isDigit c = true := Bool.eq_false_iff.mp (h c rfl).1
    rw [List.takeWhile_cons_of_neg hc, List.dropWhile_cons_of_neg hc, List.append_nil]
    exact ⟨rfl, rfl⟩

theorem readNumber_toDigits (n : Nat) (h : Stops rest) :
    readNumber (Nat.toDigits 10 n ++ rest) = some (.whole n, rest) := by
  rcases Nat.eq_zero_or_pos n with rfl | hn
  · have hend : rest.head?.any isDigit = false := by
      rw [Option.any_eq_false]
      exact fun c hc => (h c hc).1
    simp [readNumber, Nat.toDigits_zero, hend, readFraction_of_stops h, Nat.ofDigitChars_cons]
  · have hvalue : Nat.ofDigitChars 10 (Nat.toDigits 10 n) 0 = n := Nat.ofDigitChars_ten_toDigits
    have hzero := head?_toDigits_ne hn
    obtain ⟨d, ds, hdigits, hd, hds⟩ := exists_cons_toDigits n
    rw [hdigits] at hvalue hzero ⊢
    have hd0 : d ≠ '0' := fun he => hzero (congrArg some he)
    have hminus : d ≠ '-' := by
      rintro rfl
      cases hd
    obtain ⟨htake, hdrop⟩ := span_digits hds h
    simp [readNumber, hd, hd0, hminus, htake, hdrop, readFraction_of_stops h, hvalue]

/-! Blanks. -/

def IsGap (gap : List Char) : Prop := ∀ c ∈ gap, isJsonSpace c = true

theorem IsGap.nil : IsGap [] := nofun

theorem skipSpace_append (h : IsGap gap) (s : List Char) : skipSpace (gap ++ s) = skipSpace s :=
  List.dropWhile_append_of_pos h

theorem skipSpace_cons (h : isJsonSpace c = false) (s : List Char) :
    skipSpace (c :: s) = c :: s :=
  List.dropWhile_cons_of_neg (Bool.eq_false_iff.mp h)

theorem skipSpace_skipSpace (s : List Char) : skipSpace (skipSpace s) = skipSpace s :=
  List.dropWhile_idempotent ..

theorem readValue_skipSpace (n : Nat) (s : List Char) :
    readValue n (skipSpace s) = readValue n s := by
  cases n with
  | zero => rw [readValue, readValue]
  | succ n => rw [readValue, readValue, skipSpace_skipSpace]

theorem readElements_skipSpace (n : Nat) (s : List Char) :
    readElements n (skipSpace s) = readElements n s := by
  cases n with
  | zero => rw [readElements, readElements]
  | succ n => rw [readElements, readElements, readValue_skipSpace]

theorem readMembers_skipSpace (n : Nat) (s : List Char) :
    readMembers n (skipSpace s) = readMembers n s := by
  cases n with
  | zero => rw [readMembers, readMembers]
  | succ n => rw [readMembers, readMembers, skipSpace_skipSpace]

/-! Values. -/

/-- What a stretch of text stands for: a value, or what comes behind an opening bracket or brace. -/
inductive Part where
  | value (v : Value)
  | elements (vs : List Value)
  | members (ms : List (Option (List Char) × Value))

/-- The texts of a value, with any blanks between its tokens. -/
inductive Spells : Part → List Char → Prop where
  | null : Spells (.value .null) "null".toList
  | bool (b : Bool) : Spells (.value (.bool b)) (toString b).toList
  | whole (n : Nat) : Spells (.value (.whole n)) (Nat.toDigits 10 n)
  | string (s : List Char) : Spells (.value (.string (some s))) (quote s)
  | noElements : Spells (.value (.array [])) ['[', ']']
  | array {vs : List Value} {s : List Char} :
    Spells (.elements vs) s → Spells (.value (.array vs)) ('[' :: s)
  | noMembers : Spells (.value (.object [])) ['\x7b', '\x7d']
  | object {ms : List (Option (List Char) × Value)} {s : List Char} :
    Spells (.members ms) s → Spells (.value (.object ms)) ('\x7b' :: s)
  | element {v : Value} {gap s gap' : List Char} : IsGap gap → IsGap gap' →
    Spells (.value v) s → Spells (.elements [v]) (gap ++ (s ++ (gap' ++ [']'])))
  | elements {v : Value} {vs : List Value} {gap s t : List Char} : IsGap gap →
    Spells (.value v) s → Spells (.elements vs) t →
      Spells (.elements (v :: vs)) (gap ++ (s ++ ',' :: t))
  | member {k : List Char} {v : Value} {gap colon s gap' : List Char} :
    IsGap gap → IsGap colon → IsGap gap' → Spells (.value v) s →
      Spells (.members [(some k, v)])
        (gap ++ (quote k ++ ':' :: (colon ++ (s ++ (gap' ++ ['\x7d'])))))
  | members {k : List Char} {v : Value} {ms : List (Option (List Char) × Value)}
    {gap colon s t : List Char} : IsGap gap → IsGap colon →
    Spells (.value v) s → Spells (.members ms) t →
      Spells (.members ((some k, v) :: ms)) (gap ++ (quote k ++ ':' :: (colon ++ (s ++ ',' :: t))))

/-- The reader gives what the text stands for, and what follows the text. -/
def Part.ReadBack (n : Nat) (s : List Char) : Part → Prop
  | .value v => ∀ rest, Stops rest → readValue n (s ++ rest) = some (v, rest)
  | .elements vs => ∀ rest, readElements n (s ++ rest) = some (vs, rest)
  | .members ms => ∀ rest, readMembers n (s ++ rest) = some (ms, rest)

variable {p : Part} {v : Value} {vs : List Value} {ms : List (Option (List Char) × Value)}

theorem readValue_gap (h : IsGap gap) (n : Nat) (s : List Char) :
    readValue n (gap ++ s) = readValue n s := by
  rw [← readValue_skipSpace, skipSpace_append h, readValue_skipSpace]

theorem readMembers_gap (h : IsGap gap) (n : Nat) (s : List Char) :
    readMembers n (gap ++ s) = readMembers n s := by
  rw [← readMembers_skipSpace, skipSpace_append h, readMembers_skipSpace]

theorem isJsonSpace_eq_true_iff :
    isJsonSpace c = true ↔ c = ' ' ∨ c = '\t' ∨ c = '\n' ∨ c = '\r' := by
  simp [isJsonSpace, or_assoc]

theorem isJsonSpace_of_isDigit (h : isDigit c = true) : isJsonSpace c = false := by
  rw [Bool.eq_false_iff, Ne, isJsonSpace_eq_true_iff]
  rintro (rfl | rfl | rfl | rfl) <;> cases h

theorem stops_nil : Stops [] := nofun

theorem stops_gap (hgap : IsGap gap) (hs : Stops s) : Stops (gap ++ s) := by
  cases gap with
  | nil => exact hs
  | cons c gap =>
    rintro _ ⟨⟩
    rcases isJsonSpace_eq_true_iff.mp (hgap c List.mem_cons_self) with rfl | rfl | rfl | rfl <;>
      decide

/-- A comma, a bracket or a brace ends a number. -/
theorem stops_mark (hc : c = ',' ∨ c = ']' ∨ c = '\x7d') (s : List Char) : Stops (c :: s) := by
  rintro _ ⟨⟩
  rcases hc with rfl | rfl | rfl <;> decide

theorem readValue_digit (hc : isDigit c = true) (n : Nat) (r : List Char) :
    readValue (n + 1) (c :: r) = readNumber (c :: r) := by
  rw [readValue, skipSpace_cons (isJsonSpace_of_isDigit hc)]
  split <;> first | rfl | (rename_i heq; cases heq; cases hc)

theorem readValue_bracket (h : ∀ r, skipSpace s ≠ ']' :: r) (n : Nat) :
    readValue (n + 1) ('[' :: s) = (readElements n s).map fun (vs, r) => (.array vs, r) := by
  have hmark : skipSpace ('[' :: s) = '[' :: s := skipSpace_cons (by decide) s
  rw [← readElements_skipSpace, Option.map_eq_bind]
  simp only [readValue, hmark]
  rfl

theorem readValue_brace (h : ∀ r, skipSpace s ≠ '\x7d' :: r) (n : Nat) :
    readValue (n + 1) ('\x7b' :: s) = (readMembers n s).map fun (ms, r) => (.object ms, r) := by
  have hmark : skipSpace ('\x7b' :: s) = '\x7b' :: s := skipSpace_cons (by decide) s
  rw [← readMembers_skipSpace, Option.map_eq_bind]
  simp only [readValue, hmark]
  rfl

/-- The text behind the opening quote. -/
theorem readString_quote (s rest : List Char) :
    let r := s.flatMap escapeChar ++ '"' :: rest
    readString r.length r = some (some s, rest) := by
  refine readString_quoted ?_ rest
  have hlength := length_le_flatMap_escapeChar s
  rw [List.length_append]
  omega

theorem quote_append (s rest : List Char) :
    quote s ++ rest = '"' :: (s.flatMap escapeChar ++ '"' :: rest) := by
  simp [quote]

theorem readValue_quote (n : Nat) (s rest : List Char) :
    readValue (n + 1) (quote s ++ rest) = some (.string (some s), rest) := by
  rw [quote_append, readValue, skipSpace_cons (by decide)]
  change Option.map _ (readString _ _) = _
  rw [readString_quote]
  rfl

/-- A value begins with a character of its own. -/
theorem Spells.exists_cons (h : Spells (.value v) s) :
    ∃ c r, s = c :: r ∧ isJsonSpace c = false ∧ c ≠ ']' := by
  cases h with
  | null => exact ⟨_, _, rfl, by decide, by decide⟩
  | bool b => cases b <;> exact ⟨_, _, rfl, by decide, by decide⟩
  | whole n =>
    obtain ⟨d, ds, hdigits, hd, -⟩ := exists_cons_toDigits n
    refine ⟨d, ds, hdigits, isJsonSpace_of_isDigit hd, ?_⟩
    rintro rfl
    cases hd
  | string s => exact ⟨_, _, rfl, by decide, by decide⟩
  | noElements => exact ⟨_, _, rfl, by decide, by decide⟩
  | array _ => exact ⟨_, _, rfl, by decide, by decide⟩
  | noMembers => exact ⟨_, _, rfl, by decide, by decide⟩
  | object _ => exact ⟨_, _, rfl, by decide, by decide⟩

theorem Spells.length_pos (h : Spells p s) : 0 < s.length := by
  cases p with
  | value v =>
    obtain ⟨c, r, rfl, -⟩ := h.exists_cons
    exact Nat.succ_pos _
  | elements vs => cases h <;> (simp only [List.length_append, List.length_cons]; omega)
  | members ms => cases h <;> (simp only [List.length_append, List.length_cons]; omega)

private theorem exists_succ (h : Spells p s) (hn : s.length ≤ n) : ∃ m, n = m + 1 :=
  ⟨n - 1, by have := h.length_pos; omega⟩

theorem Spells.skipSpace_elements (h : Spells (.elements vs) s) (rest r : List Char) :
    skipSpace (s ++ rest) ≠ ']' :: r := by
  have key {v : Value} {gap s t : List Char} (hgap : IsGap gap) (hv : Spells (.value v) s) :
      skipSpace (gap ++ (s ++ t)) ≠ ']' :: r := by
    obtain ⟨c, s, rfl, hc, hne⟩ := hv.exists_cons
    rw [skipSpace_append hgap, List.cons_append, skipSpace_cons hc]
    exact fun h => hne (List.cons.inj h).1
  cases h with
  | element hgap _ hv =>
    rw [List.append_assoc, List.append_assoc]
    exact key hgap hv
  | elements hgap hv _ =>
    rw [List.append_assoc, List.append_assoc]
    exact key hgap hv

theorem Spells.skipSpace_members (h : Spells (.members ms) s) (rest r : List Char) :
    skipSpace (s ++ rest) ≠ '\x7d' :: r := by
  have key {k gap t : List Char} (hgap : IsGap gap) :
      skipSpace (gap ++ (quote k ++ t)) ≠ '\x7d' :: r := by
    rw [skipSpace_append hgap, quote_append, skipSpace_cons (by decide)]
    exact fun h => absurd (List.cons.inj h).1 (by decide)
  cases h with
  | member hgap _ _ _ =>
    rw [List.append_assoc, List.append_assoc]
    exact key hgap
  | members hgap _ _ _ =>
    rw [List.append_assoc, List.append_assoc]
    exact key hgap

/-- By induction on how the text is put together. Each bracket, comma and brace pays for one step of
the reader. -/
theorem Spells.readBack (h : Spells p s) (hn : s.length ≤ n) : p.ReadBack n s := by
  induction h generalizing n with
  | null =>
    obtain ⟨n, rfl⟩ := exists_succ Spells.null hn
    exact fun _ _ => rfl
  | bool b =>
    obtain ⟨n, rfl⟩ := exists_succ (Spells.bool b) hn
    cases b <;> exact fun _ _ => rfl
  | whole m =>
    obtain ⟨n, rfl⟩ := exists_succ (Spells.whole m) hn
    intro rest hrest
    obtain ⟨d, ds, hdigits, hd, -⟩ := exists_cons_toDigits m
    rw [← readNumber_toDigits m hrest, hdigits]
    exact readValue_digit hd n _
  | string s =>
    obtain ⟨n, rfl⟩ := exists_succ (Spells.string s) hn
    exact fun rest _ => readValue_quote n s rest
  | noElements =>
    obtain ⟨n, rfl⟩ := exists_succ Spells.noElements hn
    exact fun _ _ => rfl
  | array hvs ih =>
    obtain ⟨n, rfl⟩ := exists_succ (Spells.array hvs) hn
    intro rest _
    rw [List.cons_append, readValue_bracket (hvs.skipSpace_elements rest),
      ih (Nat.le_of_succ_le_succ hn) rest]
    rfl
  | noMembers =>
    obtain ⟨n, rfl⟩ := exists_succ Spells.noMembers hn
    exact fun _ _ => rfl
  | object hms ih =>
    obtain ⟨n, rfl⟩ := exists_succ (Spells.object hms) hn
    intro rest _
    rw [List.cons_append, readValue_brace (hms.skipSpace_members rest),
      ih (Nat.le_of_succ_le_succ hn) rest]
    rfl
  | @element v gap s gap' hgap hgap' hv ih =>
    obtain ⟨n, rfl⟩ := exists_succ (Spells.element hgap hgap' hv) hn
    intro rest
    simp only [List.append_assoc, List.cons_append, List.nil_append]
    have hstops := stops_gap hgap' (stops_mark (c := ']') (by decide) rest)
    rw [readElements, readValue_gap hgap, ih (by simp at hn; omega) _ hstops]
    simp only [Option.bind_eq_bind, Option.bind_some, skipSpace_append hgap']
    rfl
  | @elements v vs gap s t hgap hv hvs ih ihs =>
    obtain ⟨n, rfl⟩ := exists_succ (Spells.elements hgap hv hvs) hn
    intro rest
    simp only [List.append_assoc, List.cons_append]
    have hstops := stops_mark (c := ',') (by decide) (t ++ rest)
    rw [readElements, readValue_gap hgap, ih (by simp at hn; omega) _ hstops]
    simp only [Option.bind_eq_bind, Option.bind_some, skipSpace_cons (c := ',') (by decide)]
    rw [ihs (by simp at hn; omega) rest]
    rfl
  | @member k v gap colon s gap' hgap hcolon hgap' hv ih =>
    obtain ⟨n, rfl⟩ := exists_succ (Spells.member hgap hcolon hgap' hv) hn
    intro rest
    simp only [List.append_assoc, List.cons_append, List.nil_append]
    have hstops := stops_gap hgap' (stops_mark (c := '\x7d') (by decide) rest)
    rw [readMembers_gap hgap, quote_append, readMembers, skipSpace_cons (by decide)]
    simp only [readString_quote, Option.bind_eq_bind, Option.bind_some,
      skipSpace_cons (c := ':') (by decide)]
    rw [readValue_gap hcolon, ih (by simp at hn; omega) _ hstops]
    simp only [Option.bind_some, skipSpace_append hgap']
    rfl
  | @members k v ms gap colon s t hgap hcolon hv hms ih ihs =>
    obtain ⟨n, rfl⟩ := exists_succ (Spells.members hgap hcolon hv hms) hn
    intro rest
    simp only [List.append_assoc, List.cons_append]
    have hstops := stops_mark (c := ',') (by decide) (t ++ rest)
    rw [readMembers_gap hgap, quote_append, readMembers, skipSpace_cons (by decide)]
    simp only [readString_quote, Option.bind_eq_bind, Option.bind_some,
      skipSpace_cons (c := ':') (by decide)]
    rw [readValue_gap hcolon, ih (by simp at hn; omega) _ hstops]
    simp only [Option.bind_some, skipSpace_cons (c := ',') (by decide)]
    rw [ihs (by simp at hn; omega) rest]
    rfl

/-- What a text spells is what is read of it. -/
theorem Spells.read? (h : Spells (.value v) s) : Json.read? s = some v := by
  have hread := h.readBack (n := 2 * s.length + 2) (by omega) [] stops_nil
  rw [List.append_nil] at hread
  rw [Json.read?, hread]
  rfl

end NetNames.Json
