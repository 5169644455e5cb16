import Mathlib.Data.List.Chain
import NetNames.Proofs.Directory.EntryDn
import NetNames.Proofs.Directory.Unescaped

/-! The many ways to write a value into a name, and the one value that is read from each of them.
Two things go wrong: a plus sign that is escaped by itself takes a hex digit after it for the rest of
a pair, and a space that is escaped by itself at the end is trimmed before the escapes are undone. -/
namespace NetNames.Dn

open Text

variable {start : Bool} {c : Char} {v w p t : List Char}

/-- The characters that are escaped wherever they stand. -/
def isReserved (c : Char) : Bool := ['"', '+', ',', ';', '<', '=', '>', '\\'].contains c

/-- Whether a character is escaped at its place in a value: a space at either end is, and a number
sign at the start. -/
def isEscaped (start last : Bool) (c : Char) : Bool :=
  isReserved c || (c == ' ' && (start || last)) || (c == '#' && start)

/-- A text that writes a value. A character that is escaped at its place has a backslash before it,
any other one stands as it is, and every one may be given by the hex digits of its bytes. -/
inductive Spells : Bool → List Char → List Char → Prop
  | nil {start : Bool} : Spells start [] []
  | bare {start : Bool} {c : Char} {v w : List Char} (hc : isEscaped start v.isEmpty c = false)
      (h : Spells false v w) : Spells start (c :: v) (c :: w)
  | quoted {start : Bool} {c : Char} {v w : List Char} (hc : isEscaped start v.isEmpty c = true)
      (h : Spells false v w) : Spells start (c :: v) ('\\' :: c :: w)
  | coded {start : Bool} {c : Char} {v p w : List Char} (hp : Codes (String.utf8EncodeChar c) p)
      (h : Spells false v w) : Spells start (c :: v) (p ++ w)

/-- The same without regard to where in the value a character stands. -/
inductive Denotes : List Char → List Char → Prop
  | nil : Denotes [] []
  | bare {c : Char} {v w : List Char} (hc : isReserved c = false) (h : Denotes v w) :
      Denotes (c :: v) (c :: w)
  | quoted {c : Char} {v w : List Char} (hc : isReserved c = true ∨ c = ' ' ∨ c = '#')
      (h : Denotes v w) : Denotes (c :: v) ('\\' :: c :: w)
  | coded {c : Char} {v p w : List Char} (hp : Codes (String.utf8EncodeChar c) p)
      (h : Denotes v w) : Denotes (c :: v) (p ++ w)

theorem reserved_of_isEscaped {last : Bool} (h : isEscaped start last c = true) :
    isReserved c = true ∨ c = ' ' ∨ c = '#' := by
  simp only [isEscaped, Bool.or_eq_true, Bool.and_eq_true, beq_iff_eq] at h
  rcases h with (h | ⟨h, -⟩) | ⟨h, -⟩
  · exact .inl h
  · exact .inr (.inl h)
  · exact .inr (.inr h)

theorem Spells.denotes (h : Spells start v w) : Denotes v w := by
  induction h with
  | nil => exact .nil
  | bare hc _ ih =>
    simp only [isEscaped, Bool.or_eq_false_iff] at hc
    exact .bare hc.1.1 ih
  | quoted hc _ ih => exact .quoted (reserved_of_isEscaped hc) ih
  | coded hp _ ih => exact .coded hp ih

/-- The characters that a backslash may stand before are no hex digits. -/
theorem toNat_of_quoted (h : isReserved c = true ∨ c = ' ' ∨ c = '#') :
    c.toNat < 0x80 ∧ Text.hexValue? c = none := by
  simp only [isReserved, List.contains_cons, List.contains_nil, Bool.or_false, Bool.or_eq_true,
    beq_iff_eq] at h
  rcases h with (rfl | rfl | rfl | rfl | rfl | rfl | rfl | rfl) | rfl | rfl <;>
    exact ⟨by decide, by decide⟩

theorem ne_of_not_isReserved (h : isReserved c = false) : c ≠ '\\' ∧ c ≠ ',' ∧ c ≠ '+' := by
  refine ⟨?_, ?_, ?_⟩ <;> rintro rfl <;> cases h

theorem ne_of_hexValue? {n : Nat} (h : Text.hexValue? c = some n) :
    c ≠ '\\' ∧ c ≠ ',' ∧ c ≠ '+' ∧ isBlank c = false := by
  refine ⟨?_, ?_, ?_, ?_⟩
  · rintro rfl
    cases h
  · rintro rfl
    cases h
  · rintro rfl
    cases h
  · have hn := toNat_of_hexValue? h
    simp only [isBlank, Bool.or_eq_false_iff, Bool.and_eq_false_iff, beq_eq_false_iff_ne, ne_eq,
      decide_eq_false_iff_not]
    omega

/-- No plus sign has a hex digit after it. -/
def PlusSafe (w : List Char) : Prop := w.IsChain fun a b => a = '+' → Text.hexValue? b = none

instance : DecidablePred PlusSafe := fun w =>
  inferInstanceAs (Decidable (w.IsChain fun a b => a = '+' → Text.hexValue? b = none))

theorem plusSafe_cons : PlusSafe (c :: w) ↔
    (c = '+' → ∀ d ∈ w.head?, Text.hexValue? d = none) ∧ PlusSafe w := by
  cases w with
  | nil => simp [PlusSafe]
  | cons d w =>
    rw [PlusSafe, List.isChain_cons_cons, ← PlusSafe]
    simp

theorem plusSafe_cons_of_ne (hc : c ≠ '+') : PlusSafe (c :: w) ↔ PlusSafe w := by
  rw [plusSafe_cons]
  exact and_iff_right fun h => absurd h hc

theorem Codes.plusSafe_append {bs : List UInt8} (h : Codes bs p) :
    PlusSafe (p ++ w) ↔ PlusSafe w := by
  induction h with
  | nil => exact Iff.rfl
  | cons hhigh hlow _ ih =>
    rw [List.cons_append, List.cons_append, List.cons_append, plusSafe_cons_of_ne (by decide),
      plusSafe_cons_of_ne (ne_of_hexValue? hhigh).2.2.1,
      plusSafe_cons_of_ne (ne_of_hexValue? hlow).2.2.1, ih]

/-- Escapes are undone to the value, or to something shorter where a plus sign takes a digit
along. -/
theorem Denotes.unescaped_append (h : Denotes v w)
    (ht : ∀ d ∈ t.head?, Text.hexValue? d = none) :
    (PlusSafe w → unescaped (w ++ t) = v ++ unescaped t) ∧
      (¬ PlusSafe w → (unescaped (w ++ t)).length < v.length + (unescaped t).length) := by
  induction h with
  | nil => exact ⟨fun _ => rfl, fun h => absurd List.isChain_nil h⟩
  | @bare c v w hc _ ih =>
    obtain ⟨hb, -, hplus⟩ := ne_of_not_isReserved hc
    rw [plusSafe_cons_of_ne hplus, List.cons_append, unescaped_cons hb, List.length_cons,
      List.length_cons]
    exact ⟨fun hw => congrArg _ (ih.1 hw), fun hw => by have := ih.2 hw; omega⟩
  | @quoted c v w hc _ ih =>
    obtain ⟨hascii, hdigit⟩ := toNat_of_quoted hc
    rw [plusSafe_cons_of_ne (by decide), plusSafe_cons, List.cons_append, List.cons_append,
      List.length_cons]
    by_cases hnext : c = '+' → ∀ d ∈ w.head?, Text.hexValue? d = none
    · have hnext' : c = '+' → ∀ d ∈ (w ++ t).head?, Text.hexValue? d = none := by
        intro hplus
        cases w with
        | nil => exact ht
        | cons d w => exact hnext hplus
      rw [unescaped_quoted hascii hdigit hnext', and_iff_right hnext, List.length_cons]
      exact ⟨fun hw => congrArg _ (ih.1 hw), fun hw => by have := ih.2 hw; omega⟩
    · refine ⟨fun hw => absurd hw.1 hnext, fun _ => ?_⟩
      -- The digit is read by itself in what follows, so it takes its place there as well.
      obtain ⟨rfl, htaken⟩ := Classical.not_imp.mp hnext
      push Not at htaken
      obtain ⟨d, hd, hvalue⟩ := htaken
      obtain ⟨n, hn⟩ := Option.ne_none_iff_exists'.mp hvalue
      cases w with
      | nil => cases hd
      | cons d w =>
        obtain rfl := Option.some.inj hd
        have hle : (unescaped (d :: w ++ t)).length ≤ v.length + (unescaped t).length := by
          by_cases hsafe : PlusSafe (d :: w)
          · rw [ih.1 hsafe, List.length_append]
          · exact Nat.le_of_lt (ih.2 hsafe)
        rw [List.cons_append, unescaped_cons (ne_of_hexValue? hn).1, List.length_cons] at hle
        rw [List.cons_append, unescaped_plus hn, List.length_cons]
        omega
  | @coded c v p w hp _ ih =>
    rw [hp.plusSafe_append, List.append_assoc, unescaped_codes hp, List.length_cons,
      List.length_cons]
    exact ⟨fun hw => congrArg _ (ih.1 hw), fun hw => by have := ih.2 hw; omega⟩

theorem sealed_quoted (c : Char) {s : List Char} (hs : Sealed s) : Sealed ('\\' :: c :: s) := by
  intro r
  simp [cut, hs r]

theorem Codes.sealed {bs : List UInt8} (h : Codes bs p) : Sealed p := by
  induction h with
  | nil => exact fun r => rfl
  | cons hhigh hlow _ ih =>
    obtain ⟨hb, hk, -⟩ := ne_of_hexValue? hlow
    exact sealed_quoted _ (sealed_cons hb hk ih)

theorem Denotes.sealed (h : Denotes v w) : Sealed w := by
  induction h with
  | nil => exact fun r => rfl
  | bare hc _ ih =>
    obtain ⟨hb, hk, -⟩ := ne_of_not_isReserved hc
    exact sealed_cons hb hk ih
  | quoted _ _ ih => exact sealed_quoted _ ih
  | coded hp _ ih => exact sealed_append hp.sealed ih

theorem Denotes.ne_nil (h : Denotes v w) (hv : v ≠ []) : w ≠ [] := by
  cases h with
  | nil => contradiction
  | bare => exact List.cons_ne_nil _ _
  | quoted => exact List.cons_ne_nil _ _
  | coded hp _ =>
    obtain ⟨high, low, q, rfl⟩ := hp.exists_cons
    exact List.cons_ne_nil _ _

theorem Codes.not_isBlank_getLast {bs : List UInt8} (h : Codes bs p) :
    ∀ c ∈ p.getLast?, isBlank c = false := by
  induction h with
  | nil => exact nofun
  | @cons b bs high low p hhigh hlow h ih =>
    intro c hc
    rw [List.getLast?_cons_cons, List.getLast?_cons_cons] at hc
    cases p with
    | nil =>
      obtain rfl := Option.some.inj hc
      exact (ne_of_hexValue? hlow).2.2.2
    | cons d p =>
      rw [List.getLast?_cons_cons] at hc
      exact ih c hc

/-- A spelling begins with no blank if the value begins with none but a space. -/
theorem Spells.not_isBlank_head (h : Spells true v w)
    (hfirst : ∀ c ∈ v.head?, isBlank c = true → c = ' ') : ∀ c ∈ w.head?, isBlank c = false := by
  cases h with
  | nil => exact nofun
  | @bare _ c v w hc _ =>
    rintro d ⟨⟩
    by_contra hblank
    obtain rfl := hfirst c rfl (Bool.not_eq_false _ ▸ hblank)
    simp [isEscaped] at hc
  | quoted =>
    rintro d ⟨⟩
    decide
  | coded hp _ =>
    obtain ⟨high, low, q, rfl⟩ := hp.exists_cons
    rintro d ⟨⟩
    decide

/-- The text ends with no blank, or with the space that the value ends with, after a backslash. -/
def Ends (v w : List Char) : Prop :=
  (∀ c ∈ w.getLast?, isBlank c = false) ∨
    ∃ v' w', v = v' ++ [' '] ∧ w = w' ++ ['\\', ' '] ∧ Denotes v' w'

theorem Ends.append (h : Ends v w) (hw : w ≠ [])
    (hp : ∀ v' w', Denotes v' w' → Denotes (c :: v') (p ++ w')) : Ends (c :: v) (p ++ w) := by
  rcases h with hend | ⟨v', w', rfl, rfl, hdenotes⟩
  · left
    rwa [List.getLast?_append_of_ne_nil _ hw]
  · right
    exact ⟨c :: v', p ++ w', rfl, (List.append_assoc _ _ _).symm, hp v' w' hdenotes⟩

theorem Spells.ends (h : Spells start v w)
    (hlast : ∀ c ∈ v.getLast?, isBlank c = true → c = ' ') : Ends v w := by
  induction h with
  | nil => exact .inl nofun
  | @bare start c v w hc h ih =>
    cases v with
    | nil =>
      cases h
      refine .inl ?_
      rintro d ⟨⟩
      by_contra hblank
      obtain rfl := hlast c rfl (Bool.not_eq_false _ ▸ hblank)
      simp [isEscaped] at hc
    | cons x v =>
      rw [List.getLast?_cons_cons] at hlast
      simp only [isEscaped, Bool.or_eq_false_iff] at hc
      exact (ih hlast).append (p := [c]) (h.denotes.ne_nil (List.cons_ne_nil x v))
        fun _ _ => .bare hc.1.1
  | @quoted start c v w hc h ih =>
    cases v with
    | nil =>
      cases h
      by_cases hblank : isBlank c = true
      · obtain rfl := hlast c rfl hblank
        exact .inr ⟨[], [], rfl, rfl, .nil⟩
      · refine .inl ?_
        rintro d ⟨⟩
        exact Bool.eq_false_iff.mpr hblank
    | cons x v =>
      rw [List.getLast?_cons_cons] at hlast
      exact (ih hlast).append (p := ['\\', c]) (h.denotes.ne_nil (List.cons_ne_nil x v))
        fun _ _ => .quoted (reserved_of_isEscaped hc)
  | @coded start c v p w hp h ih =>
    cases v with
    | nil =>
      cases h
      rw [List.append_nil]
      exact .inl hp.not_isBlank_getLast
    | cons x v =>
      rw [List.getLast?_cons_cons] at hlast
      exact (ih hlast).append (h.denotes.ne_nil (List.cons_ne_nil x v)) fun _ _ => .coded hp

theorem sealed_component {a : List Char} (ha : ∀ c ∈ a, c ≠ '=' ∧ c ≠ ',' ∧ c ≠ '\\')
    (hw : Sealed w) : Sealed (a ++ '=' :: w) :=
  sealed_append (sealed_of_plain fun c hc => ⟨(ha c hc).2.2, (ha c hc).2.1⟩)
    (sealed_cons (by decide) (by decide) hw)

/-- The value of a name whose first component cannot be cut short. -/
theorem valueText?_eq_some_iff {a : List Char} (parent : List Char)
    (ha : ∀ c ∈ a, c ≠ '=' ∧ c ≠ ',' ∧ c ≠ '\\')
    (hw : Sealed w) (hv : v ≠ []) :
    valueText? ((a ++ '=' :: w) ++ ',' :: parent) = some v ↔ unescaped (trim w) = v := by
  have hfirst : first ((a ++ '=' :: w) ++ ',' :: parent) = trimStart a ++ '=' :: trimEnd w := by
    rw [first, sealed_component ha hw, trim, cut, if_pos ⟨rfl, rfl⟩, List.append_nil,
      trimStart_append_cons a w (by decide), trimEnd_append_cons _ w (by decide)]
  have hdrop : (trimStart a ++ '=' :: trimEnd w).dropWhile (· != '=') = '=' :: trimEnd w := by
    have hequals : ∀ c ∈ trimStart a, (c != '=') = true := fun c hc =>
      bne_iff_ne.mpr (ha c ((List.dropWhile_sublist _).mem hc)).1
    rw [List.dropWhile_append_of_pos hequals, List.dropWhile_cons_of_neg (by simp)]
  rw [valueText?, hfirst, hdrop, unescaped, ← trim_trimEnd w]
  dsimp only
  cases unescape (encode (trim (trimEnd w))) with
  | nil => simpa [decodeLossy, decodeFrom] using hv.symm
  | cons b bs => exact Option.some_inj

theorem unescaped_backslash : unescaped ['\\'] = ['\\'] := by decide +kernel

/-- What is read from a spelling is the value just if it does not end with a space and has no plus
sign before a hex digit. -/
theorem Spells.unescaped_trim_iff (h : Spells true v w)
    (hfirst : ∀ c ∈ v.head?, isBlank c = true → c = ' ')
    (hlast : ∀ c ∈ v.getLast?, isBlank c = true → c = ' ') :
    unescaped (trim w) = v ↔ w.getLast? ≠ some ' ' ∧ PlusSafe w := by
  have hstart := h.not_isBlank_head hfirst
  rcases h.ends hlast with hend | ⟨v', w', rfl, rfl, hdenotes⟩
  · have hspace : w.getLast? ≠ some ' ' := fun hs => absurd (hend ' ' hs) (by decide)
    obtain ⟨hsafe, hlost⟩ := h.denotes.unescaped_append (t := []) nofun
    rw [List.append_nil, show unescaped [] = [] from rfl] at hsafe hlost
    rw [List.append_nil] at hsafe
    rw [trim_eq_self hstart hend]
    refine ⟨fun heq => ⟨hspace, ?_⟩, fun hw => hsafe hw.2⟩
    by_contra hnot
    exact absurd (congrArg List.length heq) (Nat.ne_of_lt (hlost hnot))
  · have htrim : trim (w' ++ ['\\', ' ']) = w' ++ ['\\'] := by
      have hspace : ∀ c ∈ [' '], isBlank c = true := List.forall_mem_singleton.mpr rfl
      rw [List.append_cons, trim_append_blank hspace]
      refine trim_eq_self (fun c hc => hstart c ?_) fun c hc => ?_
      · cases w' with
        | nil => exact hc
        | cons d w' => exact hc
      · rw [List.getLast?_concat] at hc
        obtain rfl := Option.some.inj hc
        decide
    obtain ⟨hsafe, hlost⟩ := hdenotes.unescaped_append (t := ['\\']) (by simp; decide)
    rw [unescaped_backslash] at hsafe hlost
    rw [htrim]
    constructor
    · intro heq
      by_cases hw : PlusSafe w'
      · have hends := (hsafe hw).symm.trans heq
        simp at hends
      · have hlength := hlost hw
        rw [heq, List.length_append] at hlength
        exact absurd hlength (Nat.lt_irrefl _)
    · rintro ⟨hspace, -⟩
      simp at hspace

/-- However a value is written into a name, the parent is the rest of the name. The value is read
back just if its spelling does not end with a space and has no plus sign before a hex digit. -/
theorem firstValue?_spelled {kind value spelling : String} (parent : String)
    (hkind : ∀ c ∈ kind.toList, c ≠ '=' ∧ c ≠ ',' ∧ c ≠ '\\') (hne : value ≠ "")
    (hfirst : ∀ c ∈ value.toList.head?, isBlank c = true → c = ' ')
    (hlast : ∀ c ∈ value.toList.getLast?, isBlank c = true → c = ' ')
    (h : Spells true value.toList spelling.toList) :
    let dn := kind ++ "=" ++ spelling ++ "," ++ parent
    Dn.parent dn = trimmed parent ∧
      (firstValue? dn = some value ↔
        spelling.toList.getLast? ≠ some ' ' ∧ PlusSafe spelling.toList) := by
  intro dn
  have hdn : dn.toList =
      (kind.toList ++ '=' :: spelling.toList) ++ ',' :: parent.toList := by simp [dn]
  have hvalue : value.toList ≠ [] := fun hnil => hne (String.toList_eq_nil_iff.mp hnil)
  constructor
  · rw [Dn.parent, split, hdn, above_of_sealed (sealed_component hkind h.denotes.sealed), trimmed]
  · have hiff := valueText?_eq_some_iff parent.toList hkind h.denotes.sealed hvalue
    rw [← h.unescaped_trim_iff hfirst hlast, ← hiff, firstValue?, hdn, Option.map_eq_some_iff]
    constructor
    · rintro ⟨v, hv, rfl⟩
      rwa [String.toList_ofList]
    · exact fun hv => ⟨_, hv, String.ofList_toList⟩

/-- A number sign, a comma and a letter of two bytes, with the digits in either case. -/
theorem buoy_spelled :
    let dn := " cn=\\#7\\,\\c3\\8Ax,dc=x"
    Spells true "#7,Êx".toList "\\#7\\,\\c3\\8Ax".toList ∧
      Dn.parent dn = "dc=x" ∧ firstValue? dn = some "#7,Êx" := by
  intro dn
  have hletter : Codes (String.utf8EncodeChar 'Ê') ['\\', 'c', '3', '\\', '8', 'A'] :=
    .cons (by decide) (by decide) (.cons (by decide) (by decide) .nil)
  have hspells : Spells true ['#', '7', ',', 'Ê', 'x'] "\\#7\\,\\c3\\8Ax".toList :=
    .quoted rfl (.bare rfl (.quoted rfl (.coded hletter (.bare rfl .nil))))
  have hkind : ∀ c ∈ " cn".toList, c ≠ '=' ∧ c ≠ ',' ∧ c ≠ '\\' := by simp
  have hne : "#7,Êx" ≠ "" := by decide
  have hread :=
    firstValue?_spelled "dc=x" hkind hne (by simp [isBlank]) (by simp [isBlank]) hspells
  exact ⟨hspells, hread.1, hread.2.mpr (by decide)⟩

/-- A plus sign that is escaped by itself and a hex digit after it are read as one byte. -/
theorem not_forall_spelled : ¬ ∀ kind value spelling parent : String,
    (∀ c ∈ kind.toList, c ≠ '=' ∧ c ≠ ',' ∧ c ≠ '\\') → value ≠ "" →
    (∀ c ∈ value.toList.head?, isBlank c = true → c = ' ') →
    (∀ c ∈ value.toList.getLast?, isBlank c = true → c = ' ') →
    Spells true value.toList spelling.toList →
      let dn := kind ++ "=" ++ spelling ++ "," ++ parent
      Dn.parent dn = trimmed parent ∧ firstValue? dn = some value := by
  intro h
  have hspells : Spells true ['A', '+', 'B'] "A\\+B".toList :=
    .bare rfl (.quoted rfl (.bare rfl .nil))
  have hread := (h "cn" "A+B" "A\\+B" "dc=x" (by simp) (by decide) (by simp [isBlank])
    (by simp [isBlank]) hspells).2
  exact absurd hread (by decide +kernel)

end NetNames.Dn
