import NetNames.Proofs.Directory.Spelling

/-! The one way in which a new entry writes its name. It is among the spellings of the name that are
read back, so that the name can be told from the entry. -/
namespace NetNames.Dn

open Text

variable {start : Bool} {c : Char} {v : List Char}

/-- An escaped value, character by character. -/
def escapeFrom (start : Bool) : List Char → List Char
  | [] => []
  | c :: v => (if isEscaped start v.isEmpty c || c == '\x00' then escaped c else [c]) ++
      escapeFrom false v

theorem isSpecial_eq (c : Char) : isSpecial c = (isReserved c || c == '\x00') := by
  simp only [isSpecial, isReserved, List.contains_cons, List.contains_nil, Bool.or_false,
    Bool.or_assoc]

theorem escapeTail_eq (v : List Char) : escapeTail v = escapeFrom false v := by
  induction v with
  | nil => rfl
  | cons c v ih =>
    cases v with
    | nil =>
      simp [escapeTail, escapeFrom, isEscaped, isSpecial_eq, Bool.or_right_comm]
    | cons d v =>
      have hcons : escapeTail (c :: d :: v) =
          (if isSpecial c then escaped c else [c]) ++ escapeTail (d :: v) := rfl
      rw [hcons, ih, isSpecial_eq]
      simp [escapeFrom, isEscaped]

theorem escapeText_eq (v : List Char) : escapeText v = escapeFrom true v := by
  cases v with
  | nil => rfl
  | cons c v =>
    rw [escapeText, escapeTail_eq, escapeTail_eq]
    split
    · rename_i h
      have hescaped : isEscaped true v.isEmpty c = true := by
        rcases Bool.or_eq_true _ _ ▸ h with h | h <;> simp [isEscaped, h]
      rw [escapeFrom, hescaped, Bool.true_or, if_pos rfl]
    · rename_i h
      obtain ⟨hspace, hsign⟩ := Bool.or_eq_false_iff.mp (Bool.eq_false_iff.mpr h)
      simp only [escapeFrom, isEscaped, hspace, hsign, Bool.false_and]

theorem codes_escaped (hc : c.toNat < 0x80) : Codes (String.utf8EncodeChar c) (escaped c) := by
  have hbyte : (UInt8.ofNat c.toNat).toNat = c.toNat := Nat.mod_eq_of_lt (by omega)
  rw [utf8EncodeChar_of_ascii hc, escaped]
  refine .cons ?_ ?_ .nil
  · rw [hbyte, Text.hexValue?_hexDigit (by omega)]
  · rw [hbyte, Text.hexValue?_hexDigit (by omega)]

theorem toNat_of_escaped {last : Bool} (h : (isEscaped start last c || c == '\x00') = true) :
    c.toNat < 0x80 := by
  rcases Bool.or_eq_true _ _ ▸ h with h | h
  · exact (toNat_of_quoted (reserved_of_isEscaped h)).1
  · rw [beq_iff_eq.mp h]
    decide

theorem spells_escapeFrom (start : Bool) (v : List Char) : Spells start v (escapeFrom start v) := by
  induction v generalizing start with
  | nil => exact .nil
  | cons c v ih =>
    rw [escapeFrom]
    split
    · rename_i h
      exact .coded (codes_escaped (toNat_of_escaped h)) (ih false)
    · rename_i h
      exact .bare (Bool.or_eq_false_iff.mp (Bool.eq_false_iff.mpr h)).1 (ih false)

/-- Every plus sign is written by its digits. -/
theorem plusSafe_escapeFrom (start : Bool) (v : List Char) : PlusSafe (escapeFrom start v) := by
  induction v generalizing start with
  | nil => exact List.isChain_nil
  | cons c v ih =>
    rw [escapeFrom]
    split
    · rename_i h
      exact (codes_escaped (toNat_of_escaped h)).plusSafe_append.mpr (ih false)
    · rename_i h
      have hbare := (Bool.or_eq_false_iff.mp (Bool.eq_false_iff.mpr h)).1
      simp only [isEscaped, Bool.or_eq_false_iff] at hbare
      exact (plusSafe_cons_of_ne (ne_of_not_isReserved hbare.1.1).2.2).mpr (ih false)

/-- A space at the end is written by its digits. -/
theorem getLast?_escapeFrom (start : Bool) (v : List Char) :
    (escapeFrom start v).getLast? ≠ some ' ' := by
  induction v generalizing start with
  | nil => exact nofun
  | cons c v ih =>
    cases v with
    | cons d v =>
      have hne := (spells_escapeFrom false (d :: v)).denotes.ne_nil (List.cons_ne_nil d v)
      rw [escapeFrom, List.getLast?_append_of_ne_nil _ hne]
      exact ih false
    | nil =>
      intro hspace
      rw [escapeFrom, escapeFrom, List.append_nil] at hspace
      split at hspace
      · rename_i h
        have hblank := (codes_escaped (toNat_of_escaped h)).not_isBlank_getLast ' ' hspace
        cases hblank
      · rename_i h
        obtain rfl := Option.some.inj hspace
        simp [isEscaped] at h

/-- What is read back from an escaped value is the value. -/
theorem unescaped_trim_escapeText (hfirst : ∀ c ∈ v.head?, isBlank c = true → c = ' ')
    (hlast : ∀ c ∈ v.getLast?, isBlank c = true → c = ' ') :
    unescaped (trim (escapeText v)) = v := by
  rw [escapeText_eq]
  exact ((spells_escapeFrom true v).unescaped_trim_iff hfirst hlast).mpr
    ⟨getLast?_escapeFrom true v, plusSafe_escapeFrom true v⟩

theorem sealed_escapeText (v : List Char) : Sealed (escapeText v) := by
  rw [escapeText_eq]
  exact (spells_escapeFrom true v).denotes.sealed

end NetNames.Dn

namespace NetNames.Layout

open Text Dn

variable (l : Layout)

theorem toList_entryDn (name : String) : (l.entryDn name).toList =
    (l.schema.nameAttribute.toList ++ '=' :: escapeText name.toList) ++
      ',' :: l.container.toList := by
  simp [entryDn, Dn.escape]

/-- The name of an entry is read back from where the entry stands. -/
theorem firstValue?_entryDn
    (hattr : ∀ c ∈ l.schema.nameAttribute.toList, c ≠ '=' ∧ c ≠ ',' ∧ c ≠ '\\') {name : String}
    (hne : name ≠ "") (hfirst : ∀ c ∈ name.toList.head?, isBlank c = true → c = ' ')
    (hlast : ∀ c ∈ name.toList.getLast?, isBlank c = true → c = ' ') :
    Dn.firstValue? (l.entryDn name) = some name := by
  have hvalue : name.toList ≠ [] := fun hnil => hne (String.toList_eq_nil_iff.mp hnil)
  have hread := (valueText?_eq_some_iff l.container.toList hattr (sealed_escapeText name.toList)
    hvalue).mpr (unescaped_trim_escapeText hfirst hlast)
  rw [Dn.firstValue?, toList_entryDn, hread, Option.map_some, String.ofList_toList]

theorem split_entryDn
    (hattr : ∀ c ∈ l.schema.nameAttribute.toList, c ≠ '=' ∧ c ≠ ',' ∧ c ≠ '\\') (name : String) :
    (Dn.split (l.entryDn name)).2 = trimmed l.container := by
  rw [Dn.split, toList_entryDn, above_of_sealed (sealed_component hattr (sealed_escapeText _)),
    trimmed]

/-- Two upper-cased names are added under two keys. -/
theorem key_entryDn_inj_of_upperCase {a b : String} (ha : upperCase a = a) (hb : upperCase b = b)
    (h : Dn.key (l.entryDn a) = Dn.key (l.entryDn b)) : a = b := by
  have hupper {x : String} (hx : upperCase x = x) : ∀ c ∈ x.toList, upperChar c = [c] := by
    intro c hc
    rw [← hx, upperCase, String.toList_ofList] at hc
    exact upperChar_of_mem_upper hc
  exact l.key_entryDn_inj (hupper ha) (hupper hb) h

end NetNames.Layout
