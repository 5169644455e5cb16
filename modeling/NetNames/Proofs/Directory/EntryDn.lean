import NetNames.Alias
import NetNames.Directory.Store
import NetNames.Directory.Layout
import NetNames.Proofs.Text.Capitals
import NetNames.Proofs.Text.Trim

/-! The names under which services are added. Each lies one level below the container, and two
upper-cased services have different keys, although keys ignore case and escapes are lower case. -/
namespace NetNames.Dn
open Text

/-- A text that writes a value: its characters in order, each as it is or escaped. -/
inductive Writes : List Char → List Char → Prop
  | nil : Writes [] []
  | plain {c : Char} {v w : List Char} (hb : c ≠ '\\') (hk : c ≠ ',') (h : Writes v w) :
      Writes (c :: v) (c :: w)
  | escaped {c : Char} {v w : List Char} (hc : c.toNat < 0x80) (h : Writes v w) :
      Writes (c :: v) (escaped c ++ w)

private theorem toNat_of_isSpecial {c : Char} (h : isSpecial c = true) : c.toNat < 0x80 := by
  simp only [isSpecial, List.contains_cons, List.contains_nil, Bool.or_false, Bool.or_eq_true,
    beq_iff_eq] at h
  rcases h with rfl | rfl | rfl | rfl | rfl | rfl | rfl | rfl | rfl <;> decide

private theorem ne_of_not_isSpecial {c : Char} (h : isSpecial c = false) : c ≠ '\\' ∧ c ≠ ',' := by
  constructor <;> rintro rfl <;> exact absurd h (by decide)

private theorem writes_cons {c : Char} {v w : List Char} (h : Writes v w) :
    Writes (c :: v) ((if isSpecial c then Dn.escaped c else [c]) ++ w) := by
  split
  · rename_i hs
    exact .escaped (toNat_of_isSpecial hs) h
  · rename_i hs
    obtain ⟨hb, hk⟩ := ne_of_not_isSpecial (Bool.eq_false_iff.mpr hs)
    exact .plain hb hk h

private theorem writes_escapeTail (v : List Char) : Writes v (escapeTail v) := by
  fun_induction escapeTail v with
  | case1 => exact .nil
  | case2 c h =>
    have hc : c.toNat < 0x80 := by
      rcases Bool.or_eq_true _ _ ▸ h with hs | hs
      · exact toNat_of_isSpecial hs
      · rw [beq_iff_eq.mp hs]
        decide
    simpa using Writes.escaped hc .nil
  | case3 c h =>
    obtain ⟨hb, hk⟩ := ne_of_not_isSpecial (Bool.or_eq_false_iff.mp (Bool.eq_false_iff.mpr h)).1
    exact .plain hb hk .nil
  | case4 c r _ ih => exact writes_cons ih

theorem writes_escapeText (v : List Char) : Writes v (escapeText v) := by
  cases v with
  | nil => exact .nil
  | cons c v =>
    rw [escapeText]
    split
    · rename_i h
      refine .escaped ?_ (writes_escapeTail v)
      rcases Bool.or_eq_true _ _ ▸ h with hs | hs <;> rw [beq_iff_eq.mp hs] <;> decide
    · exact writes_escapeTail (c :: v)

private theorem hexDigit_plain {n : Nat} (h : n < 16) :
    (hexDigit n).toLower = hexDigit n ∧ hexDigit n ≠ '\\' ∧ hexDigit n ≠ ',' := by
  have key : ∀ m : Fin 16, (hexDigit m.val).toLower = hexDigit m.val ∧
      hexDigit m.val ≠ '\\' ∧ hexDigit m.val ≠ ',' := by decide
  exact key ⟨n, h⟩

private theorem hexDigit_inj {m n : Nat} (hm : m < 16) (hn : n < 16)
    (h : hexDigit m = hexDigit n) : m = n := by
  have hv := congrArg Text.hexValue? h
  rwa [hexValue?_hexDigit hm, hexValue?_hexDigit hn, Option.some_inj] at hv

private theorem lower_escaped {c : Char} (hc : c.toNat < 0x80) :
    lower (Dn.escaped c) = Dn.escaped c := by
  obtain ⟨hh, -, -⟩ := hexDigit_plain (n := c.toNat / 16) (by omega)
  obtain ⟨hl, -, -⟩ := hexDigit_plain (n := c.toNat % 16) (by omega)
  simp only [Dn.escaped, lower_cons, hh, hl, lower_nil]
  rfl

private theorem escaped_inj {c d : Char} (hc : c.toNat < 0x80) (hd : d.toNat < 0x80)
    {v w : List Char} (h : Dn.escaped c ++ v = Dn.escaped d ++ w) : c = d ∧ v = w := by
  simp only [Dn.escaped, List.cons_append, List.nil_append, List.cons.injEq, true_and] at h
  obtain ⟨hh, hl, rfl⟩ := h
  have hhigh := hexDigit_inj (by omega) (by omega) hh
  have hlow := hexDigit_inj (by omega) (by omega) hl
  exact ⟨Char.toNat_inj.mp (by omega), rfl⟩

/-- Lower-casing brings in neither of the two characters that a name is cut by. -/
theorem eq_of_toLower {c x : Char} (hx : x = '\\' ∨ x = ',') (h : c.toLower = x) :
    c = x := by
  have hn := congrArg Char.toNat h
  rw [toNat_toLower] at hn
  apply Char.toNat_inj.mp
  rcases hx with rfl | rfl
  all_goals
    simp only [Char.reduceToNat] at hn ⊢
    split at hn <;> omega

/-- Case is the only thing that lower-casing what writes a value can lose. -/
theorem Writes.lower_inj {a b v w : List Char} (ha : Writes a v) (hb : Writes b w)
    (hal : ∀ c ∈ a, c.isLower = false) (hbl : ∀ c ∈ b, c.isLower = false)
    (h : lower v = lower w) : a = b := by
  induction ha generalizing b w with
  | nil =>
    cases hb with
    | nil => rfl
    | plain => simp at h
    | escaped => simp [Dn.escaped] at h
  | @plain c a v hc hk ha ih =>
    cases hb with
    | nil => simp at h
    | @plain d b w _ _ hb =>
      obtain ⟨hcd, hvw⟩ := List.cons.inj (lower_cons .. ▸ lower_cons .. ▸ h)
      rw [toLower_inj (hal c List.mem_cons_self) (hbl d List.mem_cons_self) hcd,
        ih hb (fun x hx => hal x (List.mem_cons_of_mem c hx))
          (fun x hx => hbl x (List.mem_cons_of_mem d hx)) hvw]
    | @escaped d b w hd hb =>
      simp only [Dn.escaped, List.cons_append, lower_cons, List.cons.injEq] at h
      exact absurd (eq_of_toLower (.inl rfl) h.1) hc
  | @escaped c a v hc ha ih =>
    cases hb with
    | nil => simp [Dn.escaped] at h
    | @plain d b w hd _ hb =>
      simp only [Dn.escaped, List.cons_append, lower_cons, List.cons.injEq] at h
      exact absurd (eq_of_toLower (.inl rfl) h.1.symm) hd
    | @escaped d b w hd hb =>
      rw [lower_append, lower_append, lower_escaped hc, lower_escaped hd] at h
      obtain ⟨rfl, hvw⟩ := escaped_inj hc hd h
      rw [ih hb (fun x hx => hal x (List.mem_cons_of_mem c hx))
        (fun x hx => hbl x (List.mem_cons_of_mem c hx)) hvw]

/-- No comma of the text can cut a name, and no backslash of it escapes what follows. -/
def Sealed (s : List Char) : Prop :=
  ∀ t, cut false (s ++ t) = (s ++ (cut false t).1, (cut false t).2)

theorem sealed_append {s t : List Char} (hs : Sealed s) (ht : Sealed t) :
    Sealed (s ++ t) := by
  intro r
  rw [List.append_assoc, hs, ht]
  simp

theorem sealed_cons {c : Char} {s : List Char} (hb : c ≠ '\\') (hk : c ≠ ',')
    (hs : Sealed s) : Sealed (c :: s) := by
  intro r
  simp [cut, beq_eq_false_iff_ne.mpr hb, hk, hs r]

theorem sealed_of_plain {s : List Char} (h : ∀ c ∈ s, c ≠ '\\' ∧ c ≠ ',') : Sealed s := by
  induction s with
  | nil => exact fun r => rfl
  | cons c s ih =>
    obtain ⟨hb, hk⟩ := h c List.mem_cons_self
    exact sealed_cons hb hk (ih fun d hd => h d (List.mem_cons_of_mem c hd))

private theorem sealed_escaped (c : Char) : Sealed (Dn.escaped c) := by
  obtain ⟨-, hlb, hlk⟩ := hexDigit_plain (n := c.toNat % 16) (by omega)
  intro r
  simp [Dn.escaped, cut, beq_eq_false_iff_ne.mpr hlb, hlk]

theorem Writes.sealed_lower {v w : List Char} (h : Writes v w) : Sealed (lower w) := by
  induction h with
  | nil => exact fun r => rfl
  | plain hb hk _ ih =>
    exact sealed_cons (fun he => hb (eq_of_toLower (.inl rfl) he))
      (fun he => hk (eq_of_toLower (.inr rfl) he)) ih
  | escaped hc _ ih =>
    rw [lower_append, lower_escaped hc]
    exact sealed_append (sealed_escaped _) ih

theorem above_of_sealed {s : List Char} (h : Sealed s) (t : List Char) :
    above (s ++ ',' :: t) = trim t := by
  simp [above, h (',' :: t), cut]

private theorem length_cut_lt (e : Bool) {s r : List Char} (h : (cut e s).2 = some r) :
    r.length < s.length := by
  induction s generalizing e with
  | nil => simp [cut] at h
  | cons c s ih =>
    rw [cut] at h
    split at h
    · cases h
      exact Nat.lt_succ_self _
    · exact Nat.lt_succ_of_lt (ih _ h)

theorem eq_nil_of_length_above {s : List Char} (h : s.length ≤ (above s).length) :
    s = [] := by
  rw [above] at h
  cases hc : (cut false s).2 with
  | none =>
    rw [hc] at h
    exact List.length_eq_zero_iff.mp (Nat.le_zero.mp h)
  | some r =>
    have hr := length_cut_lt false hc
    have ht := length_trim_le r
    rw [hc, Option.getD_some] at h
    omega

/-- The blank name is the only one that lies one level below itself. -/
theorem keyText_eq_nil_of_above {s : List Char} (h : keyText (above s) = s) : s = [] := by
  apply eq_nil_of_length_above
  have ht := length_trim_le (above s)
  have hl : (keyText (above s)).length = (trim (above s)).length := List.length_map _
  rw [h] at hl
  omega

end NetNames.Dn

namespace NetNames
open Text Dn

/-- A container that lies one level below itself has a blank name. -/
theorem Scope.key_eq_empty_of_reaches {base dn : String}
    (h : Scope.oneLevel.reaches base dn = true) (hk : Dn.key dn = Dn.key base) :
    Dn.key base = "" := by
  have hk' : keyText dn.toList = keyText base.toList := String.ofList_inj.mp hk
  have hp : keyText (above (keyText base.toList)) = keyText base.toList := by
    simpa [Scope.reaches, hk'] using h
  rw [Dn.key, keyText_eq_nil_of_above hp]

namespace Layout
variable (l : Layout)

theorem keyText_entryDn (name : String) :
    keyText (l.entryDn name).toList =
      (lower (trimStart l.schema.nameAttribute.toList) ++ '=' :: lower (escapeText name.toList)) ++
        ',' :: lower (trimEnd l.container.toList) := by
  have ht : (l.entryDn name).toList = (l.schema.nameAttribute.toList ++
      '=' :: escapeText name.toList) ++ ',' :: l.container.toList := by
    simp [entryDn, String.toList_append, Dn.escape]
  have hs : trimStart (l.entryDn name).toList = (trimStart l.schema.nameAttribute.toList ++
      '=' :: escapeText name.toList) ++ ',' :: l.container.toList := by
    rw [ht, List.append_assoc, List.cons_append, trimStart_append_cons _ _ (by decide),
      List.append_assoc, List.cons_append]
  rw [keyText, trim, hs, trimEnd_append_cons _ _ (by decide), lower_append, lower_append]
  rfl

/-- New entries lie one level below the container if the name attribute has no separator. -/
theorem key_entryDn_ne_empty (name : String) : Dn.key (l.entryDn name) ≠ "" := by
  intro h
  have hk := String.ofList_inj.mp (h.trans String.ofList_nil.symm)
  rw [keyText_entryDn] at hk
  simp at hk

theorem reaches_entryDn (hn : ∀ c ∈ l.schema.nameAttribute.toList, c ≠ '\\' ∧ c ≠ ',')
    (name : String) : Scope.oneLevel.reaches l.container (l.entryDn name) = true := by
  have hattr : Sealed (lower (trimStart l.schema.nameAttribute.toList)) := by
    refine sealed_of_plain fun c hc => ?_
    obtain ⟨d, hd, rfl⟩ := List.mem_map.mp hc
    obtain ⟨hb, hk⟩ := hn d ((List.dropWhile_suffix _).subset hd)
    exact ⟨fun he => hb (eq_of_toLower (.inl rfl) he), fun he => hk (eq_of_toLower (.inr rfl) he)⟩
  have hfirst := sealed_append hattr
    (sealed_cons (by decide) (by decide) (writes_escapeText name.toList).sealed_lower : Sealed
      ('=' :: lower (escapeText name.toList)))
  have hparent : keyText (above (keyText (l.entryDn name).toList)) =
      keyText l.container.toList := by
    rw [keyText_entryDn, above_of_sealed hfirst, keyText, trim_trim, trim_lower, lower_lower,
      trim_trimEnd, keyText]
  simpa [Scope.reaches] using hparent

/-- Two services whose names upper-casing keeps are added under two keys. -/
theorem key_entryDn_inj {a b : String} (ha : ∀ c ∈ a.toList, upperChar c = [c])
    (hb : ∀ c ∈ b.toList, upperChar c = [c])
    (h : Dn.key (l.entryDn a) = Dn.key (l.entryDn b)) : a = b := by
  have hk := String.ofList_inj.mp h
  rw [keyText_entryDn, keyText_entryDn] at hk
  have hw : lower (escapeText a.toList) = lower (escapeText b.toList) := by
    simpa using hk
  have hab : a.toList = b.toList := (writes_escapeText a.toList).lower_inj
    (writes_escapeText b.toList) (fun c hc => isLower_of_upperChar (ha c hc))
    (fun c hc => isLower_of_upperChar (hb c hc)) hw
  exact String.toList_inj.mp hab

end Layout

namespace Alias

theorem upperChar_of_mem_qualified {name domain : String} {c : Char}
    (h : c ∈ (qualified name domain).toList) : upperChar c = [c] := by
  rw [qualified] at h
  split at h
  · rw [String.toList_ofList] at h
    exact upperChar_of_mem_upper h
  · rw [String.toList_ofList, List.mem_append, List.mem_cons] at h
    rcases h with h | rfl | h
    · exact upperChar_of_mem_upper h
    · decide
    · exact upperChar_of_mem_upper h

/-- The name that an alias stands for is upper-cased already. -/
theorem upperCase_qualified (name domain : String) :
    upperCase (qualified name domain) = qualified name domain := by
  rw [upperCase, upper_eq_self fun c hc => upperChar_of_mem_qualified hc, String.ofList_toList]

end Alias

/-- Entries for different qualified names stand under different keys. -/
theorem Layout.qualified_inj {l : Layout} {a b domain : String}
    (h : Dn.key (l.entryDn (Alias.qualified a domain)) =
      Dn.key (l.entryDn (Alias.qualified b domain))) :
    Alias.qualified a domain = Alias.qualified b domain :=
  l.key_entryDn_inj (fun _ hc => Alias.upperChar_of_mem_qualified hc)
    (fun _ hc => Alias.upperChar_of_mem_qualified hc) h

end NetNames
