import NetNames.Directory.Dn
import NetNames.Proofs.Text.Utf8

/-! The escapes of a name undone, character by character. Escapes stand for bytes, but each one that
stands for a whole character gives that character whatever follows it, with one exception: a plus
sign after a backslash takes a hex digit that follows it along. -/
namespace NetNames.Dn

open Text

variable {c d : Char} {n : Nat} {s p : List Char} {bs : List UInt8}

/-- What a text with escapes stands for. -/
def unescaped (s : List Char) : List Char := decodeLossy (unescape (encode s))

theorem unescape_cons {b : UInt8} (h : b ≠ backslash) (r : List UInt8) :
    unescape (b :: r) = b :: unescape r := by
  match r with
  | [] => rfl
  | [a] => exact if_neg h
  | _ :: _ :: _ => rw [unescape, if_neg h]

theorem unescape_append (h : ∀ b ∈ bs, b ≠ backslash) (r : List UInt8) :
    unescape (bs ++ r) = bs ++ unescape r := by
  induction bs with
  | nil => rfl
  | cons b bs ih =>
    obtain ⟨hb, hbs⟩ := List.forall_mem_cons.mp h
    rw [List.cons_append, unescape_cons hb, ih hbs, List.cons_append]

theorem unescape_quoted {a : UInt8} {r : List UInt8} (h : ∀ b ∈ r.head?, hexPair? a b = none) :
    unescape (backslash :: a :: r) = a :: unescape r := by
  cases r with
  | nil => rfl
  | cons b r => rw [unescape, if_pos rfl, h b rfl]

theorem unescape_pair {a b v : UInt8} (h : hexPair? a b = some v) (r : List UInt8) :
    unescape (backslash :: a :: b :: r) = v :: unescape r := by
  rw [unescape, if_pos rfl, h]

theorem encode_cons (c : Char) (s : List Char) :
    encode (c :: s) = String.utf8EncodeChar c ++ encode s := rfl

theorem encode_cons_of_ascii (h : c.toNat < 0x80) (s : List Char) :
    encode (c :: s) = UInt8.ofNat c.toNat :: encode s := by
  rw [encode_cons, utf8EncodeChar_of_ascii h]
  rfl

theorem encode_backslash (s : List Char) : encode ('\\' :: s) = backslash :: encode s := rfl

theorem ne_backslash_of_mem (hc : c ≠ '\\') {b : UInt8} (h : b ∈ String.utf8EncodeChar c) :
    b ≠ backslash := by
  rintro rfl
  by_cases hascii : c.toNat < 0x80
  · rw [utf8EncodeChar_of_ascii hascii, List.mem_singleton] at h
    have hn : (UInt8.ofNat c.toNat).toNat = c.toNat := Nat.mod_eq_of_lt (by omega)
    exact hc (Char.toNat_inj.mp (by rw [← hn, ← h]; rfl))
  · exact absurd (le_of_mem_utf8EncodeChar (Nat.le_of_not_lt hascii) h) (by decide)

theorem unescaped_cons (hc : c ≠ '\\') (s : List Char) :
    unescaped (c :: s) = c :: unescaped s := by
  rw [unescaped, encode_cons, unescape_append fun _ => ne_backslash_of_mem hc,
    decodeLossy_utf8EncodeChar]
  rfl

theorem toNat_of_hexValue? (h : Text.hexValue? c = some n) :
    (0x30 ≤ c.toNat ∧ c.toNat ≤ 0x39) ∨ (0x61 ≤ c.toNat ∧ c.toNat ≤ 0x66) ∨
      (0x41 ≤ c.toNat ∧ c.toNat ≤ 0x46) := by
  simp only [Text.hexValue?, Bool.and_eq_true, decide_eq_true_eq, Char.le_def,
    UInt32.le_iff_toNat_le] at h
  split at h
  · left
    assumption
  split at h
  · right; left
    assumption
  split at h
  · right; right
    assumption
  · cases h

theorem hexValue?_ofNat (h : c.toNat < 0x80) :
    hexValue? (UInt8.ofNat c.toNat) = (Text.hexValue? c).map UInt8.ofNat := by
  have key : ∀ m : Fin 0x80,
      hexValue? (UInt8.ofNat m.val) = (Text.hexValue? (Char.ofNat m.val)).map UInt8.ofNat := by
    decide +kernel
  have hc := key ⟨c.toNat, h⟩
  rwa [Char.ofNat_toNat] at hc

theorem hexValue?_of_le {b : UInt8} (h : 0x80 ≤ b.toNat) : hexValue? b = none := by
  have hle (k : UInt8) (hk : k.toNat < 0x80) : decide (b ≤ k) = false := by
    rw [decide_eq_false_iff_not, UInt8.le_iff_toNat_le]
    omega
  simp [hexValue?, hle 0x39 (by decide), hle 0x46 (by decide), hle 0x66 (by decide)]

/-- The first byte of a text is no hex digit if its first character is none. -/
theorem hexValue?_head (hs : ∀ d ∈ s.head?, Text.hexValue? d = none) :
    ∀ b ∈ (encode s).head?, hexValue? b = none := by
  cases s with
  | nil => exact nofun
  | cons d s =>
    intro b hb
    by_cases hascii : d.toNat < 0x80
    · rw [encode_cons_of_ascii hascii, List.head?_cons] at hb
      obtain rfl := Option.some.inj hb
      rw [hexValue?_ofNat hascii, hs d rfl, Option.map_none]
    · rw [encode_cons] at hb
      cases hd : String.utf8EncodeChar d with
      | nil => exact absurd hd (utf8EncodeChar_ne_nil d)
      | cons a bs =>
        rw [hd, List.cons_append, List.head?_cons] at hb
        obtain rfl := Option.some.inj hb
        refine hexValue?_of_le (le_of_mem_utf8EncodeChar (Nat.le_of_not_lt hascii) ?_)
        rw [hd]
        exact List.mem_cons_self

theorem ofNat_ne_plus (hc : c.toNat < 0x80) (h : c ≠ '+') :
    (UInt8.ofNat c.toNat == 0x2b) = false := by
  refine beq_eq_false_iff_ne.mpr fun heq => h ?_
  have hn : (UInt8.ofNat c.toNat).toNat = c.toNat := Nat.mod_eq_of_lt (by omega)
  exact Char.toNat_inj.mp (by rw [← hn, heq]; rfl)

theorem unescaped_quoted (hc : c.toNat < 0x80) (hdigit : Text.hexValue? c = none)
    (hs : c = '+' → ∀ d ∈ s.head?, Text.hexValue? d = none) :
    unescaped ('\\' :: c :: s) = c :: unescaped s := by
  have hpair : ∀ b ∈ (encode s).head?, hexPair? (UInt8.ofNat c.toNat) b = none := by
    intro b hb
    by_cases hplus : c = '+'
    · rw [hexPair?, hexValue?_head (hs hplus) b hb, hplus]
      rfl
    · rw [hexPair?, ofNat_ne_plus hc hplus, hexValue?_ofNat hc, hdigit]
      rfl
  have hdecode := decodeLossy_utf8EncodeChar c (unescape (encode s))
  rw [utf8EncodeChar_of_ascii hc] at hdecode
  rw [unescaped, encode_backslash, encode_cons_of_ascii hc, unescape_quoted hpair]
  exact hdecode

/-- A plus sign and a hex digit after a backslash are read as the number of the digit. -/
theorem unescaped_plus (h : Text.hexValue? d = some n) (s : List Char) :
    unescaped ('\\' :: '+' :: d :: s) = Char.ofNat n :: unescaped s := by
  have hd : d.toNat < 0x80 := by
    have := toNat_of_hexValue? h
    omega
  have hn : n < 0x80 := by
    have key : ∀ m : Fin 0x80, ∀ n ∈ Text.hexValue? (Char.ofNat m.val), n < 0x80 := by
      decide +kernel
    have hlt := key ⟨d.toNat, hd⟩ n
    rw [Char.ofNat_toNat] at hlt
    exact hlt h
  have hchar : (Char.ofNat n).toNat = n := by
    have hvalid : n.isValidChar := .inl (by omega)
    rw [Char.ofNat, dif_pos hvalid]
    rfl
  have hpair : hexPair? (UInt8.ofNat '+'.toNat) (UInt8.ofNat d.toNat) = some (UInt8.ofNat n) := by
    rw [hexPair?, hexValue?_ofNat hd, h]
    simp
  have hdecode := decodeLossy_utf8EncodeChar (Char.ofNat n) (unescape (encode s))
  rw [utf8EncodeChar_of_ascii (by omega), hchar] at hdecode
  rw [unescaped, encode_backslash, encode_cons_of_ascii (by decide), encode_cons_of_ascii hd,
    unescape_pair hpair]
  exact hdecode

/-- Bytes as a backslash and two hex digits each, in upper or in lower case. -/
inductive Codes : List UInt8 → List Char → Prop
  | nil : Codes [] []
  | cons {b : UInt8} {bs : List UInt8} {high low : Char} {p : List Char}
      (hhigh : Text.hexValue? high = some (b.toNat / 16))
      (hlow : Text.hexValue? low = some (b.toNat % 16)) (h : Codes bs p) :
      Codes (b :: bs) ('\\' :: high :: low :: p)

theorem Codes.exists_cons (h : Codes (String.utf8EncodeChar c) p) :
    ∃ high low q, p = '\\' :: high :: low :: q := by
  have hne := utf8EncodeChar_ne_nil c
  generalize String.utf8EncodeChar c = bs at h hne
  cases h with
  | nil => contradiction
  | cons hhigh hlow h => exact ⟨_, _, _, rfl⟩

theorem Codes.unescape_append (h : Codes bs p) (s : List Char) :
    unescape (encode (p ++ s)) = bs ++ unescape (encode s) := by
  induction h with
  | nil => rfl
  | @cons b bs high low p hhigh hlow h ih =>
    have hhigh' := toNat_of_hexValue? hhigh
    have hlow' := toNat_of_hexValue? hlow
    have hplus : high ≠ '+' := by
      rintro rfl
      simp at hhigh'
    have hbyte : UInt8.ofNat (b.toNat / 16) * 16 + UInt8.ofNat (b.toNat % 16) = b := by
      apply UInt8.toNat_inj.mp
      simp only [UInt8.toNat_add, UInt8.toNat_mul, UInt8.toNat_ofNat', UInt8.reduceToNat]
      have := b.toNat_lt
      omega
    have hpair : hexPair? (UInt8.ofNat high.toNat) (UInt8.ofNat low.toNat) = some b := by
      rw [hexPair?, ofNat_ne_plus (by omega) hplus, hexValue?_ofNat (by omega),
        hexValue?_ofNat (by omega), hhigh, hlow]
      simp [hbyte]
    rw [List.cons_append, List.cons_append, List.cons_append, encode_backslash,
      encode_cons_of_ascii (by omega), encode_cons_of_ascii (by omega), unescape_pair hpair, ih,
      List.cons_append]

theorem unescaped_codes (h : Codes (String.utf8EncodeChar c) p) (s : List Char) :
    unescaped (p ++ s) = c :: unescaped s := by
  rw [unescaped, h.unescape_append, decodeLossy_utf8EncodeChar]
  rfl

end NetNames.Dn
