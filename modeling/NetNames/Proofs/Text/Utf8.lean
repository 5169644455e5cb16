import NetNames.Text.Utf8

/-! Text written as UTF-8 is read back. The first byte of a character fixes how many follow it and
which values the next one may have, and the bytes of a character keep to that. Texts are in the same
order as their bytes. -/
namespace NetNames.Text

/-- The byte begins a character of this value with so many bytes owed, and these six bits may come
next. -/
def begins (b : UInt8) (value owed next : Nat) : Bool :=
  match lead b with
  | .begun p => p.value == value && p.owed == owed && p.low.toNat ≤ next + 128 &&
      next + 128 ≤ p.high.toNat
  | _ => false

theorem begins_two : ∀ m : Fin 32, ∀ k : Fin 64, 2 ≤ m.val →
    begins (UInt8.ofNat (m.val + 192)) m 1 k = true := by
  decide +kernel

/-- Three bytes hold what is too much for two, and no surrogate. -/
theorem begins_three : ∀ m : Fin 16, ∀ k : Fin 64, (m.val = 0 → 32 ≤ k.val) →
    (m.val = 13 → k.val < 32) → begins (UInt8.ofNat (m.val + 224)) m 2 k = true := by
  decide +kernel

/-- Four bytes hold what is too much for three, up to the last plane. -/
theorem begins_four : ∀ m : Fin 5, ∀ k : Fin 64, (m.val = 0 → 16 ≤ k.val) →
    (m.val = 4 → k.val < 16) → begins (UInt8.ofNat (m.val + 240)) m 3 k = true := by
  decide +kernel

/-- A byte in its range adds six bits to the value of the character that is begun. -/
theorem decodeFrom_next {p : Begun} {k : Nat} (hk : k < 64) (hlow : p.low.toNat ≤ k + 128)
    (hhigh : k + 128 ≤ p.high.toNat) (r : List UInt8) :
    decodeFrom (some p) (UInt8.ofNat (k + 128) :: r) =
      if p.owed = 1 then some (Char.ofNat (p.value * 64 + k)) :: decodeFrom none r
      else decodeFrom (some ⟨p.value * 64 + k, p.owed - 1, 0x80, 0xbf⟩) r := by
  have hn : (UInt8.ofNat (k + 128)).toNat = k + 128 := Nat.mod_eq_of_lt (by omega)
  have hrange : (p.low ≤ UInt8.ofNat (k + 128) && UInt8.ofNat (k + 128) ≤ p.high) = true := by
    simp only [Bool.and_eq_true, decide_eq_true_eq, UInt8.le_iff_toNat_le, hn]
    exact ⟨hlow, hhigh⟩
  rw [decodeFrom, if_pos hrange, hn, Nat.add_sub_cancel]
  simp

theorem decodeFrom_tail {value owed k : Nat} (hk : k < 64) (r : List UInt8) :
    decodeFrom (some ⟨value, owed, 0x80, 0xbf⟩) (UInt8.ofNat (k + 128) :: r) =
      if owed = 1 then some (Char.ofNat (value * 64 + k)) :: decodeFrom none r
      else decodeFrom (some ⟨value * 64 + k, owed - 1, 0x80, 0xbf⟩) r := by
  have hlow : (0x80 : UInt8).toNat ≤ k + 128 := Nat.le_add_left 128 k
  have hhigh : k + 128 ≤ (0xbf : UInt8).toNat := Nat.add_le_add_right (Nat.le_of_lt_succ hk) 128
  exact decodeFrom_next hk hlow hhigh r

theorem decodeFrom_begins {b : UInt8} {value owed k : Nat} (h : begins b value owed k = true)
    (hk : k < 64) (r : List UInt8) : decodeFrom none (b :: UInt8.ofNat (k + 128) :: r) =
      if owed = 1 then some (Char.ofNat (value * 64 + k)) :: decodeFrom none r
      else decodeFrom (some ⟨value * 64 + k, owed - 1, 0x80, 0xbf⟩) r := by
  rw [decodeFrom]
  cases hlead : lead b with
  | whole c => simp [begins, hlead] at h
  | fault => simp [begins, hlead] at h
  | begun p =>
    simp only [begins, hlead, Bool.and_eq_true, beq_iff_eq, decide_eq_true_eq] at h
    obtain ⟨⟨⟨rfl, rfl⟩, hlow⟩, hhigh⟩ := h
    exact decodeFrom_next hk hlow hhigh r

/-- The bytes of a character are read as this character, whatever follows them. -/
theorem decodeFrom_utf8EncodeChar (c : Char) (r : List UInt8) :
    decodeFrom none (String.utf8EncodeChar c ++ r) = some c :: decodeFrom none r := by
  have hvalid : c.toNat < 0xd800 ∨ 0xdfff < c.toNat ∧ c.toNat < 0x110000 := c.valid
  have hc : Char.ofNat c.toNat = c := Char.ofNat_toNat c
  have hval : c.val.toNat = c.toNat := rfl
  have hbits (k : Nat) : k % 64 < 64 := Nat.mod_lt k (by decide)
  simp only [String.utf8EncodeChar, hval]
  generalize c.toNat = n at hvalid hc
  split
  · rename_i h
    have hn : (UInt8.ofNat n).toNat = n := Nat.mod_eq_of_lt (by omega)
    have hlead : lead (UInt8.ofNat n) = .whole c := by
      rw [lead, hn, if_pos (by omega), hc]
    rw [List.singleton_append, decodeFrom, hlead]
  split
  · have hbegins := begins_two ⟨n / 64 % 32, by omega⟩ ⟨n % 64, hbits n⟩ (by dsimp only; omega)
    have hvalue : n / 64 % 32 * 64 + n % 64 = n := by omega
    rw [List.cons_append, List.singleton_append, decodeFrom_begins hbegins (hbits n), if_pos rfl,
      hvalue, hc]
  split
  · have hbegins := begins_three ⟨n / 4096 % 16, by omega⟩ ⟨n / 64 % 64, hbits _⟩
      (by dsimp only; omega) (by dsimp only; omega)
    have hvalue : (n / 4096 % 16 * 64 + n / 64 % 64) * 64 + n % 64 = n := by omega
    simp only [List.cons_append, List.nil_append]
    rw [decodeFrom_begins hbegins (hbits _), if_neg (by decide), decodeFrom_tail (hbits _),
      if_pos rfl, hvalue, hc]
  · have hbegins := begins_four ⟨n / 262144 % 8, by omega⟩ ⟨n / 4096 % 64, hbits _⟩
      (by dsimp only; omega) (by dsimp only; omega)
    have hvalue : ((n / 262144 % 8 * 64 + n / 4096 % 64) * 64 + n / 64 % 64) * 64 + n % 64 = n := by
      omega
    simp only [List.cons_append, List.nil_append]
    rw [decodeFrom_begins hbegins (hbits _), if_neg (by decide), decodeFrom_tail (hbits _),
      if_neg (by decide), decodeFrom_tail (hbits _), if_pos rfl, hvalue, hc]

theorem decodeLossy_utf8EncodeChar (c : Char) (r : List UInt8) :
    decodeLossy (String.utf8EncodeChar c ++ r) = c :: decodeLossy r := by
  rw [decodeLossy, decodeFrom_utf8EncodeChar]
  rfl

theorem decodeLossy_encode (s : List Char) : decodeLossy (encode s) = s := by
  induction s with
  | nil => rfl
  | cons c s ih =>
    rw [encode, List.flatMap_cons, decodeLossy_utf8EncodeChar]
    exact congrArg (c :: ·) ih

theorem utf8EncodeChar_ne_nil (c : Char) : String.utf8EncodeChar c ≠ [] := by
  rw [← List.length_pos_iff, String.length_utf8EncodeChar]
  exact c.utf8Size_pos

theorem utf8EncodeChar_of_ascii {c : Char} (h : c.toNat < 0x80) :
    String.utf8EncodeChar c = [UInt8.ofNat c.toNat] :=
  if_pos (Nat.le_of_lt_succ h)

/-- No byte of a character that takes several is that of one that takes one. -/
theorem le_of_mem_utf8EncodeChar {c : Char} (hc : 0x80 ≤ c.toNat) {b : UInt8}
    (h : b ∈ String.utf8EncodeChar c) : 0x80 ≤ b.toNat := by
  have hval : c.val.toNat = c.toNat := rfl
  simp only [String.utf8EncodeChar, hval] at h
  split at h
  · omega
  split at h
  · simp only [List.mem_cons, List.not_mem_nil, or_false] at h
    rcases h with rfl | rfl <;> simp only [UInt8.toNat_ofNat'] <;> omega
  split at h
  · simp only [List.mem_cons, List.not_mem_nil, or_false] at h
    rcases h with rfl | rfl | rfl <;> simp only [UInt8.toNat_ofNat'] <;> omega
  · simp only [List.mem_cons, List.not_mem_nil, or_false] at h
    rcases h with rfl | rfl | rfl | rfl <;> simp only [UInt8.toNat_ofNat'] <;> omega

/-- Bytes compare as the numbers that they are made of. -/
theorem ofNat_cons_lt_iff {a b : Nat} (ha : a < 256) (hb : b < 256) {x y : List UInt8} :
    UInt8.ofNat a :: x < UInt8.ofNat b :: y ↔ a < b ∨ a = b ∧ x < y := by
  rw [List.cons_lt_cons_iff, UInt8.lt_iff_toNat_lt, ← UInt8.toNat_inj, UInt8.toNat_ofNat',
    UInt8.toNat_ofNat', Nat.mod_eq_of_lt ha, Nat.mod_eq_of_lt hb]

/-- Characters are in the order of their bytes, whatever follows them. -/
theorem utf8EncodeChar_lt {c d : Char} (h : c < d) (x y : List UInt8) :
    String.utf8EncodeChar c ++ x < String.utf8EncodeChar d ++ y := by
  have hlt : c.toNat < d.toNat := h
  have hd : d.toNat < 0xd800 ∨ 0xdfff < d.toNat ∧ d.toNat < 0x110000 := d.valid
  have hval (e : Char) : e.val.toNat = e.toNat := rfl
  simp only [String.utf8EncodeChar, hval]
  generalize c.toNat = m at hlt
  generalize d.toNat = n at hlt hd
  have hbyte (k : Nat) : k % 64 + 128 < 256 := by omega
  have htwo (k : Nat) : k % 32 + 192 < 256 := by omega
  have hthree (k : Nat) : k % 16 + 224 < 256 := by omega
  have hfour (k : Nat) : k % 8 + 240 < 256 := by omega
  split
  · have hm : m < 256 := by omega
    split
    · rw [List.singleton_append, List.singleton_append, ofNat_cons_lt_iff hm (by omega)]
      exact .inl hlt
    split
    · rw [List.singleton_append, List.cons_append, ofNat_cons_lt_iff hm (htwo _)]
      omega
    split
    · rw [List.singleton_append, List.cons_append, ofNat_cons_lt_iff hm (hthree _)]
      omega
    · rw [List.singleton_append, List.cons_append, ofNat_cons_lt_iff hm (hfour _)]
      omega
  rw [if_neg (show ¬ n ≤ 127 by omega)]
  split
  · split
    · simp only [List.cons_append, List.nil_append, ofNat_cons_lt_iff (htwo _) (htwo _),
        ofNat_cons_lt_iff (hbyte _) (hbyte _)]
      omega
    split
    · simp only [List.cons_append, ofNat_cons_lt_iff (htwo _) (hthree _)]
      omega
    · simp only [List.cons_append, ofNat_cons_lt_iff (htwo _) (hfour _)]
      omega
  rw [if_neg (show ¬ n ≤ 2047 by omega)]
  split
  · split
    · simp only [List.cons_append, List.nil_append, ofNat_cons_lt_iff (hthree _) (hthree _),
        ofNat_cons_lt_iff (hbyte _) (hbyte _)]
      omega
    · simp only [List.cons_append, ofNat_cons_lt_iff (hthree _) (hfour _)]
      omega
  · rw [if_neg (show ¬ n ≤ 65535 by omega)]
    have hsix (k : Nat) : k / 4096 = k / 64 / 64 ∧ k / 262144 = k / 64 / 64 / 64 := by omega
    simp only [List.cons_append, List.nil_append, ofNat_cons_lt_iff (hfour _) (hfour _),
      ofNat_cons_lt_iff (hbyte _) (hbyte _), hsix]
    omega

/-- Texts are in the order of their bytes. -/
theorem encode_lt {s t : List Char} (h : s < t) : encode s < encode t := by
  induction s generalizing t with
  | nil =>
    cases t with
    | nil => exact absurd h (List.lt_irrefl [])
    | cons d t =>
      obtain ⟨b, bs, hb⟩ := List.exists_cons_of_ne_nil (utf8EncodeChar_ne_nil d)
      rw [encode, encode, List.flatMap_nil, List.flatMap_cons, hb]
      exact List.nil_lt_cons b _
  | cons c s ih =>
    cases t with
    | nil => exact absurd h (List.not_lt_nil _)
    | cons d t =>
      rw [encode, encode, List.flatMap_cons, List.flatMap_cons]
      rcases List.cons_lt_cons_iff.mp h with hcd | ⟨rfl, hst⟩
      · exact utf8EncodeChar_lt hcd _ _
      · exact List.append_left_lt (ih hst)
end NetNames.Text
