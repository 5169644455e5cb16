import NetNames.Server.HostForm
import NetNames.Text.Direction
import NetNames.Text.Hex
import NetNames.Text.Joining
import NetNames.Text.Punycode
import NetNames.Text.Utf8

/-!
Names of hosts: labels between dots, of letters of all scripts. A label that starts with `xn--`
stands for the word that follows in Punycode.
-/
namespace NetNames.HostName

open Text

/-- The bytes of a text in which a percent sign and two hex digits stand for a byte. -/
def bytes : List Char → List UInt8
  | [] => []
  | '%' :: a :: b :: r =>
    match hexValue? a, hexValue? b with
    | some high, some low => UInt8.ofNat (high * 16 + low) :: bytes r
    | _, _ => encode ['%'] ++ bytes (a :: b :: r)
  | c :: r => encode [c] ++ bytes r

/-- Signs that take the vowel from the letter before them; a joiner may follow. -/
def killerRanges : List (Nat × Nat) := [
  (0x94d, 0x94d), (0x9cd, 0x9cd), (0xa4d, 0xa4d), (0xacd, 0xacd), (0xb4d, 0xb4d), (0xbcd, 0xbcd),
  (0xc4d, 0xc4d), (0xccd, 0xccd), (0xd3b, 0xd3c), (0xd4d, 0xd4d), (0xdca, 0xdca), (0xe3a, 0xe3a),
  (0xeba, 0xeba), (0xf84, 0xf84), (0x1039, 0x103a), (0x1714, 0x1715), (0x1734, 0x1734),
  (0x17d2, 0x17d2), (0x1a60, 0x1a60), (0x1b44, 0x1b44), (0x1baa, 0x1bab), (0x1bf2, 0x1bf3),
  (0x2d7f, 0x2d7f), (0xa806, 0xa806), (0xa82c, 0xa82c), (0xa8c4, 0xa8c4), (0xa953, 0xa953),
  (0xa9c0, 0xa9c0), (0xaaf6, 0xaaf6), (0xabed, 0xabed), (0x10a3f, 0x10a3f), (0x11046, 0x11046),
  (0x11070, 0x11070), (0x1107f, 0x1107f), (0x110b9, 0x110b9), (0x11133, 0x11134),
  (0x111c0, 0x111c0), (0x11235, 0x11235), (0x112ea, 0x112ea), (0x1134d, 0x1134d),
  (0x113ce, 0x113d0), (0x11442, 0x11442), (0x114c2, 0x114c2), (0x115bf, 0x115bf),
  (0x1163f, 0x1163f), (0x116b6, 0x116b6), (0x1172b, 0x1172b), (0x11839, 0x11839),
  (0x1193d, 0x1193e), (0x119e0, 0x119e0), (0x11a34, 0x11a34), (0x11a47, 0x11a47),
  (0x11a99, 0x11a99), (0x11c3f, 0x11c3f), (0x11d44, 0x11d45), (0x11d97, 0x11d97),
  (0x11f41, 0x11f42), (0x1612f, 0x1612f)]

/-- Whether each joiner stands where it tells how letters join. `before` is what was read, last
character first. -/
def joinersFit (before : List Char) : List Char → Bool
  | [] => true
  | c :: r =>
    let behindKiller := before.head?.any (isWithin killerRanges ·.toNat)
    let betweenLetters :=
      (before.dropWhile isTransparent).head?.any joinsNext &&
        (r.dropWhile isTransparent).head?.any joinsPrevious
    let fits :=
      match c with
      | '\u200d' => behindKiller
      | '\u200c' => behindKiller || betweenLetters
      | _ => true
    fits && joinersFit (c :: before) r

/-- Whether a word may be a label. -/
def isLabel (s : List Char) : Bool := !s.head?.any isCombining && joinersFit [] s

/-- The word that a label stands for. -/
def word? (label : List Char) : Option (List Char) :=
  match label with
  | 'x' :: 'n' :: '-' :: '-' :: r => do
    let s ← Punycode.decode? r
    if s.all (·.toNat < 0x80) || !s.all HostForm.isSettled || s.contains '.' then none else some s
  | s => some s

/-- The name in its usual form, if it is a name. -/
def ofText? (s : List Char) : Option (List Char) := do
  let name ← HostForm.ofText? (decodeLossy (bytes s))
  let words ← (name.splitOn '.').mapM word?
  if words.all isLabel && (!words.any hasLeftward || words.all isReadable) then some name else none

end NetNames.HostName
