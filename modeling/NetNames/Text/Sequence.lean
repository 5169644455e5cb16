import NetNames.Text.Emoji
import NetNames.Text.Joining
import NetNames.Text.Width

/-!
The columns that a text takes. Most characters take their own width whatever stands around them;
emoji sequences and ligatures of letters take the width of one sign. A text is read from its end,
and every character is told what follows it.
-/
namespace NetNames.Text

/-- Letters that form a ligature with letters before them. -/
inductive Joint where
  | alef
  | lamed
  | khmerLetter
  | ya | voweledYa
  | tifinagh | joinedTifinagh
  | toneLetter
  | orkhonI
deriving DecidableEq, Repr

/-- What a character may combine with behind it. `joined` tells that a joiner stands between. -/
inductive Tail where
  | plain
  | lineFeed
  | letter (j : Joint) (joined : Bool)
  | vowelE | vowelAi
  | skinTone
  | flagLetter | flagLetters
  | picture
  | joinedPicture
  | joinedKeycap
  | joinedFlagLetter | joinedFlags | joinedFlagsAndLetter
  | joinedTags (letters digits : Nat)
deriving DecidableEq, Repr

/-- What stands behind a character: a tail, and in front of it perhaps a selector. -/
structure Following where
  tail : Tail
  form : Option Form
deriving DecidableEq, Repr

namespace Following

def plain : Following := ⟨.plain, none⟩

end Following

namespace Joint

private def isKhmerLetter (n : Nat) : Bool :=
  isWithin [(0x1780, 0x1782), (0x1784, 0x1787), (0x1789, 0x178c), (0x178e, 0x1793),
    (0x1795, 0x1798), (0x179b, 0x179d), (0x17a0, 0x17a0), (0x17a2, 0x17a2), (0x17a7, 0x17a7),
    (0x17ab, 0x17ac), (0x17af, 0x17af)] n

def isTifinagh (n : Nat) : Bool := (0x2d31 ≤ n && n ≤ 0x2d65) || n == 0x2d6f

/-- The letters to which letters before them may join. -/
def of? (c : Char) : Option Joint :=
  let n := c.toNat
  if isAlef c then some .alef
  else if n = 0x5dc then some .lamed
  else if isKhmerLetter n then some .khmerLetter
  else if n = 0x1a10 then some .ya
  else if isTifinagh n then some .tifinagh
  else if n = 0xa4fc || n = 0xa4fd then some .toneLetter
  else if n = 0x10c03 then some .orkhonI
  else none

/-- The columns of a character in front of the letter and the tail that the two make. -/
def join? (j : Joint) (joined : Bool) (c : Char) : Option (Int × Tail) :=
  let n := c.toNat
  match j, joined with
  | .alef, _ =>
    if isLam c then some (0, .plain)
    else if isTransparent c && charWidth c == 0 then some (0, .letter .alef joined)
    else none
  | .lamed, true => if n = 0x5d0 then some (0, .plain) else none
  | .khmerLetter, _ => if n = 0x17d2 then some (-1, .plain) else none
  | .ya, true => if n = 0x1a17 then some (0, .letter .voweledYa true) else none
  | .voweledYa, _ => if n = 0x1a15 then some (0, .plain) else none
  | .tifinagh, joined =>
    if n = 0x2d7f then some (1, .letter .joinedTifinagh true)
    else if joined && isTifinagh n then some (0, .plain)
    else none
  | .joinedTifinagh, _ => if isTifinagh n then some (-1, .plain) else none
  | .toneLetter, _ => if 0xa4f8 ≤ n && n ≤ 0xa4fb then some (0, .plain) else none
  | .orkhonI, true => if n = 0x10c32 then some (0, .plain) else none
  | _, _ => none

end Joint

namespace Tail

/-- The tail that a character makes by itself. -/
def of (c : Char) : Tail :=
  match c.toNat with
  | 0x16d67 => .vowelE
  | 0x16d68 => .vowelAi
  | _ =>
    if isSkinTone c then .skinTone
    else if isFlagLetter c then .flagLetter
    else if isPicture c then .picture
    else match Joint.of? c with
      | some j => .letter j false
      | none => .plain

/-- The tail that is left behind a selector for this form. -/
def behind (t : Tail) (f : Form) : Tail :=
  match t, f with
  | .letter j joined, _ => .letter j joined
  | .joinedPicture, .picture => .joinedPicture
  | .joinedKeycap, .picture => .joinedKeycap
  | _, _ => .plain

def isLetter : Tail → Bool
  | .letter _ _ => true
  | _ => false

private def isJoiner (c : Char) : Bool := c.toNat == 0x200d

/-- Marks that may stand inside a ligature without breaking it. -/
private def isFiller (c : Char) : Bool := isMark c && isIgnorable c && c.toNat != 0x200c

/-- Letters and digits of a region before the end of its tags, read backwards. -/
private def joinTags? (letters digits : Nat) (c : Char) : Option (Int × Tail) :=
  if isTagLetter c && digits = 0 && letters < 6 then some (0, .joinedTags (letters + 1) 0)
  else if isTagDigit c && (digits != 0 || letters < 5) && digits < 3 then
    some (0, .joinedTags letters (digits + 1))
  else if c.toNat = 0x1f3f4 && (digits = 3 || (digits = 0 && 3 ≤ letters)) then
    some (0, .picture)
  else none

/-- The columns of a character in front of the tail and the tail that the two make, if the
character combines with it. -/
def join? (t : Tail) (c : Char) : Option (Int × Tail) :=
  let n := c.toNat
  match t with
  | .letter .alef joined => Joint.alef.join? joined c
  | .letter j joined =>
    if isJoiner c then some (0, .letter j true)
    else if isFiller c then some (0, .letter j joined)
    else j.join? joined c
  | .vowelE =>
    if n = 0x16d63 || n = 0x16d69 then some (0, .plain)
    else if n = 0x16d67 then some (0, .vowelAi)
    else if n = 0x16d68 then some (1, .vowelE)
    else none
  | .vowelAi => if n = 0x16d63 then some (0, .plain) else none
  | .skinTone =>
    if isBody c then some (0, .picture)
    else if isJoiner c then some (0, .joinedPicture)
    else none
  | .flagLetter => if isFlagLetter c then some (1, .flagLetters) else none
  | .flagLetters =>
    if isFlagLetter c then some (1, .flagLetters)
    else if isJoiner c then some (0, .joinedPicture)
    else none
  | .picture => if isJoiner c then some (0, .joinedPicture) else none
  | .joinedPicture =>
    if n = 0x20e3 then some (0, .joinedKeycap)
    else if isFlagLetter c then some (1, .joinedFlagLetter)
    else if isSkinTone c then some (0, .skinTone)
    else if n = 0xe007f then some (0, .joinedTags 0 0)
    else if isPicture c then some (0, .picture)
    else none
  | .joinedFlagLetter | .joinedFlagsAndLetter =>
    if isFlagLetter c then some (-1, .joinedFlags) else none
  | .joinedFlags =>
    if isFlagLetter c then some (3, .joinedFlagsAndLetter)
    else if isJoiner c then some (0, .joinedPicture)
    else none
  | .joinedTags letters digits => joinTags? letters digits c
  | .plain | .lineFeed | .joinedKeycap => none

end Tail

/-- The columns that a character adds to what follows it, and what the two are to the character
before them. -/
def addColumns (c : Char) (next : Following) : Int × Following :=
  let styled := next.form == some .picture
  if styled && isStyled c then
    (if next.tail == .joinedPicture || next.tail == .joinedKeycap then 0 else 2, ⟨.picture, none⟩)
  else
    let tail := if styled && !next.tail.isLetter then .plain else next.tail
    if c.toNat ≤ 0xa0 then
      if c = '\n' then (1, ⟨.lineFeed, none⟩)
      else (if c = '\r' && tail == .lineFeed then 0 else 1, .plain)
    else match form? c with
      | some f => (0, ⟨tail.behind f, some f⟩)
      | none =>
        if next.form == some .symbol && narrowsAsSymbol c then (1, .plain)
        else match tail.join? c with
          | some (n, t) => (n, ⟨t, none⟩)
          | none => (charWidth c, ⟨.of c, none⟩)

/-- The columns of a text. -/
def width (s : List Char) : Nat :=
  (s.foldr (fun c (n, next) => let (k, next) := addColumns c next; (n + k, next))
    ((0 : Int), Following.plain)).1.toNat

end NetNames.Text
