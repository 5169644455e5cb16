import NetNames.Text.Class
import NetNames.Text.Hex

/-!
Addresses of hosts as numbers: four bytes, or eight groups of hex digits.
-/
namespace NetNames.Address

open Text

/-! Addresses of four bytes. -/

/-- A number with the sign of its base in front of it: `0x` for 16, `0` for 8. -/
def number? (s : List Char) : Option Nat :=
  let inBase (base : Nat) (ds : List Char) : Option Nat :=
    ds.foldlM (fun n d => do
      let v ← hexValue? d
      if v < base then some (n * base + v) else none) 0
  match s with
  | [] => none
  | '0' :: 'x' :: ds | '0' :: 'X' :: ds => inBase 16 ds
  | '0' :: d :: ds => inBase 8 (d :: ds)
  | ds => inBase 10 ds

/-- The parts between the dots; a dot at the end does not count. -/
def parts (s : List Char) : List (List Char) :=
  let ps := s.splitOn '.'
  if 1 < ps.length && ps.getLast? == some [] then ps.dropLast else ps

/-- Whether a name ends as an address does. -/
def endsInNumber (s : List Char) : Bool :=
  (parts s).getLast?.any fun p => (!p.isEmpty && p.all isDigit) || (number? p).isSome

/-- Up to four numbers, each a byte but for the last one, which fills the bytes that are left. -/
def isDotted (s : List Char) : Bool :=
  match ((parts s).mapM number?).map List.reverse with
  | some (last :: bytes) =>
    bytes.length < 4 && bytes.all (· < 256) && last < 0x100000000 >>> (8 * bytes.length)
  | _ => false

/-! Addresses of eight groups. -/

/-- Four decimal bytes without needless zeros. -/
def isQuad (s : List Char) : Bool :=
  let isByte (p : List Char) : Bool :=
    !p.isEmpty && p.all isDigit && (p.length == 1 || p.head? != some '0') &&
      p.length ≤ 3 && Nat.ofDigitChars 10 p 0 < 256
  let ps := s.splitOn '.'
  ps.length == 4 && ps.all isByte

def isGroup (s : List Char) : Bool :=
  1 ≤ s.length && s.length ≤ 4 && s.all fun c => (hexValue? c).isSome

/-- The number of groups between colons. Four bytes may stand at the end for two groups. -/
def groups? (s : List Char) (withQuad : Bool) : Option Nat :=
  let ps := s.splitOn ':'
  if s.isEmpty then some 0
  else if ps.all isGroup then some ps.length
  else if withQuad && ps.dropLast.all isGroup && ps.getLast?.any isQuad then some (ps.length + 1)
  else none

/-- What stands before and behind the first double colon. -/
def cutDouble : List Char → Option (List Char × List Char)
  | [] => none
  | ':' :: ':' :: r => some ([], r)
  | c :: r => (cutDouble r).map fun (before, behind) => (c :: before, behind)

/-- Eight groups, or fewer with a double colon for those that are zero. -/
def isGrouped (s : List Char) : Bool :=
  match cutDouble s with
  | none => groups? s true == some 8
  | some (before, behind) =>
    match groups? before false, groups? behind true with
    | some m, some n => m + n < 8
    | _, _ => false

end NetNames.Address
