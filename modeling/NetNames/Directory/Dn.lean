import NetNames.Text.Class
import NetNames.Text.Hex
import NetNames.Text.Utf8

/-!
Distinguished names: the first component and the parent, the value of the first component, and the
escapes that write a value into a name or into a search filter.
-/
namespace NetNames.Dn

open Text

/-- The text before the first comma that no backslash escapes, and the text after it. -/
def cut (escaped : Bool) : List Char → List Char × Option (List Char)
  | [] => ([], none)
  | c :: r =>
    if c = ',' ∧ escaped = false then ([], some r)
    else
      let (first, rest) := cut (c == '\\' && !escaped) r
      (c :: first, rest)

def first (dn : List Char) : List Char := trim (cut false dn).1
def above (dn : List Char) : List Char := trim ((cut false dn).2.getD [])

/-- The first component and the parent, both trimmed. -/
def split (dn : String) : String × String :=
  (String.ofList (first dn.toList), String.ofList (above dn.toList))

def parent (dn : String) : String := (split dn).2

/-- Names that differ in ASCII case or in blanks around them have the same key. -/
def keyText (dn : List Char) : List Char := lower (trim dn)
def key (dn : String) : String := String.ofList (keyText dn.toList)

def hexValue? (b : UInt8) : Option UInt8 :=
  if 0x30 ≤ b && b ≤ 0x39 then some (b - 0x30)
  else if 0x41 ≤ b && b ≤ 0x46 then some (b - 0x37)
  else if 0x61 ≤ b && b ≤ 0x66 then some (b - 0x57)
  else none

/-- The byte of two hex digits; a plus sign may stand for a leading zero. -/
def hexPair? (a b : UInt8) : Option UInt8 := do
  let high ← if a == 0x2b then some 0 else hexValue? a
  let low ← hexValue? b
  some (high * 16 + low)

def backslash : UInt8 := 0x5c

/-- A backslash before two hex digits stands for their byte, any other for the byte after it. -/
def unescape : List UInt8 → List UInt8
  | [] => []
  | [c] => [c]
  | [c, a] => if c = backslash then [a] else [c, a]
  | c :: a :: b :: r =>
    if c = backslash then
      match hexPair? a b with
      | some v => v :: unescape r
      | none => a :: unescape (b :: r)
    else c :: unescape (a :: b :: r)

/-- The value of the first component with its escapes undone, unless it is missing or empty. -/
def valueText? (dn : List Char) : Option (List Char) :=
  match (first dn).dropWhile (· != '=') with
  | [] => none
  | _ :: value =>
    match unescape (encode (trim value)) with
    | [] => none
    | bytes => some (decodeLossy bytes)

def firstValue? (dn : String) : Option String := (valueText? dn.toList).map String.ofList

/-- A backslash and the two lower-case hex digits of an ASCII character. -/
def escaped (c : Char) : List Char := ['\\', hexDigit (c.toNat / 16), hexDigit (c.toNat % 16)]

def isSpecial (c : Char) : Bool := ['"', '+', ',', ';', '<', '=', '>', '\\', '\x00'].contains c

def escapeTail : List Char → List Char
  | [] => []
  | [c] => if isSpecial c || c == ' ' then escaped c else [c]
  | c :: r => (if isSpecial c then escaped c else [c]) ++ escapeTail r

/-- A value as it is written into a name: a space at either end and a number sign at the start are
escaped as well. -/
def escapeText : List Char → List Char
  | [] => []
  | c :: r =>
    if c == ' ' || c == '#' then escaped c ++ escapeTail r else escapeTail (c :: r)

def escape (value : String) : String := String.ofList (escapeText value.toList)

def filterEscapeText (value : List Char) : List Char :=
  value.flatMap fun c =>
    if ['\\', '*', '(', ')', '\x00'].contains c then escaped c else [c]

def filterEscape (value : String) : String := String.ofList (filterEscapeText value.toList)

end NetNames.Dn
