import NetNames.Json.Value
import NetNames.Text.Class

/-!
Reading a JSON text. Every call reads at least one character, so the length of the text bounds
the depth of the calls.
-/
namespace NetNames.Json

open Text

def isJsonSpace (c : Char) : Bool := c == ' ' || c == '\t' || c == '\n' || c == '\r'
def skipSpace (s : List Char) : List Char := s.dropWhile isJsonSpace

def afterExactly : List Char → List Char → Option (List Char)
  | [], s => some s
  | _ :: _, [] => none
  | w :: ws, c :: s => if w = c then afterExactly ws s else none

def readUnit : List Char → Option (Nat × List Char)
  | a :: b :: c :: d :: r => do
    let high := (← hexValue? a) * 16 + (← hexValue? b)
    let low := (← hexValue? c) * 16 + (← hexValue? d)
    some (high * 256 + low, r)
  | _ => none

def isLeading (n : Nat) : Bool := 0xd800 ≤ n && n < 0xdc00
def isTrailing (n : Nat) : Bool := 0xdc00 ≤ n && n < 0xe000

/-- A character named by code units, from behind the escape mark; `none` for half a pair. -/
def readCoded (s : List Char) : Option (Option Char × List Char) := do
  let (n, r) ← readUnit s
  if isTrailing n then some (none, r)
  else if isLeading n then
    match r with
    | '\\' :: 'u' :: t => do
      let (m, t) ← readUnit t
      if isTrailing m then
        some (some (Char.ofNat (0x10000 + (n - 0xd800) * 0x400 + (m - 0xdc00))), t)
      else some (none, r)
    | _ => some (none, r)
  else some (some (Char.ofNat n), r)

def plainEscape? : Char → Option Char
  | '"' => some '"'
  | '\\' => some '\\'
  | '/' => some '/'
  | 'b' => some '\x08'
  | 'f' => some '\x0c'
  | 'n' => some '\n'
  | 'r' => some '\r'
  | 't' => some '\t'
  | _ => none

private def add (c : Option Char) (read : Option (List Char) × List Char) :
    Option (List Char) × List Char :=
  (do return (← c) :: (← read.1), read.2)

/-- A string, from behind its opening quote. -/
def readString : Nat → List Char → Option (Option (List Char) × List Char)
  | _, '"' :: r => some (some [], r)
  | n + 1, '\\' :: 'u' :: r => do
    let (c, r) ← readCoded r
    add c <$> readString n r
  | n + 1, '\\' :: e :: r => do
    let c ← plainEscape? e
    add (some c) <$> readString n r
  | n + 1, c :: r =>
    if c.toNat < 0x20 || c = '\\' then none else add (some c) <$> readString n r
  | _, _ => none

private def someDigits (s : List Char) : Option (List Char) :=
  match s with
  | c :: r => if isDigit c then some (r.dropWhile isDigit) else none
  | [] => none

/-- The fraction and the exponent of a number, and whether there was either. -/
def readFraction (s : List Char) : Option (Bool × List Char) := do
  let (dotted, s) ←
    match s with
    | '.' :: r => (someDigits r).map (true, ·)
    | s => some (false, s)
  match s with
  | 'e' :: r | 'E' :: r =>
    match r with
    | '+' :: r | '-' :: r => (someDigits r).map (true, ·)
    | r => (someDigits r).map (true, ·)
  | s => some (dotted, s)

def readNumber (s : List Char) : Option (Value × List Char) := do
  let (negative, s) := match s with
    | '-' :: r => (true, r)
    | s => (false, s)
  let (digits, s) ←
    match s with
    | '0' :: r => some (['0'], r)
    | c :: r =>
      if isDigit c then some (c :: r.takeWhile isDigit, r.dropWhile isDigit) else none
    | [] => none
  if digits = ['0'] && (s.head?.any isDigit) then none
  else do
    let (other, s) ← readFraction s
    some (if negative || other then .otherNumber else .whole (Nat.ofDigitChars 10 digits 0), s)

mutual

def readValue : Nat → List Char → Option (Value × List Char)
  | 0, _ => none
  | n + 1, s =>
    match skipSpace s with
    | 'n' :: r => (afterExactly ['u', 'l', 'l'] r).map (.null, ·)
    | 't' :: r => (afterExactly ['r', 'u', 'e'] r).map (.bool true, ·)
    | 'f' :: r => (afterExactly ['a', 'l', 's', 'e'] r).map (.bool false, ·)
    | '"' :: r => (readString r.length r).map fun (s, r) => (.string s, r)
    | '[' :: r =>
      match skipSpace r with
      | ']' :: r => some (.array [], r)
      | r => do
        let (vs, r) ← readElements n r
        some (.array vs, r)
    | '\x7b' :: r =>
      match skipSpace r with
      | '\x7d' :: r => some (.object [], r)
      | r => do
        let (ms, r) ← readMembers n r
        some (.object ms, r)
    | r => readNumber r

/-- One element or more, up to the closing bracket. -/
def readElements : Nat → List Char → Option (List Value × List Char)
  | 0, _ => none
  | n + 1, s => do
    let (v, r) ← readValue n s
    match skipSpace r with
    | ',' :: r => do
      let (vs, r) ← readElements n r
      some (v :: vs, r)
    | ']' :: r => some ([v], r)
    | _ => none

/-- One member or more, up to the closing brace. -/
def readMembers : Nat → List Char → Option (List (Option (List Char) × Value) × List Char)
  | 0, _ => none
  | n + 1, s =>
    match skipSpace s with
    | '"' :: r => do
      let (k, r) ← readString r.length r
      match skipSpace r with
      | ':' :: r => do
        let (v, r) ← readValue n r
        match skipSpace r with
        | ',' :: r => do
          let (ms, r) ← readMembers n r
          some ((k, v) :: ms, r)
        | '\x7d' :: r => some ([(k, v)], r)
        | _ => none
      | _ => none
    | _ => none

end

/-- The value of a whole text. -/
def read? (s : List Char) : Option Value := do
  let (v, r) ← readValue (2 * s.length + 2) s
  if (skipSpace r).isEmpty then some v else none

end NetNames.Json
