import NetNames.Text.Class
import NetNames.Text.Hex
import NetNames.Toml.Value

/-!
Reading a TOML document. A value may nest other values to a fixed depth; the length of the text
bounds the number of steps.
-/
namespace NetNames.Toml

open Text

private abbrev Rest := List Char

def isTomlBlank (c : Char) : Bool := c == ' ' || c == '\t'
def skipBlanks (s : Rest) : Rest := s.dropWhile isTomlBlank

/-- Characters that may stand in a comment or a literal string. -/
def isPlain (c : Char) : Bool := c == '\t' || (0x20 ≤ c.toNat && c.toNat != 0x7f)

def newLine? : Rest → Option Rest
  | '\n' :: r => some r
  | '\r' :: '\n' :: r => some r
  | _ => none

/-- The rest after a comment, if one stands here. -/
def skipComment (s : Rest) : Rest :=
  match s with
  | '#' :: r => r.dropWhile isPlain
  | s => s

/-- What follows a line that holds nothing more than blanks and a comment. -/
def endLine? (s : Rest) : Option Rest :=
  match skipComment (skipBlanks s) with
  | [] => some []
  | r => newLine? r

/-- Skips blanks, comments and line ends. -/
def skipLines : Nat → Rest → Rest
  | 0, s => s
  | n + 1, s =>
    let r := skipComment (skipBlanks s)
    match newLine? r with
    | some r => skipLines n r
    | none => r

/-- The character of exactly `n` hex digits. -/
def readCode : Nat → Nat → Rest → Option (Char × Rest)
  | 0, value, s => (charAt? value).map (·, s)
  | n + 1, value, c :: r => do readCode n (value * 16 + (← hexValue? c)) r
  | _ + 1, _, [] => none

/-- An escape, from behind its backslash. -/
def readEscape : Rest → Option (Char × Rest)
  | 'b' :: r => some ('\x08', r)
  | 't' :: r => some ('\t', r)
  | 'n' :: r => some ('\n', r)
  | 'f' :: r => some ('\x0c', r)
  | 'r' :: r => some ('\r', r)
  | '"' :: r => some ('"', r)
  | '\\' :: r => some ('\\', r)
  | 'u' :: r => readCode 4 0 r
  | 'U' :: r => readCode 8 0 r
  | _ => none

private def add (c : Char) (read : List Char × Rest) : List Char × Rest := (c :: read.1, read.2)

/-- A string on one line, from behind its opening quote. -/
def readBasic : Nat → Rest → Option (List Char × Rest)
  | _, '"' :: r => some ([], r)
  | n + 1, '\\' :: r => do
    let (c, r) ← readEscape r
    add c <$> readBasic n r
  | n + 1, c :: r => if isPlain c then add c <$> readBasic n r else none
  | _, _ => none

def readLiteral (s : Rest) : Option (List Char × Rest) :=
  match s.dropWhile (fun c => isPlain c && c != '\'') with
  | '\'' :: r => some (s.takeWhile (fun c => isPlain c && c != '\''), r)
  | _ => none

/-- The end of a string in triple quotes, which up to two more quotes may precede. -/
def closing? (q : Char) : Rest → Option (List Char × Rest)
  | a :: b :: c :: r =>
    if a = q && b = q && c = q then
      match r with
      | d :: e :: r' =>
        if d = q && e = q then some ([q, q], r')
        else if d = q then some ([q], e :: r')
        else some ([], r)
      | [d] => if d = q then some ([q], []) else some ([], r)
      | [] => some ([], [])
    else none
  | _ => none

/-- What follows a backslash at the end of a line: blanks and line ends are dropped. -/
def continued? (s : Rest) : Option Rest :=
  match newLine? (skipBlanks s) with
  | none => none
  | some r => some (go r.length r)
where
  go : Nat → Rest → Rest
    | 0, s => s
    | n + 1, s =>
      let r := skipBlanks s
      match newLine? r with
      | some r => go n r
      | none => r

/-- A string over several lines, from behind its opening quotes. -/
def readLong (q : Char) (escapes : Bool) : Nat → Rest → Option (List Char × Rest)
  | 0, _ => none
  | n + 1, s =>
    match closing? q s with
    | some found => some found
    | none =>
      match newLine? s with
      | some r => add '\n' <$> readLong q escapes n r
      | none =>
        match s with
        | [] => none
        | c :: r =>
          if escapes && c = '\\' then
            match continued? r with
            | some r => readLong q escapes n r
            | none => do
              let (c, r) ← readEscape r
              add c <$> readLong q escapes n r
          else if isPlain c then add c <$> readLong q escapes n r
          else none

/-- A line end right after the opening quotes is dropped. -/
private def afterFirst (s : Rest) : Rest := (newLine? s).getD s

def readString (s : Rest) : Option (String × Rest) :=
  let named (found : Option (List Char × Rest)) : Option (String × Rest) :=
    found.map fun (cs, r) => (String.ofList cs, r)
  match s with
  | '"' :: '"' :: '"' :: r => named (readLong '"' true (r.length + 1) (afterFirst r))
  | '\'' :: '\'' :: '\'' :: r => named (readLong '\'' false (r.length + 1) (afterFirst r))
  | '"' :: r => named (readBasic (r.length + 1) r)
  | '\'' :: r => named (readLiteral r)
  | _ => none

/-! Numbers and times. -/

/-- Digits with single underscores between them. -/
def readDigits (digit : Char → Bool) (s : Rest) : Option (List Char × Rest) :=
  match s with
  | [] => none
  | c :: r => if digit c then some (add c (go r.length r)) else none
where
  go : Nat → Rest → List Char × Rest
    | n + 1, '_' :: c :: r => if digit c then add c (go n r) else ([], '_' :: c :: r)
    | n + 1, c :: r => if digit c then add c (go n r) else ([], c :: r)
    | _, s => ([], s)

def readSign : Rest → Bool × Rest
  | '-' :: r => (true, r)
  | '+' :: r => (false, r)
  | s => (false, s)

/-- Decimal digits without a leading zero. -/
def readDecimal (s : Rest) : Option (List Char × Rest) :=
  match s with
  | '0' :: r => some (['0'], r)
  | s => readDigits isDigit s

def isWide (n : Int) : Bool := -0x8000000000000000 ≤ n && n < 0x8000000000000000

private def integerOf (negative : Bool) (base : Nat) (ds : List Char) : Option Value :=
  let value := ds.foldl (fun n d => n * base + (hexValue? d).getD 0) 0
  let n : Int := if negative then -value else value
  if isWide n then some (.integer n) else none

def readRadix (base : Nat) (s : Rest) : Option (Value × Rest) := do
  let digit (c : Char) : Bool := (hexValue? c).any (· < base)
  let (ds, r) ← readDigits digit s
  return (← integerOf false base ds, r)

/-- The exponent of a number and the rest, if one stands here. -/
def readExponent (s : Rest) : Option (Option (Int × Rest)) :=
  match s with
  | c :: r =>
    if c = 'e' || c = 'E' then do
      let (negative, r) := readSign r
      let (ds, r) ← readDigits isDigit r
      let n : Int := Nat.ofDigitChars 10 ds 0
      return some (if negative then -n else n, r)
    else some none
  | [] => some none

/-- The least number that is rounded to more than the greatest float of 64 bits. -/
def floatBound : Nat := (1 <<< 1024) - (1 <<< 970)

/-- Decimal places that `floatBound` has; a number with more is above it. -/
def floatPlaces : Nat := 309

/-- Whether digits with this exponent of ten are less than `floatBound`. -/
def isFinite (ds : List Char) (exponent : Int) : Bool :=
  let n := Nat.ofDigitChars 10 ds 0
  let places := (ds.dropWhile (· == '0')).length + exponent
  if n = 0 || places < floatPlaces then true
  else if floatPlaces < places then false
  else if 0 ≤ exponent then n * Nat.pow 10 exponent.toNat < floatBound
  else n < floatBound * Nat.pow 10 (-exponent).toNat

/-- A float from its digits before and after the point. Numbers too great for a float are refused,
those too small are not. -/
private def floatOf (negative : Bool) (whole places : List Char) (exponent : Int) : Option Value :=
  if negative || isFinite (whole ++ places) (exponent - places.length) then some .float else none

/-- An integer or a float. -/
def readNumber (s : Rest) : Option (Value × Rest) :=
  match s with
  | '0' :: 'x' :: r => readRadix 16 r
  | '0' :: 'o' :: r => readRadix 8 r
  | '0' :: 'b' :: r => readRadix 2 r
  | s => do
    let (negative, r) := readSign s
    match r with
    | 'i' :: 'n' :: 'f' :: r => some (.float, r)
    | 'n' :: 'a' :: 'n' :: r => some (.float, r)
    | r =>
      let (ds, r) ← readDecimal r
      match r with
      | '.' :: r => do
        let (places, r) ← readDigits isDigit r
        let (exponent, r) := (← readExponent r).getD (0, r)
        return (← floatOf negative ds places exponent, r)
      | r =>
        match ← readExponent r with
        | some (exponent, r) => return (← floatOf negative ds [] exponent, r)
        | none => return (← integerOf negative 10 ds, r)

def twoDigits? : Rest → Option (Nat × Rest)
  | a :: b :: r => if isDigit a && isDigit b then some (Nat.ofDigitChars 10 [a, b] 0, r) else none
  | _ => none

def daysOf (year month : Nat) : Nat :=
  if month = 2 then
    if (year % 4 = 0 && year % 100 ≠ 0) || year % 400 = 0 then 29 else 28
  else if [4, 6, 9, 11].contains month then 30
  else 31

def readDate (s : Rest) : Option Rest := do
  let (century, r) ← twoDigits? s
  let (years, r) ← twoDigits? r
  match r with
  | '-' :: r =>
    let (month, r) ← twoDigits? r
    match r with
    | '-' :: r =>
      let (day, r) ← twoDigits? r
      let inYear := 1 ≤ month && month ≤ 12
      if inYear && 1 ≤ day && day ≤ daysOf (century * 100 + years) month then some r else none
    | _ => none
  | _ => none

def readClock (s : Rest) : Option Rest := do
  let (hour, r) ← twoDigits? s
  match r with
  | ':' :: r =>
    let (minute, r) ← twoDigits? r
    match r with
    | ':' :: r =>
      let (second, r) ← twoDigits? r
      if hour < 24 && minute < 60 && second ≤ 60 then
        match r with
        | '.' :: c :: r => if isDigit c then some (r.dropWhile isDigit) else none
        | ['.'] => none
        | r => some r
      else none
    | _ => none
  | _ => none

/-- The distance from universal time, if one is given. -/
def readOffset (s : Rest) : Option Rest :=
  match s with
  | 'Z' :: r | 'z' :: r => some r
  | '+' :: r | '-' :: r => do
    let (hour, r) ← twoDigits? r
    match r with
    | ':' :: r =>
      let (minute, r) ← twoDigits? r
      if hour < 24 && minute < 60 then some r else none
    | _ => none
  | r => some r

def readTime (s : Rest) : Option Rest :=
  match readDate s with
  | some (c :: r) =>
    if c = 'T' || c = 't' || c = ' ' then
      match readClock r with
      | some r => readOffset r
      | none => some (c :: r)
    else some (c :: r)
  | some [] => some []
  | none => readClock s

/-! Keys, values and documents. -/

def isBareKey (c : Char) : Bool := isLetter c || isDigit c || c == '_' || c == '-'

def readSimpleKey (s : Rest) : Option (String × Rest) :=
  match s with
  | '"' :: r => (readBasic (r.length + 1) r).map fun (cs, r) => (String.ofList cs, r)
  | '\'' :: r => (readLiteral r).map fun (cs, r) => (String.ofList cs, r)
  | s =>
    match s.takeWhile isBareKey with
    | [] => none
    | cs => some (String.ofList cs, s.dropWhile isBareKey)

/-- How deep values may nest, and one more than the number of parts of a key. -/
def depthLimit : Nat := 80

/-- A key of one part or more, with the blanks around every part. -/
def readKey : Nat → Rest → Option (List String × Rest)
  | 0, _ => none
  | n + 1, s => do
    let (part, r) ← readSimpleKey (skipBlanks s)
    match skipBlanks r with
    | '.' :: r => do
      let (parts, r) ← readKey n r
      return (part :: parts, r)
    | r => return ([part], r)

mutual

/-- A value with at most `depth` levels of values in it. -/
def readValue : Nat → Nat → Rest → Option (Value × Rest)
  | 0, _, _ => none
  | n + 1, depth, s =>
    match s with
    | [] => none
    | '[' :: r =>
      match depth with
      | 0 => none
      | depth + 1 => do
        let (vs, r) ← readElements n depth r
        return (.array vs, r)
    | '\x7b' :: r =>
      match depth with
      | 0 => none
      | depth + 1 =>
        match skipBlanks r with
        | '\x7d' :: r => some (.inline .header [], r)
        | _ => do
          let (kvs, r) ← readPairs n depth r
          return (← inlineTable? kvs, r)
    | 't' :: 'r' :: 'u' :: 'e' :: r => some (.bool true, r)
    | 'f' :: 'a' :: 'l' :: 's' :: 'e' :: r => some (.bool false, r)
    | c :: _ =>
      if c = '"' || c = '\'' then (readString s).map fun (t, r) => (.string t, r)
      else match readTime s with
        | some r => some (.time, r)
        | none => readNumber s

/-- The elements of an array up to its closing bracket. -/
def readElements : Nat → Nat → Rest → Option (List Value × Rest)
  | 0, _, _ => none
  | n + 1, depth, s =>
    match skipLines (s.length + 1) s with
    | ']' :: r => some ([], r)
    | r => do
      let (v, r) ← readValue n depth r
      match skipLines (r.length + 1) r with
      | ',' :: r => do
        let (vs, r) ← readElements n depth r
        return (v :: vs, r)
      | ']' :: r => return ([v], r)
      | _ => none

/-- The keys and values of an inline table up to its closing brace. -/
def readPairs : Nat → Nat → Rest → Option (List (List String × Value) × Rest)
  | 0, _, _ => none
  | n + 1, depth, s => do
    let (key, r) ← readKey (depthLimit - 1) s
    match r with
    | '=' :: r => do
      let (v, r) ← readValue n depth (skipBlanks r)
      match skipBlanks r with
      | ',' :: r => do
        let (kvs, r) ← readPairs n depth r
        return ((key, v) :: kvs, r)
      | '\x7d' :: r => return ([(key, v)], r)
      | _ => none
    | _ => none

end

/-- One header, assignment, comment or empty line. -/
def readLine (d : Document) (s : Rest) : Option (Document × Rest) :=
  match s with
  | '[' :: '[' :: r => do
    let (path, r) ← readKey (depthLimit - 1) r
    match r with
    | ']' :: ']' :: r => return (← d.openElement path, ← endLine? r)
    | _ => none
  | '[' :: r => do
    let (path, r) ← readKey (depthLimit - 1) r
    match r with
    | ']' :: r => return (← d.openTable path, ← endLine? r)
    | _ => none
  | '#' :: _ => do return (d, ← endLine? s)
  | '\n' :: _ | '\r' :: _ => do return (d, ← newLine? s)
  | s => do
    let (key, r) ← readKey (depthLimit - 1) s
    match r with
    | '=' :: r => do
      let r := skipBlanks r
      let (v, r) ← readValue (2 * r.length + 2) (depthLimit - 1) r
      return (← d.add key v, ← endLine? r)
    | _ => none

def readLines : Nat → Document → Rest → Option Document
  | 0, _, _ => none
  | n + 1, d, s =>
    match skipBlanks s with
    | [] => some d
    | s => do
      let (d, r) ← readLine d s
      readLines n d r

/-- The root table of a document; a byte order mark may stand before it. -/
def read? (s : List Char) : Option Value := do
  let s := if s.head? == some '\uFEFF' then s.drop 1 else s
  let d ← readLines (s.length + 1) .empty s
  return .table .header d.root

end NetNames.Toml
