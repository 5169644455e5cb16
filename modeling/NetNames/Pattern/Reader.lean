import NetNames.Pattern.Basic
import NetNames.Text.Hex
import NetNames.Text.Letters

/-!
Reading a pattern from its text. Open groups stand on a stack, and every step reads at least one
character, so the length of the text bounds the number of steps.
-/
namespace NetNames.Pattern

open Text

structure Flags where
  ignoreCase : Bool := false
  manyLines : Bool := false
  dotAll : Bool := false
  carriageReturns : Bool := false
  extended : Bool := false

/-- Skips blanks and comments where the extended form is on. -/
def skipIdle (flags : Flags) (s : List Char) : List Char :=
  if flags.extended then go false s else s
where
  go : Bool → List Char → List Char
    | _, [] => []
    | true, c :: r => if c = '\n' then go false r else go true r
    | false, c :: r =>
      if isBlank c then go false r else if c = '#' then go true r else c :: r

/-- The character after the next idle text, `s` starting behind the current one. -/
def peekIdle (flags : Flags) (s : List Char) : Option Char :=
  if flags.extended then
    let r := trimStart s
    let r := if r.head? == some '#' then trimStart (r.drop 1) else r
    r.head?.or s.head?
  else s.head?

/-- A character escape of `n` hex digits, idle text skipped after each. -/
def readHex (flags : Flags) : Nat → Nat → List Char → Option (Char × List Char)
  | 0, value, s => (charAt? value).map (·, s)
  | n + 1, value, c :: r => do readHex flags n (value * 16 + (← hexValue? c)) (skipIdle flags r)
  | _ + 1, _, [] => none

/-- A character escape in braces, from behind the opening one. -/
def readBracedHex (flags : Flags) (s : List Char) : Option (Char × List Char) :=
  go s.length none (skipIdle flags s)
where
  go : Nat → Option Nat → List Char → Option (Char × List Char)
    | _, value, '}' :: r => do return (← charAt? (← value), skipIdle flags r)
    | n + 1, value, c :: r => do
      go n (some (value.getD 0 * 16 + (← hexValue? c))) (skipIdle flags r)
    | _, _, _ => none

def literal (flags : Flags) (c : Char) : Pattern :=
  match CharSet.otherCase? (c.toNat, c.toNat) with
  | some other =>
    if flags.ignoreCase then .oneOf (CharSet.ofRanges [(c.toNat, c.toNat), other]) else .char c
  | none => .char c

/-- Whether a backslash before the character stands for the character itself. -/
def isEscapable (c : Char) : Bool :=
  c.toNat < 0x80 && !isLetter c && !isDigit c && c != '<' && c != '>'

def boundaryNamed? : String → Option Look
  | "start" => some .wordStart
  | "end" => some .wordStop
  | "start-half" => some .noWordBefore
  | "end-half" => some .noWordAfter
  | _ => none

/-- A word boundary, which may carry a name in braces; braces around anything that is no name are
left for a repetition. -/
def readBoundary (flags : Flags) (s : List Char) : Option (Look × List Char) :=
  match s with
  | '{' :: r =>
    match skipIdle flags r with
    | [] => none
    | c :: r => if isPart c then go r.length [] (c :: r) else some (.word, s)
  | _ => some (.word, s)
where
  isPart (c : Char) : Bool := isLetter c || c == '-'
  go : Nat → List Char → List Char → Option (Look × List Char)
    | _, name, '}' :: r => (boundaryNamed? (String.ofList name.reverse)).map (·, r)
    | n + 1, name, c :: r => if isPart c then go n (c :: name) (skipIdle flags r) else none
    | _, _, _ => none

/-- An escape, from behind its backslash. -/
def readEscape (flags : Flags) : List Char → Option (Pattern × List Char)
  | [] => none
  | c :: r =>
    let hex (n : Nat) : Option (Pattern × List Char) := do
      let (c, r) ←
        match skipIdle flags r with
        | [] => none
        | '{' :: r => readBracedHex flags r
        | r => readHex flags n 0 r
      return (literal flags c, r)
    let look (l : Look) : Option (Pattern × List Char) := some (.look l, r)
    let set (s : CharSet) : Option (Pattern × List Char) := some (.oneOf s, r)
    let char (c : Char) : Option (Pattern × List Char) := some (literal flags c, r)
    match c with
    | 'x' => hex 2
    | 'u' => hex 4
    | 'U' => hex 8
    | 'd' => set .digits
    | 's' => set .spaces
    | 'w' => set .words
    | 'D' => set (CharSet.complement .digits)
    | 'S' => set (CharSet.complement .spaces)
    | 'W' => set (CharSet.complement .words)
    | 'a' => char '\x07'
    | 'f' => char '\x0c'
    | 't' => char '\t'
    | 'n' => char '\n'
    | 'r' => char '\r'
    | 'v' => char '\x0b'
    | 'A' => look .start
    | 'z' => look .stop
    | 'B' => look .notWord
    | '<' => look .wordStart
    | '>' => look .wordStop
    | 'b' => (readBoundary flags r).map fun (l, r) => (.look l, r)
    | c => if isEscapable c then char c else none

/-- One item of a class in brackets. -/
def readItem (flags : Flags) : List Char → Option (Pattern × List Char)
  | [] => none
  | '\\' :: r => readEscape flags r
  | c :: r => some (.char c, r)

def itemSet? : Pattern → Option CharSet
  | .char c => some [(c.toNat, c.toNat)]
  | .oneOf s => some s
  | _ => none

def itemCode? : Pattern → Option Nat
  | .char c => some c.toNat
  | _ => none

/-- An item or a range of two items. -/
def readRange (flags : Flags) (s : List Char) : Option (CharSet × List Char) := do
  let (low, r) ← readItem flags s
  match skipIdle flags r with
  | [] => none
  | '-' :: r =>
    match peekIdle flags r with
    | some ']' | some '-' => return (← itemSet? low, '-' :: r)
    | _ =>
      let (high, r) ← readItem flags (skipIdle flags r)
      let low ← itemCode? low
      let high ← itemCode? high
      if low ≤ high then return ([(low, high)], r) else none
  | r => return (← itemSet? low, r)

/-- A named class, from behind its opening bracket. -/
def readNamed : List Char → Option (CharSet × List Char)
  | ':' :: r =>
    let (negated, r) := match r with
      | '^' :: r => (true, r)
      | r => (false, r)
    match r.dropWhile (· != ':') with
    | ':' :: ']' :: rest => do
      let set ← CharSet.named? (String.ofList (r.takeWhile (· != ':')))
      return (if negated then set.complement else set, rest)
    | _ => none
  | _ => none

/-- The items of a class up to its closing bracket. -/
def readItems (flags : Flags) : Nat → CharSet → List Char → Option (CharSet × List Char)
  | 0, _, _ => none
  | n + 1, set, s =>
    match skipIdle flags s with
    | [] => none
    | ']' :: r => some (set, r)
    | '[' :: r => do
      let (named, r) ← readNamed r
      readItems flags n (set ++ named) r
    | '&' :: '&' :: _ => none
    | '-' :: '-' :: _ => none
    | '~' :: '~' :: _ => none
    | r => do
      let (range, r) ← readRange flags r
      readItems flags n (set ++ range) r

/-- A class, from behind its opening bracket. Dashes at the start, or else one closing bracket,
stand for themselves. -/
def readClass (flags : Flags) (s : List Char) : Option (Pattern × List Char) := do
  let s := skipIdle flags s
  let (negated, s) := match s with
    | '^' :: r => (true, skipIdle flags r)
    | s => (false, s)
  let (start, s) := leading s.length [] s
  let (start, s) := match start, s with
    | [], ']' :: r => ([(0x5d, 0x5d)], skipIdle flags r)
    | start, s => (start, s)
  let (ranges, r) ← readItems flags (s.length + 1) start s
  let set := CharSet.ofRanges ranges
  let set := if flags.ignoreCase then set.foldCase else set
  return (.oneOf (if negated then set.complement else set), r)
where
  leading : Nat → CharSet → List Char → CharSet × List Char
    | n + 1, set, '-' :: r => leading n ((0x2d, 0x2d) :: set) (skipIdle flags r)
    | _, set, s => (set, s)

def numberLimit : Nat := 0x100000000

/-- A count with blanks around it. -/
def readCount (flags : Flags) (s : List Char) : Option (Nat × List Char) := do
  let s := trimStart s
  let (digits, s) := digitsOf s.length [] s
  let s := blanks s.length s
  let value := digits.foldr (fun d n => n * 10 + (d.toNat - 0x30)) 0
  if digits.isEmpty || value ≥ numberLimit then none else some (value, s)
where
  digitsOf : Nat → List Char → List Char → List Char × List Char
    | n + 1, ds, c :: r =>
      if isDigit c then digitsOf n (c :: ds) (skipIdle flags r) else (ds, c :: r)
    | _, ds, s => (ds, s)
  blanks : Nat → List Char → List Char
    | n + 1, c :: r => if isBlank c then blanks n (skipIdle flags r) else c :: r
    | _, s => s

/-- The bounds of a repetition, from behind the opening brace. -/
def readBounds (flags : Flags) (s : List Char) : Option (Nat × Option Nat × List Char) := do
  let (least, r) ← readCount flags (skipIdle flags s)
  let (most, r) ←
    match r with
    | ',' :: r =>
      match skipIdle flags r with
      | '}' :: r => some (none, '}' :: r)
      | r => (readCount flags r).map fun (n, r) => (some n, r)
    | r => some (some least, r)
  match r with
  | '}' :: r => if most.all (least ≤ ·) then some (least, most, skipIdle flags r) else none
  | _ => none

def dropLazy : List Char → List Char
  | '?' :: r => r
  | r => r

def setFlag (flags : Flags) (on : Bool) : Char → Option Flags
  | 'i' => some { flags with ignoreCase := on }
  | 'm' => some { flags with manyLines := on }
  | 's' => some { flags with dotAll := on }
  | 'R' => some { flags with carriageReturns := on }
  | 'x' => some { flags with extended := on }
  | 'U' | 'u' => some flags
  | _ => none

/-- Flags up to a colon or a closing parenthesis, which stays. A minus sign turns off those behind
it; none may come twice. -/
def readFlags (flags : Flags) (on : Bool) (seen : List Char) :
    List Char → Option (Flags × List Char)
  | [] => none
  | c :: r =>
    if c = ':' || c = ')' then if seen.head? == some '-' then none else some (flags, c :: r)
    else if seen.contains c then none
    else if c = '-' then readFlags flags false ('-' :: seen) r
    else do readFlags (← setFlag flags on c) on (c :: seen) r

def isNameStart (c : Char) : Bool := c == '_' || isAlphabetic c

def isNamePart (c : Char) : Bool :=
  isNameStart c || isNumeric c || c == '.' || c == '[' || c == ']'

/-- A group name up to its closing angle bracket. -/
def readGroupName (s : List Char) : Option (List Char × List Char) :=
  match s.takeWhile (· != '>'), s.dropWhile (· != '>') with
  | c :: name, _ :: r =>
    if isNameStart c && name.all isNamePart then some (c :: name, r) else none
  | _, _ => none

/-- An open group: the flags outside it, its mark if it is counted, and what was read before it. -/
structure Open where
  flags : Flags
  mark : Option GroupMark
  branches : List Pattern
  items : List Pattern

/-- Marks, branches and items are kept last first. -/
structure Reading where
  flags : Flags
  marks : List GroupMark := []
  outer : List Open := []
  branches : List Pattern := []
  items : List Pattern := []

namespace Reading

def push (r : Reading) (p : Pattern) : Reading := { r with items := p :: r.items }

def branch (r : Reading) : Reading :=
  { r with branches := mkSequence r.items.reverse :: r.branches, items := [] }

def whole (r : Reading) : Pattern := mkChoice (r.branch.branches.reverse)

/-- Groups may nest as deep as patterns. -/
def openGroup (r : Reading) (inner : Flags) (mark : Option GroupMark) : Option Reading :=
  if r.outer.length < depthLimit then
    some { r with
      flags := inner, marks := mark.toList ++ r.marks,
      outer := ⟨r.flags, mark, r.branches, r.items⟩ :: r.outer, branches := [], items := [] }
  else none

def openCounted (r : Reading) (name : Option (List Char)) : Option Reading :=
  r.openGroup r.flags (some ⟨r.marks.length + 1, name⟩)

def closeGroup (r : Reading) : Option Reading :=
  match r.outer with
  | [] => none
  | o :: outer =>
    let p := match o.mark with
      | some mark => .group mark r.whole
      | none => r.whole
    some { r with flags := o.flags, outer, branches := o.branches, items := p :: o.items }

/-- Applies a repetition to the last item. -/
def repeatLast (r : Reading) (least : Nat) (most : Option Nat) : Option Reading :=
  match r.items with
  | [] => none
  | p :: items => some { r with items := mkRepeated p least most :: items }

def readNamedGroup (r : Reading) (s : List Char) : Option (Reading × List Char) := do
  let (name, s) ← readGroupName s
  if r.marks.any (·.name == some name) then none else return (← r.openCounted (some name), s)

/-- What follows an opening parenthesis. -/
def readGroup (r : Reading) (s : List Char) : Option (Reading × List Char) :=
  match skipIdle r.flags s with
  | '?' :: 'P' :: '<' :: s => r.readNamedGroup s
  | '?' :: '<' :: '=' :: _ => none
  | '?' :: '<' :: '!' :: _ => none
  | '?' :: '<' :: s => r.readNamedGroup s
  | '?' :: s => do
    let (flags, rest) ← readFlags r.flags true [] s
    match rest with
    | ':' :: rest => return (← r.openGroup flags none, rest)
    | _ :: rest => if s.head? == some ')' then none else some ({ r with flags }, rest)
    | [] => none
  | s => do return (← r.openCounted none, s)

def dot (flags : Flags) : CharSet :=
  if flags.dotAll then CharSet.complement []
  else if flags.carriageReturns then CharSet.complement [(0x0a, 0x0a), (0x0d, 0x0d)]
  else CharSet.complement [(0x0a, 0x0a)]

def lineStart (flags : Flags) : Look :=
  if !flags.manyLines then .start else if flags.carriageReturns then .lineStartCr else .lineStart

def lineStop (flags : Flags) : Look :=
  if !flags.manyLines then .stop else if flags.carriageReturns then .lineStopCr else .lineStop

/-- Reads on from a character that is not idle. -/
def step (r : Reading) (c : Char) (s : List Char) : Option (Reading × List Char) :=
  let pushed (found : Option (Pattern × List Char)) : Option (Reading × List Char) :=
    found.map fun (p, s) => (r.push p, s)
  let simple (least : Nat) (most : Option Nat) : Option (Reading × List Char) :=
    (r.repeatLast least most).map (·, dropLazy s)
  match c with
  | '(' => r.readGroup s
  | ')' => r.closeGroup.map (·, s)
  | '|' => some (r.branch, s)
  | '[' => pushed (readClass r.flags s)
  | '?' => simple 0 (some 1)
  | '*' => simple 0 none
  | '+' => simple 1 none
  | '{' => do
    let (least, most, s) ← readBounds r.flags s
    return (← r.repeatLast least most, dropLazy s)
  | '\\' => pushed (readEscape r.flags s)
  | '.' => some (r.push (.oneOf (dot r.flags)), s)
  | '^' => some (r.push (.look (lineStart r.flags)), s)
  | '$' => some (r.push (.look (lineStop r.flags)), s)
  | c => some (r.push (literal r.flags c), s)

def run : Nat → Reading → List Char → Option Reading
  | 0, _, _ => none
  | n + 1, r, s =>
    match skipIdle r.flags s with
    | [] => if r.outer.isEmpty then some r else none
    | c :: s => do
      let (r, s) ← r.step c s
      r.run n s

end Reading

/-- The pattern of a text, unless the text is malformed or the pattern too large. Letters match
either case unless the text says otherwise. -/
def ofText? (s : List Char) : Option Pattern := do
  let r ← Reading.run (s.length + 1) { flags := { ignoreCase := true } } s
  let p := r.whole
  if p.isBounded then some p else none

end NetNames.Pattern
