import NetNames.Text.Class

/-!
The kinds of lines in a names file. An include line is recognised before an alias line, which it
also looks like; every other line that is not blank belongs to the alias above it.
-/
namespace NetNames.NamesFile

open Text

inductive Line where
  | blank
  | inclusion (target : List Char)
  | definition (name rest : List Char)
  | text (s : List Char)
deriving DecidableEq, Repr

def includeWord : List Char := ['I', 'F', 'I', 'L', 'E']

/-- Blank lines and comment lines. -/
def isBlankLine (s : List Char) : Bool :=
  match trimStart s with
  | [] => true
  | c :: _ => c == '#'

def inclusionTarget? (s : List Char) : Option (List Char) := do
  let r ← afterWord includeWord (skipSpaces s)
  afterSpaced '=' r

/-- An alias starts in the first column; what follows the equals sign belongs to its body. -/
def aliasHead? (s : List Char) : Option (List Char × List Char) :=
  match s.takeWhile isName, skipSpaces (s.dropWhile isName) with
  | c :: name, '=' :: rest => some (c :: name, rest)
  | _, _ => none

def Line.of (s : List Char) : Line :=
  if isBlankLine s then .blank
  else match inclusionTarget? s with
    | some target => .inclusion target
    | none =>
      match aliasHead? s with
      | some (name, rest) => .definition name rest
      | none => .text s

end NetNames.NamesFile
