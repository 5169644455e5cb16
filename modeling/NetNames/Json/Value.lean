import NetNames.Text.Hex

/-!
JSON values and their two written forms, the compact one and the indented one. Only whole numbers
from zero up are told apart, and an object keeps its members in order, repeated names included.
-/
namespace NetNames.Json

open Text

/-- The text of a string is missing where an escape in it named half a pair of code units; such a
string can only be passed over. -/
inductive Value where
  | null
  | bool (b : Bool)
  | whole (n : Nat)
  | otherNumber
  | string (s : Option (List Char))
  | array (vs : List Value)
  | object (ms : List (Option (List Char) × Value))

def escapeChar (c : Char) : List Char :=
  match c with
  | '"' => ['\\', '"']
  | '\\' => ['\\', '\\']
  | '\x08' => ['\\', 'b']
  | '\x0c' => ['\\', 'f']
  | '\n' => ['\\', 'n']
  | '\r' => ['\\', 'r']
  | '\t' => ['\\', 't']
  | c =>
    if c.toNat < 0x20 then
      ['\\', 'u', '0', '0', hexDigit (c.toNat / 16), hexDigit (c.toNat % 16)]
    else [c]

def quote (s : List Char) : List Char := '"' :: (s.flatMap escapeChar ++ ['"'])

private def name (s : Option (List Char)) : List Char := quote (s.getD [])

mutual

def compact : Value → List Char
  | .null | .otherNumber => ['n', 'u', 'l', 'l']
  | .bool true => ['t', 'r', 'u', 'e']
  | .bool false => ['f', 'a', 'l', 's', 'e']
  | .whole n => Nat.toDigits 10 n
  | .string s => name s
  | .array [] => ['[', ']']
  | .array (v :: vs) => '[' :: (compact v ++ compactMore vs)
  | .object [] => ['\x7b', '\x7d']
  | .object (m :: ms) => '\x7b' :: (compactMember m ++ compactMembers ms)

def compactMore : List Value → List Char
  | [] => [']']
  | v :: vs => ',' :: (compact v ++ compactMore vs)

def compactMember : Option (List Char) × Value → List Char
  | (k, v) => name k ++ ':' :: compact v

def compactMembers : List (Option (List Char) × Value) → List Char
  | [] => ['\x7d']
  | m :: ms => ',' :: (compactMember m ++ compactMembers ms)

end

/-- A new line, indented by two spaces per level. -/
private def newLine (level : Nat) : List Char := '\n' :: List.replicate (2 * level) ' '

mutual

/-- The form with a line for every element and member; empty ones stay on their line. -/
def indented (level : Nat) : Value → List Char
  | .array (v :: vs) =>
    '[' :: (newLine (level + 1) ++ indented (level + 1) v ++ indentedMore level vs)
  | .object (m :: ms) =>
    '\x7b' :: (newLine (level + 1) ++ indentedMember (level + 1) m ++ indentedMembers level ms)
  | .array [] => ['[', ']']
  | .object [] => ['\x7b', '\x7d']
  | .null => compact .null
  | .otherNumber => compact .otherNumber
  | .bool b => compact (.bool b)
  | .whole n => compact (.whole n)
  | .string s => compact (.string s)

def indentedMore (level : Nat) : List Value → List Char
  | [] => newLine level ++ [']']
  | v :: vs =>
    ',' :: (newLine (level + 1) ++ indented (level + 1) v ++ indentedMore level vs)

def indentedMember (level : Nat) : Option (List Char) × Value → List Char
  | (k, v) => name k ++ ':' :: ' ' :: indented level v

def indentedMembers (level : Nat) : List (Option (List Char) × Value) → List Char
  | [] => newLine level ++ ['\x7d']
  | m :: ms =>
    ',' :: (newLine (level + 1) ++ indentedMember (level + 1) m ++ indentedMembers level ms)

end

namespace Value

def text (s : String) : Value := .string (some s.toList)

def record (ms : List (String × Value)) : Value :=
  .object (ms.map fun m => (some m.1.toList, m.2))

def compactText (v : Value) : String := String.ofList (compact v)
def indentedText (v : Value) : String := String.ofList (indented 0 v)

end Value
end NetNames.Json
