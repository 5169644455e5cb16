import NetNames.Directory.Store

/-!
Search filters as they are sent to a server: one assertion, in parentheses or bare. A backslash
and two hex digits stand for a byte of the value, and a lone star asks for presence, be it written
as such or by its code.
-/
namespace NetNames.Filter

open Text

def isKeyChar (c : Char) : Bool := isLetter c || isDigit c || c == '-'

/-- Numbers without needless zeros, two or more, with single dots between them. -/
def isDottedNumber (s : List Char) : Bool :=
  let parts := s.splitBy fun a b => (a == '.') == (b == '.')
  let isNumber (p : List Char) : Bool := p.all isDigit && (p.length == 1 || p.head? != some '0')
  3 ≤ parts.length && parts.length % 2 == 1 &&
    parts.zipIdx.all fun (p, i) => if i % 2 == 0 then isNumber p else p == ['.']

def isAttribute (s : List Char) : Bool :=
  match s with
  | [] => false
  | c :: r => (isLetter c && r.all isKeyChar) || isDottedNumber s

def isReserved (c : Char) : Bool := ['(', ')', '*', '\x00'].contains c

/-- The bytes that a value stands for. -/
def unescape? : List Char → Option (List UInt8)
  | [] => some []
  | '\\' :: a :: b :: r => do
    let high ← hexValue? a
    let low ← hexValue? b
    return UInt8.ofNat (high * 16 + low) :: (← unescape? r)
  | c :: r => if c = '\\' || isReserved c then none else (encode [c] ++ ·) <$> unescape? r

/-- The assertion between the parentheses. -/
def item? (s : List Char) : Option Assertion :=
  let name := s.takeWhile (· != '=')
  match s.dropWhile (· != '=') with
  | '=' :: value =>
    if !isAttribute name then none
    else if value = ['*'] then some ⟨String.ofList name, none⟩
    else (unescape? value).map fun bytes =>
      let value := decodeLossy bytes
      ⟨String.ofList name, if value = ['*'] then none else some (String.ofList value)⟩
  | _ => none

def parse? (filter : String) : Option Assertion :=
  match filter.toList with
  | '(' :: r => if r.getLast? == some ')' then item? r.dropLast else none
  | s => item? s

/-- The text of an assertion, its value without escapes. -/
def text (a : Assertion) : String := "(" ++ a.name ++ "=" ++ a.value.getD "*" ++ ")"

example : (parse? "(cn=a\\2ab)").map text = some "(cn=a*b)" := by decide +kernel

end NetNames.Filter
