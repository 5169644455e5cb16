import NetNames.Text.Class

/-!
What a connect descriptor says about its service and its listeners. The descriptor is opaque
text; the service and the addresses are mined from it by their keywords.
-/
namespace NetNames

/-- A listener: host and number of its endpoint. -/
structure Address where
  host : String
  number : UInt16
deriving DecidableEq, Repr

def Address.text (a : Address) : String := a.host ++ ":" ++ toString a.number.toNat

namespace Descriptor

open Text

/-- The longest start that passes the test, unless it is empty, and the rest. -/
def takeRun (p : Char → Bool) (s : List Char) : Option (List Char × List Char) :=
  match s.takeWhile p with
  | [] => none
  | run => some (run, s.dropWhile p)

theorem length_of_takeRun {p : Char → Bool} {s run r : List Char}
    (h : takeRun p s = some (run, r)) : r.length ≤ s.length := by
  rw [takeRun] at h
  split at h
  · simp at h
  · cases h
    exact (List.dropWhile_suffix _).length_le

def serviceWord : List Char := ['S', 'E', 'R', 'V', 'I', 'C', 'E', '_', 'N', 'A', 'M', 'E']
def hostWord : List Char := ['H', 'O', 'S', 'T']
def numberWord : List Char := ['P', 'O', 'R', 'T']

def serviceAt (s : List Char) : Option (List Char) := do
  let r ← afterWord serviceWord s
  let r ← afterSpaced '=' r
  let (name, _) ← takeRun isName r
  some name

/-- The value of the first service keyword that has one. -/
def service : List Char → List Char
  | [] => []
  | c :: r => (serviceAt (c :: r)).getD (service r)

/-- A host clause directly followed by an endpoint clause, with the text after its digits. -/
structure Clause where
  host : List Char
  digits : List Char
  rest : List Char

def clauseAt (s : List Char) : Option Clause := do
  let r ← afterWord hostWord s
  let r ← afterSpaced '=' r
  let (host, r) ← takeRun isName r
  let r ← afterSpaced ')' r
  let r ← afterSpaced '(' r
  let r ← afterWord numberWord r
  let r ← afterSpaced '=' r
  let (digits, r) ← takeRun isDigit r
  some ⟨host, digits, r⟩

theorem length_of_clauseAt {s : List Char} {c : Clause} (h : clauseAt s = some c) :
    c.rest.length < s.length := by
  simp only [clauseAt, Option.bind_eq_bind, Option.bind_eq_some_iff, Prod.exists,
    Option.some.injEq] at h
  obtain ⟨r₁, h₁, r₂, h₂, host, r₃, h₃, r₄, h₄, r₅, h₅, r₆, h₆, r₇, h₇, digits, r₈, h₈, rfl⟩ := h
  have l₁ := length_of_afterWord h₁
  have l₂ := length_of_afterSpaced h₂
  have l₃ := length_of_takeRun h₃
  have l₄ := length_of_afterSpaced h₄
  have l₅ := length_of_afterSpaced h₅
  have l₆ := length_of_afterWord h₆
  have l₇ := length_of_afterSpaced h₇
  have l₈ := length_of_takeRun h₈
  simp only
  omega

/-- The clauses from left to right, each searched after the end of the one before. -/
def clauses : List Char → List Clause
  | [] => []
  | c :: r =>
    match h : clauseAt (c :: r) with
    | some cl =>
      have : cl.rest.length < (c :: r).length := length_of_clauseAt h
      cl :: clauses cl.rest
    | none => clauses r
  termination_by s => s.length
  decreasing_by
    · exact this
    · exact Nat.lt_succ_self _

def digitsValue (ds : List Char) : Nat := Nat.ofDigitChars 10 ds 0

/-- The address of a clause whose number fits 16 bits. -/
def Clause.address? (c : Clause) : Option Address :=
  let n := digitsValue c.digits
  if n < UInt16.size then some ⟨String.ofList c.host, UInt16.ofNat n⟩ else none

def serviceOf (description : String) : String := String.ofList (service description.toList)

def addressesOf (description : String) : List Address :=
  (clauses description.toList).filterMap Clause.address?

end Descriptor
end NetNames
