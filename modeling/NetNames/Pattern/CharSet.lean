import NetNames.Text.Class

/-!
Sets of characters as ranges of code points, in ascending order and apart from each other.
-/
namespace NetNames

abbrev CharSet := List (Nat × Nat)

namespace CharSet

def has (s : CharSet) (c : Char) : Bool := s.any fun r => r.1 ≤ c.toNat && c.toNat ≤ r.2

private def place (r : Nat × Nat) : CharSet → CharSet
  | [] => [r]
  | q :: s => if r.1 ≤ q.1 then r :: q :: s else q :: place r s

private def join (r : Nat × Nat) : CharSet → CharSet
  | [] => [r]
  | q :: s => if q.1 ≤ r.2 + 1 then (r.1, max r.2 q.2) :: s else r :: q :: s

/-- The set of ranges given in any order. -/
def ofRanges (l : List (Nat × Nat)) : CharSet :=
  (l.foldr place []).reverse.foldl (fun s r => join r s) []

def lastCode : Nat := 0x10ffff

private def gaps (start : Nat) : CharSet → CharSet
  | [] => if start ≤ lastCode then [(start, lastCode)] else []
  | r :: s =>
    let rest := gaps (r.2 + 1) s
    if start < r.1 then (start, r.1 - 1) :: rest else rest

def complement (s : CharSet) : CharSet := gaps 0 s

/-- The other case of a range: of its lower-case letters, or else of its upper-case letters. -/
def otherCase? (r : Nat × Nat) : Option (Nat × Nat) :=
  if r.1 ≤ 0x7a && 0x61 ≤ r.2 then some (max r.1 0x61 - 32, min r.2 0x7a - 32)
  else if r.1 ≤ 0x5a && 0x41 ≤ r.2 then some (max r.1 0x41 + 32, min r.2 0x5a + 32)
  else none

def foldCase (s : CharSet) : CharSet := ofRanges (s ++ s.filterMap otherCase?)

def digits : CharSet := [(0x30, 0x39)]
def spaces : CharSet := [(0x09, 0x0d), (0x20, 0x20)]
def words : CharSet := [(0x30, 0x39), (0x41, 0x5a), (0x5f, 0x5f), (0x61, 0x7a)]

/-- The classes that a pattern names within brackets. -/
def named? : String → Option CharSet
  | "alnum" => some [(0x30, 0x39), (0x41, 0x5a), (0x61, 0x7a)]
  | "alpha" => some [(0x41, 0x5a), (0x61, 0x7a)]
  | "ascii" => some [(0x00, 0x7f)]
  | "blank" => some [(0x09, 0x09), (0x20, 0x20)]
  | "cntrl" => some [(0x00, 0x1f), (0x7f, 0x7f)]
  | "digit" => some digits
  | "graph" => some [(0x21, 0x7e)]
  | "lower" => some [(0x61, 0x7a)]
  | "print" => some [(0x20, 0x7e)]
  | "punct" => some [(0x21, 0x2f), (0x3a, 0x40), (0x5b, 0x60), (0x7b, 0x7e)]
  | "space" => some spaces
  | "upper" => some [(0x41, 0x5a)]
  | "word" => some words
  | "xdigit" => some [(0x30, 0x39), (0x41, 0x46), (0x61, 0x66)]
  | _ => none

end CharSet
end NetNames
