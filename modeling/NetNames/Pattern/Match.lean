import NetNames.Pattern.Basic

/-!
Whether a pattern occurs in a text. The places of a text of length n are 0 to n, a set of places
is a number whose bits they are, and a pattern leads from the places where it may start to the
places where it may end.
-/
namespace NetNames

abbrev Places := Nat

/-- The places before the characters that pass the test. -/
def placesBefore (s : List Char) (p : Char → Bool) : Places :=
  s.foldr (fun c places => 2 * places + (p c).toNat) 0

namespace Look

def holds (l : Look) (before after : Option Char) : Bool :=
  let word (c : Option Char) : Bool := c.any Text.isWord
  match l with
  | .start => before.isNone
  | .stop => after.isNone
  | .lineStart => before.all (· == '\n')
  | .lineStop => after.all (· == '\n')
  | .lineStartCr => before.all (· == '\n') || (before == some '\r' && after != some '\n')
  | .lineStopCr =>
    after.all (· == '\r') || (after == some '\n' && before != some '\r')
  | .word => word before != word after
  | .notWord => word before == word after
  | .wordStart => !word before && word after
  | .wordStop => word before && !word after
  | .noWordBefore => !word before
  | .noWordAfter => !word after

/-- The places of the text where the condition holds, the text preceded by `before`. -/
def places (l : Look) (before : Option Char) : List Char → Places
  | [] => (l.holds before none).toNat
  | c :: r => (l.holds before (some c)).toNat + 2 * l.places (some c) r

end Look

/-- The places reached in exactly `n` rounds. -/
def rounds (step : Places → Places) : Nat → Places → Places
  | 0, places => places
  | n + 1, places => if places = 0 then 0 else rounds step n (step places)

/-- The places reached in at most `n` rounds. -/
def roundsUpTo (step : Places → Places) : Nat → Places → Places
  | 0, places => places
  | n + 1, places =>
    let more := places ||| step places
    if more = places then places else roundsUpTo step n more

namespace Pattern

mutual

/-- Where the pattern may end in `s` if it may start at `places`. -/
def ends (s : List Char) : Pattern → Places → Places
  | .empty, places => places
  | .char c, places => 2 * (places &&& placesBefore s (· == c))
  | .oneOf set, places => 2 * (places &&& placesBefore s set.has)
  | .look l, places => places &&& l.places none s
  | .repeated p least most, places =>
    let extra := match most with
      | none => s.length + 1
      | some n => min (n - least) (s.length + 1)
    roundsUpTo (p.ends s) extra (rounds (p.ends s) least places)
  | .group _ p, places => p.ends s places
  | .sequence ps, places => endsOfAll s ps places
  | .choice ps, places => endsOfAny s ps places

def endsOfAll (s : List Char) : List Pattern → Places → Places
  | [], places => places
  | p :: ps, places => endsOfAll s ps (p.ends s places)

def endsOfAny (s : List Char) : List Pattern → Places → Places
  | [], _ => 0
  | p :: ps, places => p.ends s places ||| endsOfAny s ps places

end

def occursIn (p : Pattern) (s : List Char) : Bool := p.ends s (1 <<< (s.length + 1) - 1) != 0

end Pattern
end NetNames
