/-!
Punycode: a word of any characters written with ASCII letters, digits and hyphens. The ASCII
characters come first; the others follow as numbers that tell how far each lies from the one before
it, in order of their code points and of their places.
-/
namespace NetNames.Text.Punycode

/-- The value of a digit of base 36. -/
def digitValue? (c : Char) : Option Nat :=
  if 'a' ≤ c && c ≤ 'z' then some (c.toNat - 0x61)
  else if '0' ≤ c && c ≤ '9' then some (c.toNat - 0x30 + 26)
  else none

/-- A digit below the threshold of its place ends a number. -/
def threshold (bias place : Nat) : Nat := min 26 (max 1 (place - bias))

private def halve (delta k : Nat) : Nat × Nat :=
  if h : 455 < delta then halve (delta / 35) (k + 36) else (delta, k)
termination_by delta
decreasing_by exact Nat.div_lt_self (Nat.lt_trans (by decide) h) (by decide)

/-- The bias after a number: numbers are expected to stay about as great. -/
def adapt (delta count : Nat) (first : Bool) : Nat :=
  let delta := if first then delta / 700 else delta / 2
  let (delta, k) := halve (delta + delta / count) 0
  k + 36 * delta / (delta + 38)

/-- A number and the digits after it. -/
def readNumber (bias : Nat) : (place weight value : Nat) → List Char → Option (Nat × List Char)
  | _, _, _, [] => none
  | place, weight, value, c :: r => do
    let digit ← digitValue? c
    let value := value + digit * weight
    let t := threshold bias place
    if digit < t then return (value, r)
    readNumber bias (place + 36) (weight * (36 - t)) value r

/-- A word so far: the code point and the place that are reached, and the bias. -/
structure Progress where
  word : List Char
  code : Nat
  place : Nat
  bias : Nat
  first : Bool

/-- Puts the character that lies `delta` further into the word. -/
def Progress.insert? (p : Progress) (delta : Nat) : Option Progress :=
  let count := p.word.length + 1
  let code := p.code + (p.place + delta) / count
  let place := (p.place + delta) % count
  if code < 0xd800 || (0xe000 ≤ code && code ≤ 0x10ffff) then
    some ⟨p.word.take place ++ Char.ofNat code :: p.word.drop place, code, place + 1,
      adapt delta count p.first, false⟩
  else none

def readOn : Nat → Progress → List Char → Option (List Char)
  | _, p, [] => some p.word
  | 0, _, _ => none
  | n + 1, p, s => do
    let (delta, r) ← readNumber p.bias 36 1 0 s
    readOn n (← p.insert? delta) r

/-- The word that a text stands for. -/
def decode? (s : List Char) : Option (List Char) :=
  let digits := (s.reverse.takeWhile (· != '-')).reverse
  let plain := (s.take (s.length - digits.length)).dropLast
  if !plain.all (·.toNat < 0x80) then none
  else if plain.isEmpty then readOn s.length ⟨[], 0x80, 0, 72, true⟩ s
  else readOn digits.length ⟨plain, 0x80, 0, 72, true⟩ digits

end NetNames.Text.Punycode
