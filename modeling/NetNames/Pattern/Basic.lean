import NetNames.Pattern.CharSet

/-!
Patterns for choosing aliases: what they are made of, how deep they nest and how much room their
unfolded form takes. Both measures are bounded for a pattern to be accepted.
-/
namespace NetNames

/-- A condition on the place between two characters. -/
inductive Look where
  | start | stop
  | lineStart | lineStop
  | lineStartCr | lineStopCr
  | word | notWord
  | wordStart | wordStop
  | noWordBefore | noWordAfter
deriving DecidableEq, Repr

/-- A group that is counted: its number, from one on, and perhaps its name. -/
structure GroupMark where
  number : Nat
  name : Option (List Char)
deriving DecidableEq, Repr

inductive Pattern where
  | empty
  | char (c : Char)
  | oneOf (s : CharSet)
  | look (l : Look)
  | repeated (p : Pattern) (least : Nat) (most : Option Nat)
  | group (mark : GroupMark) (p : Pattern)
  | sequence (ps : List Pattern)
  | choice (ps : List Pattern)

namespace Pattern

def mkSequence : List Pattern → Pattern
  | [] => .empty
  | [p] => p
  | ps => .sequence ps

def mkChoice : List Pattern → Pattern
  | [p] => p
  | ps => .choice ps

def mkRepeated (p : Pattern) (least : Nat) (most : Option Nat) : Pattern :=
  if least = 0 ∧ most = some 0 then .empty
  else if least = 1 ∧ most = some 1 then p
  else .repeated p least most

mutual

/-- The number of patterns around the innermost one. -/
def depth : Pattern → Nat
  | .empty | .char _ | .oneOf _ | .look _ => 0
  | .repeated p _ _ => p.depth + 1
  | .group _ p => p.depth + 1
  | .sequence ps => deepest ps + 1
  | .choice ps => deepest ps + 1

def deepest : List Pattern → Nat
  | [] => 0
  | p :: ps => max p.depth (deepest ps)

end

mutual

def acceptsEmpty : Pattern → Bool
  | .empty | .look _ => true
  | .char _ | .oneOf _ => false
  | .repeated p least _ => least == 0 || p.acceptsEmpty
  | .group _ p => p.acceptsEmpty
  | .sequence ps => allAcceptEmpty ps
  | .choice ps => anyAcceptsEmpty ps

def allAcceptEmpty : List Pattern → Bool
  | [] => true
  | p :: ps => p.acceptsEmpty && allAcceptEmpty ps

def anyAcceptsEmpty : List Pattern → Bool
  | [] => false
  | p :: ps => p.acceptsEmpty || anyAcceptsEmpty ps

end

mutual

/-- The groups of the pattern in their order. -/
def groups : Pattern → List GroupMark
  | .empty | .char _ | .oneOf _ | .look _ => []
  | .repeated p _ _ => p.groups
  | .group mark p => mark :: p.groups
  | .sequence ps => groupsOfAll ps
  | .choice ps => groupsOfAll ps

def groupsOfAll : List Pattern → List GroupMark
  | [] => []
  | p :: ps => p.groups ++ groupsOfAll ps

end

/-- Room for one place of the unfolded form, for one way on from a place, for one range, for the
number of a group and for a name besides its characters. -/
def placeRoom : Nat := 32
def wayRoom : Nat := 4
def rangeRoom : Nat := 8
def numberRoom : Nat := 16
def nameRoom : Nat := 28

mutual

/-- The room that the unfolded form takes; a repetition takes its pattern as often as it counts. -/
def room : Pattern → Nat
  | .empty | .char _ | .look _ => placeRoom
  | .oneOf s => placeRoom + s.length * rangeRoom
  | .repeated p least most =>
    let once := p.room
    match most with
    | none =>
      if least = 0 && p.acceptsEmpty then once + 3 * placeRoom + 4 * wayRoom
      else max least 1 * once + placeRoom + 2 * wayRoom
    | some most =>
      if least = most then max (least * once) placeRoom
      else if least = 0 && most = 1 then once + 2 * placeRoom + 2 * wayRoom
      else
        max (least * once) placeRoom + placeRoom +
          (most - least) * (once + placeRoom + 2 * wayRoom)
  | .group _ p => p.room + 2 * placeRoom
  | .sequence ps => roomOfAll ps
  | .choice ps => roomOfAll ps + 2 * placeRoom + ps.length * wayRoom

def roomOfAll : List Pattern → Nat
  | [] => 0
  | p :: ps => p.room + roomOfAll ps

end

/-- The room for the groups: numbers are kept up to the greatest one, and names as UTF-8. -/
def roomOfGroups (marks : List GroupMark) : Nat :=
  let greatest := (marks.map (·.number)).foldl max 0
  let names := marks.filterMap (·.name)
  greatest * numberRoom +
    names.foldl (fun n name => n + nameRoom + (String.ofList name).utf8ByteSize) 0

/-- The room of the pattern and of the match as a whole, which is a group with the number zero. -/
def wholeRoom (p : Pattern) : Nat :=
  p.room + 3 * placeRoom + numberRoom + roomOfGroups p.groups

def depthLimit : Nat := 50
def roomLimit : Nat := 10 * 1024 * 1024

/-- Whether the pattern is small enough to be used. -/
def isBounded (p : Pattern) : Bool :=
  p.depth ≤ depthLimit && p.wholeRoom ≤ roomLimit

end Pattern
end NetNames
