/-!
TOML values and the tables that a document builds. A table remembers what may still extend it: a
header completes a table that deeper headers implied, and dotted keys extend tables that only
dotted keys made.
-/
namespace NetNames.Toml

inductive Origin where
  | header
  | implied
  | dotted
deriving DecidableEq, Repr

/-- Floats, dates and times are only told apart from other values. -/
inductive Value where
  | string (s : String)
  | integer (n : Int)
  | float
  | bool (b : Bool)
  | time
  | array (vs : List Value)
  | inline (origin : Origin) (ms : List (String × Value))
  | table (origin : Origin) (ms : List (String × Value))
  | tables (vs : List Value)

abbrev Members := List (String × Value)

namespace Members

def put (ms : Members) (key : String) (v : Value) : Members :=
  if ms.any (·.1 == key) then ms.map fun m => if m.1 == key then (key, v) else m
  else ms ++ [(key, v)]

end Members

/-- Changes the table that `path` leads to; tables missing on the way come from a header. -/
def below (change : Origin → Members → Option (Origin × Members)) (path : List String)
    (origin : Origin) (ms : Members) : Option (Origin × Members) :=
  match path with
  | [] => change origin ms
  | key :: rest => do
    let next ←
      match ms.lookup key with
      | none => do
        let (o, inner) ← below change rest .implied []
        some (.table o inner)
      | some (.table o inner) => do
        let (o, inner) ← below change rest o inner
        some (.table o inner)
      | some (.tables vs) =>
        match vs.reverse with
        | .table o inner :: before => do
          let (o, inner) ← below change rest o inner
          some (.tables (.table o inner :: before).reverse)
        | _ => none
      | some _ => none
    return (origin, Members.put ms key next)

/-- A table on the way of a dotted key, and how the key's value comes back into it. -/
structure Passage where
  origin : Origin
  members : Members
  close : Members → Value

/-- Adds a value under a dotted key, through tables that dotted keys made or headers implied; the
last of them must have been made by dotted keys. -/
def addDotted (made : Members → Value) (enter : Value → Option Passage) (v : Value) :
    Bool → Members → List String → Option Members
  | _, _, [] => none
  | free, ms, [key] =>
    if !free || ms.any (·.1 == key) then none else some (ms ++ [(key, v)])
  | _, ms, key :: rest => do
    let p ←
      match ms.lookup key with
      | none => some ⟨.dotted, [], made⟩
      | some t => enter t
    let inner ← addDotted made enter v (p.origin == .dotted) p.members rest
    return Members.put ms key (p.close inner)

/-- The last table of an array of tables may be passed, one that a header opened may not. -/
private def enterTable : Value → Option Passage
  | .table .header _ => none
  | .table o ms => some ⟨o, ms, .table o⟩
  | .tables vs =>
    match vs.reverse with
    | .table o ms :: before => some ⟨o, ms, fun ms => .tables (.table o ms :: before).reverse⟩
    | _ => none
  | _ => none

private def enterInline : Value → Option Passage
  | .inline .dotted ms => some ⟨.dotted, ms, .inline .dotted⟩
  | _ => none

/-- A document so far, and the path of the table that the next keys go to. -/
structure Document where
  root : Members
  current : List String

namespace Document

def empty : Document := ⟨[], []⟩

private def atPath (d : Document) (path : List String)
    (change : Origin → Members → Option (Origin × Members)) : Option Document := do
  let (_, root) ← below change path .header d.root
  return { d with root }

/-- Opens the table of a header. -/
def openTable (d : Document) (path : List String) : Option Document := do
  let key ← path.getLast?
  let d ← d.atPath path.dropLast fun o ms =>
    match ms.lookup key with
    | none => some (o, ms ++ [(key, .table .header [])])
    | some (.table .implied inner) => some (o, Members.put ms key (.table .header inner))
    | some _ => none
  return { d with current := path }

/-- Opens another table of an array of tables. -/
def openElement (d : Document) (path : List String) : Option Document := do
  let key ← path.getLast?
  let d ← d.atPath path.dropLast fun o ms =>
    match ms.lookup key with
    | none => some (o, ms ++ [(key, .tables [.table .header []])])
    | some (.tables vs) => some (o, Members.put ms key (.tables (vs ++ [.table .header []])))
    | some _ => none
  return { d with current := path }

def add (d : Document) (key : List String) (v : Value) : Option Document :=
  d.atPath d.current fun o ms => do
    return (o, ← addDotted (.table .dotted) enterTable v true ms key)

end Document

/-- The inline table of the keys and values in their order. -/
def inlineTable? (kvs : List (List String × Value)) : Option Value := do
  let ms ← kvs.foldlM (fun ms (key, v) => addDotted (.inline .dotted) enterInline v true ms key) []
  return .inline .header ms

end NetNames.Toml
