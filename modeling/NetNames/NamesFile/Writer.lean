import NetNames.NamesFile.Error
import NetNames.Registry

/-!
Writing a registry as a names file. Entries with a blank descriptor are left out, because a reader
drops them; the header counts the entries that are written.
-/
namespace NetNames.NamesFile

open Text

def hasDescriptor (e : ServiceEntry) : Bool := !(trim e.description.toList).isEmpty

def header (count : Nat) (stamp : String) : String :=
  "# tnsnames.ora generated by tnsync\n# " ++ toString count ++ " entries, " ++ stamp ++ "\n"

def definitionText (e : ServiceEntry) : String :=
  "\n" ++ e.name ++ " =\n  " ++ e.description ++ "\n"

/-- The text of the registry; `stamp` is the time named in its header. -/
def render (stamp : String) (r : Registry) : String :=
  let es := r.toList.filter hasDescriptor
  header es.length stamp ++ String.join (es.map definitionText)

def renderLogged (stamp : String) (r : Registry) : Logged String := do
  .tell <| (r.toList.filter (!hasDescriptor ·)).map fun e =>
    ⟨.debug, "skipping entry with empty descriptor", [("alias", .bare e.name)]⟩
  return render stamp r

@[simp] theorem value_renderLogged (stamp : String) (r : Registry) :
    (renderLogged stamp r).value = render stamp r := rfl

/-- An output with the bytes that it took: it takes at most `room` more, and its flush may fail. -/
structure Output where
  taken : List UInt8
  room : Option Nat
  flushFault : Option String

def Output.put (o : Output) (bytes : List UInt8) : Except OutputFault Unit × Output :=
  match o.room with
  | none => (.ok (), { o with taken := o.taken ++ bytes })
  | some n =>
    let o := { o with taken := o.taken ++ bytes.take n, room := some (n - bytes.length) }
    if bytes.length ≤ n then (.ok (), o) else (.error .full, o)

def Output.flush (o : Output) : Except OutputFault Unit :=
  match o.flushFault with
  | none => .ok ()
  | some reason => .error (.flush reason)

/-- Writes the text and flushes, unless the output is full before. -/
def writeText (o : Output) (text : String) : Except NamesError Unit × Output :=
  match o.put (encode text.toList) with
  | (.error e, o) => (.error (.unwritable e), o)
  | (.ok (), o) =>
    match o.flush with
    | .error e => (.error (.unwritable e), o)
    | .ok () => (.ok (), o)

end NetNames.NamesFile
