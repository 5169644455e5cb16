import NetNames.NamesFile.Block
import NetNames.NamesFile.Error
import NetNames.Registry

/-!
Reading a names file into a registry. The blocks are entered in order and the last definition of
an alias stays; the entries of an included file are merged where its include line stands.
-/
namespace NetNames.NamesFile

open Text

/-- How an included path is read; `none` where include lines are not followed. -/
abbrev Follow := Option (String → Logged (Except NamesError Registry))

/-- Enters the definition of an alias unless its body is empty. -/
def define (source : String) (r : Registry) (name body : List Char) : Logged Registry := do
  if body.isEmpty then
    .note .debug "dropping alias with empty descriptor" [("alias", .bare (String.ofList name))]
    return r
  else
    let e := ServiceEntry.define (String.ofList name) (String.ofList body) source
    .tell (Descriptor.remarks e.description)
    match r.replaced? e with
    | some previous =>
      .note .debug "alias redefined, keeping the later definition"
        [("alias", .bare previous.name), ("previous_source", .bare previous.source)]
    | none => pure ()
    return r.insert e

def isQuote (c : Char) : Bool := c == '"' || c == '\''

/-- The path that an include line names, seen from the folder of its file. -/
def targetPath (folder : String) (target : List Char) : String :=
  Path.join folder (String.ofList (dropEnd isQuote ((trim target).dropWhile isQuote)))

/-- The paths that the include lines of a text name, in order. -/
def inclusions (folder : String) (text : List Char) : List String :=
  (Block.ofText text).filterMap fun
    | .inclusion target => some (targetPath folder target)
    | _ => none

def includeFile (follow : Follow) (path : String) (r : Registry) : Logged Registry := do
  match follow with
  | none =>
    .note .debug "IFILE not followed (recursion disabled)" [("include", .bare path)]
    return r
  | some read =>
    match ← read path with
    | .ok included =>
      .note .debug "merged IFILE entries"
        [("include", .bare path), ("count", .number included.size)]
      return r.merge included
    | .error e =>
      .note .warn "ignoring failed IFILE include"
        [("include", .bare path), ("error", .bare e.message)]
      return r

def Block.enter (follow : Follow) (source folder : String) (r : Registry) : Block → Logged Registry
  | .definition name body => define source r name body
  | .inclusion target => includeFile follow (targetPath folder target) r
  | .stray line => do
    .note .debug "ignoring text outside of any alias" [("line", .quoted (String.ofList line))]
    return r

/-- The registry of a text that came from `source`, with include paths read from `folder`. -/
def readWith (follow : Follow) (source folder : String) (text : List Char) : Logged Registry :=
  (Block.ofText text).foldlM (Block.enter follow source folder) ∅

end NetNames.NamesFile
