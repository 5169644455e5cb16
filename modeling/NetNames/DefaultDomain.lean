import NetNames.NamesFile.Error
import NetNames.Log
import NetNames.Descriptor
import NetNames.Text.Lines

/-!
The default domain, read from the profile that stands beside a names file. The first line that
assigns it counts; a profile that does not exist assigns nothing.
-/
namespace NetNames.DefaultDomain

open Text

def domainWord : List Char := "NAMES.DEFAULT_DOMAIN".toList

def isComment (line : List Char) : Bool := (trimStart line).head? == some '#'

/-- The longest domain at the start of the value that the line assigns. -/
def assigned? (line : List Char) : Option (List Char) := do
  let r ← afterWord domainWord (skipSpaces line)
  let r ← afterSpaced '=' r
  let (domain, _) ← Descriptor.takeRun isName r
  some domain

def ofText (s : List Char) : Option (List Char) :=
  ((lines s).filter (!isComment ·)).findSome? assigned?

def profilePath (namesFile : String) : String := Path.join (Path.parent namesFile) "sqlnet.ora"

def read (t : FileTree) (profile : String) : Logged (Except NamesError (Option String)) := do
  match t.read profile with
  | .error .missing =>
    .note .debug "no sqlnet.ora" [("path", .bare profile)]
    return .ok none
  | .error fault => return .error (.unreadable profile fault)
  | .ok bytes =>
    let domain := (ofText (decodeLossy bytes)).map String.ofList
    .note .debug "read sqlnet.ora" [("path", .bare profile), ("domain", .optional domain)]
    return .ok domain

end NetNames.DefaultDomain
