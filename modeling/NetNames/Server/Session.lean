import NetNames.Server.Basic
import NetNames.Server.Filter
import NetNames.Server.Url
import NetNames.Settings.Basic

/-!
A session with a directory server. A session is a directory: its searches and changes are sent to
the server one at a time, and the results of the server become values or errors.
-/
namespace NetNames

structure Session where
  url : String
  server : Server

namespace Session

/-- Binds, unless there is no name to bind as. -/
def bind (settings : Settings) (s : Server) : Logged (Except DirectoryError Unit × Server) := do
  let dn := settings.server.bindDn
  if dn == "" then return (.ok (), s)
  .note .debug "performing simple bind" [("bind_dn", .bare dn)]
  let (result, s) := s.bind dn (settings.password.getD "")
  return (if result.code == 0 then .ok () else .error (.bindFailed dn result), s)

/-- Opens a session, if a server listens; what it received stays with it if it refuses. -/
def connect (settings : Settings) (s : Option Server) :
    Logged (Except DirectoryError Session × Option Server) := do
  let url := settings.server.url
  .note .debug "connecting to directory" [("url", .bare url)]
  match Url.check url, s with
  | .error fault, s => return (.error (.connectFailed url fault), s)
  | .ok (), none => return (.error (.connectFailed url .unreachable), none)
  | .ok (), some s =>
    match ← bind settings s with
    | (.error e, s) => return (.error e, some s)
    | (.ok (), s) =>
      .note .info "directory connection established" [("url", .bare url)]
      return (.ok ⟨url, s⟩, some s)

/-- The values of an entry, without the attributes that have a value which is not text. -/
def received (e : FoundEntry) : DirectoryEntry :=
  ⟨e.dn, Keyed.ofList <| e.attributes.filterMap fun (name, vs) =>
    (vs.mapM Text.decode?).map fun texts => (name, texts.map String.ofList)⟩

/-- What a result other than success means for a change. -/
def checkResult (c : Change) (result : ServerResult) : Except DirectoryError Unit :=
  match result.code with
  | 0 => .ok ()
  | 32 => .error (.noSuchEntry c.dn)
  | 68 => .error (.alreadyExists c.dn)
  | _ => .error (.refused c.operation c.dn (.result result))

/-- The values as a set, in ascending order. -/
def valueSet (values : List String) : List String := (values.mergeSort (· ≤ ·)).eraseReps

/-- A change as it is sent, with sets of values; an attribute to add needs a value. -/
def sent? (c : Change) : Option Change :=
  match c with
  | .add dn attributes =>
    if attributes.any (·.2.isEmpty) then none
    else some (.add dn (attributes.map fun (name, vs) => (name, valueSet vs)))
  | .replace dn name values => some (.replace dn name (valueSet values))
  | .delete dn => some (.delete dn)

def doneMessage : Change → String × List (String × FieldValue)
  | .add dn _ => ("directory entry added", [("dn", .quoted dn)])
  | .replace dn name _ =>
    ("directory entry modified", [("dn", .quoted dn), ("attribute", .quoted name)])
  | .delete dn => ("directory entry deleted", [("dn", .quoted dn)])

def search (r : SearchRequest) (s : Session) :
    Except DirectoryError (List DirectoryEntry) × Session :=
  match Filter.parse? r.filter with
  | none => (.error (.searchFailed r.base .badFilter), s)
  | some a =>
    let ((result, found), server) := s.server.search r.base a r.attributes r.scope r.deref
    let s := { s with server }
    if result.code == 0 then (.ok (found.map received), s)
    else (.error (.searchFailed r.base (.result result)), s)

def perform (c : Change) (s : Session) : Except DirectoryError Unit × Session :=
  match sent? c with
  | none => (.error .emptyValues, s)
  | some c =>
    let (result, server) := s.server.perform c
    (checkResult c result, { s with server })

instance : Directory Session where
  search r s := do
    .note .debug "directory search" [("base", .bare r.base), ("filter", .bare r.filter)]
    let (reply, s) := s.search r
    if let .ok es := reply then
      .note .debug "directory search complete"
        [("base", .bare r.base), ("count", .number es.length)]
    return (reply, s)
  perform c s := do
    let (reply, s) := s.perform c
    if let .ok () := reply then
      let (message, fields) := doneMessage c
      .note .info message fields
    return (reply, s)

end Session
end NetNames
