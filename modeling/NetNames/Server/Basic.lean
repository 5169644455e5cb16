import NetNames.Directory.Store

/-!
A directory server. It keeps entries, knows its users, may answer certain requests with a fixed
result, and writes down every request that reaches it.
-/
namespace NetNames

inductive ServerRequest where
  | bind (dn password : String)
  | search (base : String) (assertion : Assertion) (attributes : List String) (scope : Scope)
      (deref : Deref)
  | change (c : Change)
deriving DecidableEq, Repr

/-- The kinds of request that a fixed result can answer. -/
inductive RequestKind where
  | bind
  | operation (o : Operation)
deriving DecidableEq, Repr

namespace ServerRequest

def kind : ServerRequest → RequestKind
  | .bind _ _ => .bind
  | .search .. => .operation .search
  | .change c => .operation c.operation

/-- The name that a request is about; the base of a search. -/
def dn : ServerRequest → String
  | .bind dn _ => dn
  | .search base .. => base
  | .change c => c.dn

end ServerRequest

/-- A result that answers every request of one kind on one name. -/
structure FixedReply where
  kind : RequestKind
  dn : String
  result : ServerResult
deriving DecidableEq, Repr

/-- Bytes that an entry has as one more value of an attribute when it is found. -/
structure ExtraValue where
  dn : String
  name : String
  bytes : List UInt8
deriving DecidableEq, Repr

/-- Where no users are listed, everyone may bind. -/
structure Server where
  store : DirectoryStore
  users : Option (List (String × String)) := none
  replies : List FixedReply := []
  extras : List ExtraValue := []
  requests : List ServerRequest := []

/-- An entry with its values as bytes. -/
structure FoundEntry where
  dn : String
  attributes : List (String × List (List UInt8))
deriving DecidableEq

namespace Server

def success : ServerResult := ⟨0, ""⟩
def noSuchObject : ServerResult := ⟨32, ""⟩
def entryAlreadyExists : ServerResult := ⟨68, ""⟩
def wrongPassword : ServerResult := ⟨49, "wrong password"⟩

def resultOf : Except DirectoryError Unit → ServerResult
  | .ok () => success
  | .error (.noSuchEntry _) => noSuchObject
  | .error (.alreadyExists _) => entryAlreadyExists
  | .error e => ⟨80, e.message⟩

/-- The first fixed result for a request. -/
def reply? (s : Server) (r : ServerRequest) : Option ServerResult :=
  (s.replies.find? fun f => f.kind == r.kind && Dn.key f.dn == Dn.key r.dn).map (·.result)

def receive (s : Server) (r : ServerRequest) : Server := { s with requests := s.requests ++ [r] }

def knows (s : Server) (dn password : String) : Bool :=
  match s.users with
  | none => true
  | some users => users.any fun u => Dn.key u.1 == Dn.key dn && u.2 == password

def bind (s : Server) (dn password : String) : ServerResult × Server :=
  let r := ServerRequest.bind dn password
  let result := if s.knows dn password then success else wrongPassword
  ((s.reply? r).getD result, s.receive r)

private def addValue (attributes : List (String × List (List UInt8))) (e : ExtraValue) :
    List (String × List (List UInt8)) :=
  if attributes.any (·.1 == e.name) then
    attributes.map fun (name, vs) => (name, if name == e.name then vs ++ [e.bytes] else vs)
  else attributes ++ [(e.name, [e.bytes])]

/-- An entry as it is sent, with the bytes that it has besides its texts. -/
def present (s : Server) (e : DirectoryEntry) : FoundEntry :=
  let attributes := e.attributes.entries.map fun (name, vs) =>
    (name, vs.map fun v => Text.encode v.toList)
  ⟨e.dn, (s.extras.filter (·.dn == e.dn)).foldl addValue attributes⟩

/-- The entries in the scope for which the assertion holds. -/
def find (s : Server) (base : String) (a : Assertion) (attributes : List String) (scope : Scope) :
    List FoundEntry :=
  (s.store.toList.filter fun e => scope.reaches base e.dn && a.holds e).map fun e =>
    s.present (e.project attributes)

def search (s : Server) (base : String) (a : Assertion) (attributes : List String)
    (scope : Scope) (deref : Deref) : (ServerResult × List FoundEntry) × Server :=
  let r := ServerRequest.search base a attributes scope deref
  let answer :=
    match s.reply? r with
    | some result => (result, [])
    | none =>
      if s.store.contains base then (success, s.find base a attributes scope)
      else (noSuchObject, [])
  (answer, s.receive r)

def perform (s : Server) (c : Change) : ServerResult × Server :=
  let r := ServerRequest.change c
  match s.reply? r with
  | some result => (result, s.receive r)
  | none =>
    let (done, store) := s.store.perform c
    (resultOf done, { s.receive r with store })

end Server
end NetNames
