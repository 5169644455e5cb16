import NetNames.Keyed
import NetNames.Log
import NetNames.Directory.Dn

/-!
What a directory holds, what it is asked and how it refuses. A directory is anything that answers
searches and changes one at a time and may become another directory by doing so.
-/
namespace NetNames

structure DirectoryEntry where
  dn : String
  attributes : Keyed (List String)
deriving DecidableEq

namespace DirectoryEntry

/-- The values of an attribute; attribute names compare without regard to ASCII case. -/
def values? (e : DirectoryEntry) (name : String) : Option (List String) :=
  (e.attributes.entries.find? (fun a => sameName a.1 name)).map (·.2)
where
  sameName (a b : String) : Bool := Text.sameIgnoringCase a b

def firstValue? (e : DirectoryEntry) (name : String) : Option String :=
  (e.values? name).bind (·.head?)

end DirectoryEntry

inductive Scope where
  | base | oneLevel | subtree
deriving DecidableEq, Repr

/-- When alias entries of the directory are followed. -/
inductive Deref where
  | never | searching | finding | always
deriving DecidableEq, Repr

structure SearchRequest where
  base : String
  filter : String
  attributes : List String
  scope : Scope
  deref : Deref
deriving DecidableEq, Repr

abbrev Attributes := List (String × List String)

inductive Change where
  | add (dn : String) (attributes : Attributes)
  | replace (dn name : String) (values : List String)
  | delete (dn : String)
deriving DecidableEq, Repr

inductive Operation where
  | search | add | modify | delete
deriving DecidableEq, Repr

def Operation.text : Operation → String
  | .search => "search"
  | .add => "add"
  | .modify => "modify"
  | .delete => "delete"

def Change.operation : Change → Operation
  | .add _ _ => .add
  | .replace _ _ _ => .modify
  | .delete _ => .delete

def Change.dn : Change → String
  | .add dn _ => dn
  | .replace dn _ _ => dn
  | .delete dn => dn

/-- A result code of the server with its text. -/
structure ServerResult where
  code : Nat
  text : String
deriving DecidableEq, Repr

def ServerResult.codeName (code : Nat) : String :=
  match code with
  | 0 => "success"
  | 1 => "operationsError"
  | 2 => "protocolError"
  | 3 => "timeLimitExceeded"
  | 4 => "sizeLimitExceeded"
  | 5 => "compareFalse"
  | 6 => "compareTrue"
  | 7 => "authMethodNotSupported"
  | 8 => "strongerAuthRequired"
  | 10 => "referral"
  | 11 => "adminLimitExceeded"
  | 12 => "unavailableCriticalExtension"
  | 13 => "confidentialityRequired"
  | 14 => "saslBindInProgress"
  | 16 => "noSuchAttribute"
  | 17 => "undefinedAttributeType"
  | 18 => "inappropriateMatching"
  | 19 => "constraintViolation"
  | 20 => "attributeOrValueExists"
  | 21 => "invalidAttributeSyntax"
  | 32 => "noSuchObject"
  | 33 => "aliasProblem"
  | 34 => "invalidDNSyntax"
  | 36 => "aliasDereferencingProblem"
  | 48 => "inappropriateAuthentication"
  | 49 => "invalidCredentials"
  | 50 => "insufficientAccessRights"
  | 51 => "busy"
  | 52 => "unavailable"
  | 53 => "unwillingToPerform"
  | 54 => "loopDetect"
  | 64 => "namingViolation"
  | 65 => "objectClassViolation"
  | 66 => "notAllowedOnNonLeaf"
  | 67 => "notAllowedOnRDN"
  | 68 => "entryAlreadyExists"
  | 69 => "objectClassModsProhibited"
  | 71 => "affectsMultipleDSAs"
  | 80 => "other"
  | 88 => "abandoned"
  | 122 => "assertionFailed"
  | _ => "unknown"

def ServerResult.message (r : ServerResult) : String :=
  "LDAP operation result: rc=" ++ toString r.code ++ " (" ++ codeName r.code ++
    "), dn: \"\", text: \"" ++ r.text ++ "\""

inductive ConnectFault where
  | relativeUrl
  | emptyHost
  | badHostCharacter
  | badHostName
  | badDottedAddress
  | badAddress
  | badEndpoint
  | unknownScheme (scheme : String)
  | emptySocketPath
  | socketWithEndpoint
  | unreachable
deriving DecidableEq, Repr

def ConnectFault.message : ConnectFault → String
  | .relativeUrl => "url parse error: relative URL without a base"
  | .emptyHost => "url parse error: empty host"
  | .badHostCharacter => "url parse error: invalid domain character"
  | .badHostName => "url parse error: invalid international domain name"
  | .badDottedAddress => "url parse error: invalid IPv4 address"
  | .badAddress => "url parse error: invalid IPv6 address"
  | .badEndpoint => "url parse error: invalid port number"
  | .unknownScheme scheme => "unknown LDAP URL scheme: " ++ scheme
  | .emptySocketPath => "empty Unix domain socket path"
  | .socketWithEndpoint => "the port must be empty in the ldapi scheme"
  | .unreachable => "I/O error: Connection refused (os error 111)"

/-- Why an operation on an entry was refused. -/
inductive Refusal where
  | injected
  | result (r : ServerResult)
deriving DecidableEq, Repr

def Refusal.message : Refusal → String
  | .injected => "injected failure"
  | .result r => "result code " ++ toString r.code ++ ": " ++ r.text

def refusedMessage (operation : Operation) (dn : String) (why : Refusal) : String :=
  s!"directory {operation.text} on '{dn}' failed: {why.message}"

inductive SearchFault where
  | injected (base : String)
  | unsupportedFilter (filter : String)
  | badFilter
  | result (r : ServerResult)
deriving DecidableEq, Repr

def SearchFault.message : SearchFault → String
  | .injected base => refusedMessage .search base .injected
  | .unsupportedFilter filter => s!"unsupported filter '{filter}'"
  | .badFilter => "filter parse error"
  | .result r => r.message

inductive DirectoryError where
  | connectFailed (url : String) (fault : ConnectFault)
  | bindFailed (dn : String) (result : ServerResult)
  | searchFailed (base : String) (fault : SearchFault)
  | refused (operation : Operation) (dn : String) (why : Refusal)
  | noSuchEntry (dn : String)
  | alreadyExists (dn : String)
  | emptyValues
deriving DecidableEq, Repr

def DirectoryError.message : DirectoryError → String
  | .connectFailed url fault => s!"cannot connect to directory at '{url}': {fault.message}"
  | .bindFailed dn result => s!"directory bind failed for '{dn}': {result.message}"
  | .searchFailed base fault => s!"directory search under '{base}' failed: {fault.message}"
  | .refused operation dn why => refusedMessage operation dn why
  | .noSuchEntry dn => s!"no such directory entry: {dn}"
  | .alreadyExists dn => s!"directory entry already exists: {dn}"
  | .emptyValues => "LDAP protocol error: empty value set for Add"

/-- The result of a request and the directory after it. -/
abbrev Reply (σ α : Type) := Except DirectoryError α × σ

class Directory (σ : Type) where
  search : SearchRequest → σ → Logged (Reply σ (List DirectoryEntry))
  perform : Change → σ → Logged (Reply σ Unit)

end NetNames
