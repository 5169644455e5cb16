import NetNames.Directory.Basic

/-!
A directory kept in memory. Entries stand under the key of their name; refusals can be injected
per operation and name, and every attempted change is written down before it is decided.
-/
namespace NetNames

structure DirectoryStore where
  entries : Keyed DirectoryEntry
  refusals : List (Operation × String)
  attempts : List (Operation × String)

/-- One assertion on an attribute: a value, or any value at all. -/
structure Assertion where
  name : String
  value : Option String
deriving DecidableEq, Repr

namespace Assertion

open Text

/-- Reads `(attribute=value)`, where a lone star asks for presence. -/
def parse? (filter : String) : Option Assertion :=
  match trim filter.toList with
  | '(' :: r =>
    match r.reverse with
    | ')' :: inner =>
      let inner := inner.reverse
      match inner.dropWhile (· != '=') with
      | [] => none
      | _ :: value =>
        let name := String.ofList (trim (inner.takeWhile (· != '=')))
        some ⟨name, if value = ['*'] then none else some (String.ofList value)⟩
    | _ => none
  | _ => none

def holds (a : Assertion) (e : DirectoryEntry) : Bool :=
  match a.value with
  | none =>
    sameIgnoringCase a.name "objectClass" ||
      ((e.values? a.name).map (!·.isEmpty)).getD false
  | some v => ((e.values? a.name).map (·.any (sameIgnoringCase · v))).getD false

end Assertion

namespace Scope

/-- Whether the scope with this base reaches the entry; names are compared by their keys. -/
def reaches (s : Scope) (base dn : String) : Bool :=
  let e := Dn.keyText dn.toList
  let b := Dn.keyText base.toList
  match s with
  | .base => e == b
  | .oneLevel => Dn.keyText (Dn.above e) == b
  | .subtree => e == b || (',' :: b).isSuffixOf e

end Scope

namespace DirectoryEntry

/-- The entry with the attributes asked for; all of them if none is named. -/
def project (e : DirectoryEntry) (names : List String) : DirectoryEntry :=
  { e with attributes := e.attributes.filter fun name _ =>
      names.isEmpty || names.any (Text.sameIgnoringCase · name) }

def replace (e : DirectoryEntry) (name : String) (values : List String) : DirectoryEntry :=
  let others := e.attributes.filter fun n _ => !Text.sameIgnoringCase n name
  { e with attributes := if values.isEmpty then others else others.insert name values }

end DirectoryEntry

namespace DirectoryStore

instance : EmptyCollection DirectoryStore := ⟨⟨∅, [], []⟩⟩

def insert (d : DirectoryStore) (e : DirectoryEntry) : DirectoryStore :=
  { d with entries := d.entries.insert (Dn.key e.dn) e }

def get? (d : DirectoryStore) (dn : String) : Option DirectoryEntry := d.entries.get? (Dn.key dn)
def contains (d : DirectoryStore) (dn : String) : Bool := d.entries.contains (Dn.key dn)
def toList (d : DirectoryStore) : List DirectoryEntry := d.entries.values
def ofList (es : List DirectoryEntry) : DirectoryStore := es.foldl insert ∅

/-- From now on the operation is refused on this name; for a search the name is its base. -/
def refuse (d : DirectoryStore) (operation : Operation) (dn : String) : DirectoryStore :=
  { d with refusals := (operation, Dn.key dn) :: d.refusals }

def isRefused (d : DirectoryStore) (operation : Operation) (dn : String) : Bool :=
  d.refusals.contains (operation, Dn.key dn)

private def noteRefusal (operation : Operation) (dn : String) : Logged Unit :=
  .note .debug "injected directory failure"
    [("operation", .quoted operation.text), ("dn", .quoted dn)]

/-- The entries that a search finds, or why it fails. -/
def find (d : DirectoryStore) (r : SearchRequest) : Except DirectoryError (List DirectoryEntry) :=
  if d.isRefused .search r.base then .error (.searchFailed r.base (.injected r.base))
  else if !d.contains r.base then .error (.noSuchEntry r.base)
  else match Assertion.parse? r.filter with
    | none => .error (.searchFailed r.base (.unsupportedFilter r.filter))
    | some a =>
      .ok <| (d.toList.filter fun e => r.scope.reaches r.base e.dn && a.holds e).map
        (·.project r.attributes)

/-- The entries after a change that is not refused. -/
def changed (d : DirectoryStore) (c : Change) : Except DirectoryError (Keyed DirectoryEntry) :=
  match c with
  | .add dn attributes =>
    if d.contains dn then .error (.alreadyExists dn)
    else .ok (d.entries.insert (Dn.key dn) ⟨dn, Keyed.ofList attributes⟩)
  | .replace dn name values =>
    match d.get? dn with
    | none => .error (.noSuchEntry dn)
    | some e => .ok (d.entries.insert (Dn.key dn) (e.replace name values))
  | .delete dn =>
    if d.contains dn then .ok (d.entries.erase (Dn.key dn)) else .error (.noSuchEntry dn)

/-- Attempts a change: an injected refusal is decided first, then whether the entry exists. -/
def perform (d : DirectoryStore) (c : Change) : Except DirectoryError Unit × DirectoryStore :=
  let d := { d with attempts := d.attempts ++ [(c.operation, c.dn)] }
  if d.isRefused c.operation c.dn then (.error (.refused c.operation c.dn .injected), d)
  else match d.changed c with
    | .error e => (.error e, d)
    | .ok entries => (.ok (), { d with entries })

instance : Directory DirectoryStore where
  search r d := do
    if d.isRefused .search r.base then noteRefusal .search r.base
    return (d.find r, d)
  perform c d := do
    if d.isRefused c.operation c.dn then noteRefusal c.operation c.dn
    return d.perform c

theorem value_search (d : DirectoryStore) (r : SearchRequest) :
    (Directory.search r d).value = (d.find r, d) := by
  simp only [Directory.search]
  split <;> rfl

theorem value_perform (d : DirectoryStore) (c : Change) :
    (Directory.perform c d).value = d.perform c := by
  simp only [Directory.perform]
  split <;> rfl

theorem perform_attempts (d : DirectoryStore) (c : Change) :
    (d.perform c).2.attempts = d.attempts ++ [(c.operation, c.dn)] := by
  simp only [perform]
  split
  · rfl
  · split <;> rfl

/-- A change that fails leaves the entries as they were. -/
theorem entries_of_perform_error {d : DirectoryStore} {c : Change} {e : DirectoryError}
    (h : (d.perform c).1 = .error e) : (d.perform c).2.entries = d.entries := by
  simp only [perform] at h ⊢
  split
  · rfl
  · split
    · rfl
    · simp_all

end DirectoryStore
end NetNames
