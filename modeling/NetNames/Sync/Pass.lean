import NetNames.Alias
import NetNames.Classification
import NetNames.Directory.Layout
import NetNames.Tally

/-!
One pass over a classification, alias by alias. A step decides from the registries and from the
steps before it whether to ask the directory for a change; a refusal is counted and the pass goes
on. The tally and the list of changes asked for are read off the steps.
-/
namespace NetNames.Sync

/-- What a pass works from. -/
structure Job where
  localNames : Registry
  published : Registry
  domain : String
  layout : Layout

inductive Reason where
  | noLocalEntry
  | missingOnOneSide
  | noDirectoryEntry
  | sharedDeleteFailed
  | deleteFailed
  | refused (e : DirectoryError)
deriving DecidableEq, Repr

def Reason.text : Reason → String
  | .noLocalEntry => "no local entry"
  | .missingOnOneSide => "entry missing locally or in directory"
  | .noDirectoryEntry => "no directory entry"
  | .sharedDeleteFailed => "delete of shared entry failed"
  | .deleteFailed => "delete failed"
  | .refused e => e.message

inductive Outcome where
  | counted (s : Status)
  | failed (why : Reason)
deriving DecidableEq, Repr

/-- A change that was asked for, and why it was refused if it was. -/
structure Call where
  change : Change
  refusal : Option DirectoryError
deriving DecidableEq, Repr

structure Step where
  name : String
  status : Status
  call : Option Call
  outcome : Outcome
deriving DecidableEq, Repr

def tallyStep (t : Tally) (s : Step) : Tally :=
  match s.outcome with
  | .counted status => t.record status
  | .failed why => t.recordFailure ⟨s.name, s.status, why.text⟩

def tallyOf (steps : List Step) : Tally := steps.foldl tallyStep ∅
def callsOf (steps : List Step) : List Call := steps.filterMap (·.call)

/-- The names added so far, and the names whose deletion was tried, with its success. -/
structure Progress where
  added : List String := []
  deleted : List (String × Bool) := []

def Progress.note (p : Progress) (c : Change) (succeeded : Bool) : Progress :=
  match c with
  | .add dn _ => if succeeded then { p with added := Dn.key dn :: p.added } else p
  | .replace _ _ _ => p
  | .delete dn => { p with deleted := (Dn.key dn, succeeded) :: p.deleted }

inductive Decision where
  | settled (o : Outcome)
  | ask (c : Change)
deriving DecidableEq, Repr

namespace Job

/-- The local entry of an alias: under the alias itself, else under what it resolves to. -/
def localEntry (j : Job) (name : String) : Logged (Option ServiceEntry) :=
  match j.localNames.get? name with
  | some e => pure (some e)
  | none => Alias.resolveLogged name j.localNames j.domain

/-- The keys of the directory entries that a classification keeps. -/
def retained (j : Job) (c : Classification) : List String :=
  (j.published.toList.filter (fun e => c.get? e.name != some .absentLocally)).map
    (Dn.key ·.source)

def decideNew (j : Job) (p : Progress) (name : String) : Logged Decision := do
  match ← j.localEntry name with
  | none =>
    .note .warn "no local entry for new alias, skipping" [("alias", .quoted name)]
    return .settled (.failed .noLocalEntry)
  | some e =>
    let qualified := Alias.qualified name j.domain
    let dn := j.layout.entryDn qualified
    if p.added.contains (Dn.key dn) then
      .note .debug "entry already added by this pass" [("alias", .quoted name), ("dn", .bare dn)]
      return .settled (.counted .new)
    else return .ask (.add dn (j.layout.newAttributes qualified e.description))

def decideModified (j : Job) (name : String) : Logged Decision := do
  let found ← Alias.resolveLogged name j.published j.domain
  let target := found.or (j.published.get? name)
  match target, ← j.localEntry name with
  | some t, some e =>
    return .ask (.replace t.source j.layout.schema.descriptorAttribute [e.description])
  | _, _ =>
    .note .warn "modified alias missing on one side, skipping" [("alias", .quoted name)]
    return .settled (.failed .missingOnOneSide)

def decideAbsent (j : Job) (retained : List String) (p : Progress) (name : String) :
    Logged Decision := do
  let found ←
    match j.published.get? name with
    | some e => pure (some e)
    | none => Alias.resolveLogged name j.published j.domain
  match found with
  | none =>
    .note .warn "absent alias not in directory mirror, skipping" [("alias", .quoted name)]
    return .settled (.failed .noDirectoryEntry)
  | some e =>
    let fields := [("alias", .quoted name), ("dn", .bare e.source)]
    if retained.contains (Dn.key e.source) then
      .note .debug "entry still backs a kept alias, not deleting" fields
      return .settled (.counted .unchanged)
    else match p.deleted.lookup (Dn.key e.source) with
      | some true =>
        .note .debug "entry already deleted" fields
        return .settled (.counted .absentLocally)
      | some false => return .settled (.failed .sharedDeleteFailed)
      | none => return .ask (.delete e.source)

def decision (j : Job) (retained : List String) (p : Progress) (name : String) :
    Status → Logged Decision
  | .unchanged => pure (.settled (.counted .unchanged))
  | .skip => pure (.settled (.counted .skip))
  | .new => j.decideNew p name
  | .modified => j.decideModified name
  | .absentLocally => j.decideAbsent retained p name

end Job

variable {σ : Type} [Directory σ]

private def noteRefused (c : Change) (name : FieldValue) (e : DirectoryError) : Logged Unit :=
  .note .warn (c.operation.text ++ " failed")
    [("alias", name), ("dn", .bare c.dn), ("error", .bare e.message)]

/-- Decides about one alias and carries the decision out. -/
def step (j : Job) (retained : List String) (p : Progress) (d : σ) (name : String)
    (s : Status) : Logged (Step × Progress × σ) := do
  match ← j.decision retained p name s with
  | .settled o => return (⟨name, s, none, o⟩, p, d)
  | .ask c =>
    let (reply, d) ← Directory.perform c d
    match reply with
    | .ok () => return (⟨name, s, some ⟨c, none⟩, .counted s⟩, p.note c true, d)
    | .error e =>
      noteRefused c (.quoted name) e
      return (⟨name, s, some ⟨c, some e⟩, .failed (.refused e)⟩, p.note c false, d)

def stepAll (j : Job) (retained : List String) :
    Progress → σ → List (String × Status) → Logged (List Step × σ)
  | _, d, [] => pure ([], d)
  | p, d, (name, s) :: rest => do
    let (done, p, d) ← step j retained p d name s
    let (more, d) ← stepAll j retained p d rest
    return (done :: more, d)

/-- The steps of a pass and the directory after it. -/
structure Pass (σ : Type) where
  steps : List Step
  directory : σ

def Pass.tally (p : Pass σ) : Tally := tallyOf p.steps
def Pass.calls (p : Pass σ) : List Call := callsOf p.steps

/-- Asks for the changes that bring the directory to the local registry. -/
def apply (j : Job) (c : Classification) (d : σ) : Logged (Pass σ) := do
  let (steps, d) ← stepAll j (j.retained c) {} d c.toList
  .note .info "applied classification" [("tally", .bare (tallyOf steps).text)]
  return ⟨steps, d⟩

def clearAll : List (String × Bool) → σ → List ServiceEntry → Logged (List Step × σ)
  | _, d, [] => pure ([], d)
  | tried, d, e :: rest => do
    let key := Dn.key e.source
    let outcome (succeeded : Bool) : Outcome :=
      if succeeded then .counted .absentLocally else .failed .deleteFailed
    match tried.lookup key with
    | some succeeded =>
      let (more, d) ← clearAll tried d rest
      return (⟨e.name, .absentLocally, none, outcome succeeded⟩ :: more, d)
    | none =>
      let c := Change.delete e.source
      let (reply, d) ← Directory.perform c d
      match reply with
      | .ok () =>
        let (more, d) ← clearAll ((key, true) :: tried) d rest
        return (⟨e.name, .absentLocally, some ⟨c, none⟩, outcome true⟩ :: more, d)
      | .error err =>
        noteRefused c (.bare e.name) err
        let (more, d) ← clearAll ((key, false) :: tried) d rest
        return (⟨e.name, .absentLocally, some ⟨c, some err⟩, outcome false⟩ :: more, d)

/-- Asks for the deletion of every published entry, each name once. -/
def clear (published : Registry) (d : σ) : Logged (Pass σ) := do
  let (steps, d) ← clearAll [] d published.toList
  .note .info "cleared directory" [("tally", .bare (tallyOf steps).text)]
  return ⟨steps, d⟩

end NetNames.Sync
