import NetNames.Alias
import NetNames.Classification

/-!
Comparing the local registry with the published one. Every published alias starts as absent
locally; a local alias takes the place of the published alias that it resolves to.
-/
namespace NetNames.Sync

/-- The state of a local entry: new, or judged by the descriptor that its alias resolves to. -/
def stateOf (published : Registry) (domain : String) (e : ServiceEntry) : Status :=
  match Alias.resolve e.name published domain with
  | some r => if r.description = e.description then .unchanged else .modified
  | none => .new

def seeds (published : Registry) : Classification :=
  published.names.foldl (fun c name => c.insert name .absentLocally) ∅

/-- Records a local entry. The published alias that it resolves to is no longer absent, unless it
is a local alias as well and so judged on its own. -/
def claim (localNames published : Registry) (domain : String) (c : Classification)
    (e : ServiceEntry) : Classification :=
  let freed :=
    match Alias.resolve e.name published domain with
    | some r => if localNames.contains r.name then c else c.erase r.name
    | none => c
  freed.insert e.name (stateOf published domain e)

def reconcile (localNames published : Registry) (domain : String) : Classification :=
  localNames.toList.foldl (claim localNames published domain) (seeds published)

/-- What is noticed when a local entry claims a published one that another claimed before. -/
private def sharedClaim (localNames : Registry) (first : String) (e r : ServiceEntry) : Record :=
  let fields := [("first", .quoted first), ("second", .bare e.name), ("mirror", .bare r.name)]
  if (localNames.get? first).map (·.description) = some e.description then
    ⟨.debug, "directory alias claimed twice", fields⟩
  else
    ⟨.warn, "local aliases with different descriptors share a directory alias", fields⟩

/-- Which local alias claimed a published alias last. -/
private abbrev Claims := List (String × String)

private def noteClaim (localNames published : Registry) (domain : String) (claims : Claims)
    (e : ServiceEntry) : Logged Claims := do
  let claims ←
    match ← Alias.resolveLogged e.name published domain with
    | none => pure claims
    | some r => do
      match claims.lookup r.name with
      | some first => .tell [sharedClaim localNames first e r]
      | none => pure ()
      pure ((r.name, e.name) :: claims)
  .note .debug "classified"
    [("alias", .bare e.name), ("status", .bare (stateOf published domain e).text)]
  return claims

private def noteCounts (localNames published : Registry) (c : Classification) : Record :=
  ⟨.info, "reconciled registries",
    [("local", .number localNames.size), ("mirror", .number published.size),
      ("unchanged", .number (c.count .unchanged)), ("new", .number (c.count .new)),
      ("modified", .number (c.count .modified)),
      ("absent_locally", .number (c.count .absentLocally))]⟩

def reconcileLogged (localNames published : Registry) (domain : String) :
    Logged Classification := do
  let _ ← localNames.toList.foldlM (noteClaim localNames published domain) []
  let c := reconcile localNames published domain
  .tell [noteCounts localNames published c]
  return c

@[simp] theorem value_reconcileLogged (localNames published : Registry) (domain : String) :
    (reconcileLogged localNames published domain).value = reconcile localNames published domain :=
  rfl

end NetNames.Sync
