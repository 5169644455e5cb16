import NetNames.DefaultDomain
import NetNames.Directory.Published
import NetNames.NamesFile.Inclusion
import NetNames.Settings.Load
import NetNames.Sync.Pass
import NetNames.Sync.Reconcile
import NetNames.Sync.Report

/-!
A whole pass as the settings describe it: read the local names, read the published ones, compare
them, and apply the difference. A plan stops before the last step.
-/
namespace NetNames.Sync

inductive SyncError where
  | names (e : NamesError)
  | directory (e : DirectoryError)
deriving DecidableEq, Repr

def SyncError.message : SyncError → String
  | .names e => "sync tnsnames error: " ++ e.message
  | .directory e => "sync directory error: " ++ e.message

structure Plan where
  localNames : Registry
  published : Registry
  domain : String
  states : Classification

/-- The aliases that a pass asks the directory about. -/
def Plan.changes (p : Plan) : List (String × Status) :=
  p.states.toList.filter (·.2 != .unchanged)

def announce (s : Settings) : Logged Unit :=
  .note .info "initializing sync engine" [("container", .bare s.layout.container)]

/-- The domain of the settings, else that of the profile beside the names file. -/
def domain (t : FileTree) (s : Settings) : Logged (Except SyncError String) := do
  match s.names.defaultDomain with
  | some domain => return .ok (String.ofList (Text.trim domain.toList))
  | none =>
    match ← DefaultDomain.read t (DefaultDomain.profilePath s.names.file) with
    | .ok found => return .ok (found.getD "")
    | .error e => return .error (.names e)

def loadLocal (t : FileTree) (s : Settings) : Logged (Except SyncError Registry) :=
  (·.mapError .names) <$> NamesFile.load t s.names.file s.names.recursive

variable {σ : Type} [Directory σ]

def readPublished (s : Settings) (d : σ) : Logged (Except SyncError Registry × σ) := do
  let (reply, d) ← Published.read s.layout d
  return (reply.mapError .directory, d)

def plan (t : FileTree) (s : Settings) (d : σ) : Logged (Except SyncError Plan × σ) := do
  match ← domain t s with
  | .error e => return (.error e, d)
  | .ok domain =>
    match ← loadLocal t s with
    | .error e => return (.error e, d)
    | .ok localNames =>
      match ← readPublished s d with
      | (.error e, d) => return (.error e, d)
      | (.ok published, d) =>
        let states ← reconcileLogged localNames published domain
        return (.ok ⟨localNames, published, domain, states⟩, d)

/-- A pass between the two times given. -/
def run (started completed : String) (t : FileTree) (s : Settings) (d : σ) :
    Logged (Except SyncError Report × σ) := do
  match ← plan t s d with
  | (.error e, d) => return (.error e, d)
  | (.ok p, d) =>
    let pass ← apply ⟨p.localNames, p.published, p.domain, s.layout⟩ p.states d
    let report : Report :=
      ⟨pass.tally, p.localNames.size, p.published.size, started, some completed⟩
    .note .info "sync pass completed"
      [("local", .number report.localCount), ("mirror", .number report.publishedCount),
        ("skipped", .number (report.tally.count .skip))]
    return (.ok report, pass.directory)

/-- Deletes every service entry that the directory publishes. -/
def clearPublished (s : Settings) (d : σ) : Logged (Except SyncError Tally × σ) := do
  match ← readPublished s d with
  | (.error e, d) => return (.error e, d)
  | (.ok published, d) =>
    let pass ← clear published d
    return (.ok pass.tally, pass.directory)

end NetNames.Sync
