import NetNames.Console.Local
import NetNames.Json.Codec
import NetNames.NamesFile.Writer
import NetNames.Patch.Hunk

/-!
The commands that work on a directory server: showing what a pass would change, running one,
exporting the published names and deleting them.
-/
namespace NetNames.Console

open NetNames.Action

/-- The settings of a command that works on a server. -/
def engine (config : String) : Action Settings := do
  let s ← loadSettings config
  noted (Sync.announce s)
  return s

def openSession (s : Settings) : Action Session := do
  because "cannot bind to directory" SettingsError.causes s.requirePassword
  let w ← world
  let (opened, server) ← noted (Session.connect s w.server)
  setServer server
  because "failed to connect to directory" DirectoryError.causes opened

/-- Does its work in a session of its own, which ends whether the work succeeds or not. -/
def inSession {α : Type} (s : Settings) (context : String)
    (work : Session → Logged (Except Sync.SyncError α × Session)) : Action α := do
  let session ← openSession s
  let (result, session) ← noted (work session)
  setServer (some session.server)
  because context Sync.SyncError.causes result

/-- The patch of a modified alias, from the published descriptor to the local one. -/
def descriptorPatch (p : Sync.Plan) (name : String) : Logged (Option String) := do
  let resolved ← Alias.resolveLogged name p.published p.domain
  return do
    let published ← resolved.or (p.published.get? name)
    let localEntry ← p.localNames.get? name
    let lines := Text.lines (Patch.text published.description localEntry.description).toList
    some ("\n".intercalate (lines.map String.ofList))

def sayPatch (p : Sync.Plan) (name : String) : Action Unit := do
  if let some patch ← noted (descriptorPatch p name) then
    say ""
    say name
    say patch

/-- Shows what a pass would change. -/
def diff (config : String) (verbose : Bool) : Action Unit := do
  let s ← engine config
  let w ← world
  let p ← inSession s "failed to compute differences" (Sync.plan w.tree s)
  let changes := p.changes
  if changes.isEmpty then
    say (success s!"Directory is up to date ({p.states.size} aliases)")
  else
    sayAll (Grid.render ["Alias", "Change"] (changes.map fun (name, s) => [name, s.text]))
    say s!"{changes.length} change(s), {p.states.count .unchanged} unchanged"
    if verbose then
      (changes.filter (·.2 == .modified)).forM fun (name, _) => sayPatch p name

def tallyLine (t : Tally) (s : Status) : String :=
  "  " ++ s.text ++ String.ofList (List.replicate (15 - s.text.length) ' ') ++ ": " ++
    toString (t.count s)

def sayTally (t : Tally) : Action Unit := do
  sayAll (Status.all.map (tallyLine t))
  sayAll (t.failures.map fun f =>
    "  " ++ warning s!"{f.name} ({f.intended.text}): {f.reason}")

def sayReport (r : Sync.Report) : Action Unit := do
  say "Sync completed:"
  say s!"  Local aliases    : {r.localCount}"
  say s!"  Directory aliases: {r.publishedCount}"
  sayTally r.tally
  say s!"  Started at : {r.startedAt}"
  if let some completed := r.completedAt then say s!"  Completed  : {completed}"

/-- Runs a pass and reports it; skipped aliases are a failure. -/
def sync (config : String) (json : Bool) : Action Unit := do
  let s ← engine config
  let w ← world
  let report ← inSession s "sync failed" (Sync.run w.now w.now w.tree s)
  if json then say (Json.ofReport report).indentedText else sayReport report
  let skipped := report.tally.count .skip
  if skipped > 0 then fail [s!"{skipped} alias(es) could not be applied"]

/-- Creates the file, or makes it empty. -/
def create (path : String) : Action Unit := do
  let w ← world
  setTree (← because s!"failed to create {path}" (fun e => [FileFault.message e])
    (w.tree.write path []))

/-- Writes the published names to a names file. -/
def exportTo (config output : String) : Action Unit := do
  let s ← engine config
  let published ← inSession s "failed to read directory entries" (Sync.readPublished s)
  create output
  let w ← world
  let text ← noted (NamesFile.renderLogged w.now published)
  setTree (← because "failed to write tnsnames file" NamesError.causes
    ((w.tree.write output (Text.encode text.toList)).mapError (.unwritable ∘ .file)))
  say (success s!"Exported {published.size} alias(es) to {output}")

/-- Deletes what the directory publishes, if that was confirmed; nobody can be asked here. -/
def clear (config : String) (confirmed : Bool) : Action Unit := do
  let s ← engine config
  if !confirmed then
    fail ["failed to read confirmation", "IO error: not a terminal", "not a terminal"]
  let tally ← inSession s "failed to clear directory" (Sync.clearPublished s)
  sayTally tally
  let skipped := tally.count .skip
  if skipped > 0 then fail [s!"{skipped} entr(ies) could not be deleted"]

end NetNames.Console
