import NetNames.Console.Run
import NetNames.Stamp
import Std.Time

/-!
The program. It gathers the files and variables that a run can ask for, runs on them, and writes
the files that the run made.
-/
namespace NetNames

/-- Places what the path leads to, if anything. -/
def fetch (t : FileTree) (path : String) : IO FileTree := do
  try
    let bytes ← IO.FS.readBinFile path
    return t.place path (.file bytes.toList)
  catch
    | .inappropriateType .. => return t.place path .folder
    | _ => return t

/-- Places a names file and the files that it includes, to the depth given. -/
def fetchNames : Nat → FileTree → String → IO FileTree
  | 0, t, _ => return t
  | depth + 1, t, path => do
    if t.exists? path then return t
    let t ← fetch t path
    match t.read path with
    | .error _ => return t
    | .ok bytes =>
      (NamesFile.inclusions (Path.parent path) (Text.decodeLossy bytes)).foldlM (fetchNames depth) t

def depthLimit : Nat := 64

def namesFile? (env : Environment) (i : Invocation) (s : Option Settings) : Option String :=
  match i.command with
  | .list _ (some file) _ => some (Console.expandHome env file)
  | .lookup _ _ (some file) => some (Console.expandHome env file)
  | _ => s.map (·.names.file)

def output? (env : Environment) (i : Invocation) : Option String :=
  match i.command with
  | .init output => some (Console.expandHome env output)
  | .exportTo output => some (Console.expandHome env output)
  | _ => none

def assignment (name : String) : IO Environment := do
  return (← IO.getEnv name).toList.map (name, ·)

def gather (i : Invocation) (t : FileTree) (env : Environment) : IO (FileTree × Environment) := do
  let config := Console.expandHome env i.config
  let t ← fetch t config
  let settings := (Settings.ofFile t config).toOption
  let t ←
    match namesFile? env i settings with
    | none => pure t
    | some file => do fetch (← fetchNames depthLimit t file) (DefaultDomain.profilePath file)
  let t ←
    match output? env i with
    | none => pure t
    | some path => do fetch (← fetch t (Path.join (Path.parent path) ".")) path
  match settings.bind (·.server.passwordVariable) with
  | none => return (t, env)
  | some name => return (t, env ++ (← assignment name))

/-- Writes the files that are new or have other bytes than before. -/
def writeBack (old new : FileTree) : IO Unit :=
  new.nodes.forM fun (l, n) =>
    match n with
    | .file bytes =>
      if old.node? l == some n then pure ()
      else IO.FS.writeBinFile ("/" ++ "/".intercalate l) ⟨bytes.toArray⟩
    | .folder => pure ()

def worldOf (args : List String) : IO World := do
  let here := s!"{← IO.currentDir}"
  let t : FileTree := ⟨(Path.segments here).filter (!Path.isIdle ·), []⟩
  let env := (← assignment "HOME") ++ (← assignment "RUST_LOG")
  let (tree, environment) ←
    match Arguments.read args with
    | .ok (.run i) => gather i t env
    | _ => pure (t, env)
  let nanos := (← Std.Time.Timestamp.now).toNanosecondsSinceUnixEpoch.val
  return ⟨tree, environment, none, Stamp.ofNanos nanos.toNat⟩

end NetNames

/-- Runs the program on the files and variables of its process. -/
def main (args : List String) : IO UInt32 := do
  let w ← NetNames.worldOf args
  let out := NetNames.Console.run args w
  (← IO.getStdout).putStr out.output
  (← IO.getStderr).putStr out.errors
  NetNames.writeBack w.tree out.world.tree
  return UInt32.ofNat out.status
