import NetNames.Console.Arguments
import NetNames.Console.Remote
import NetNames.Log.Filter

/-!
A run of the program, from its arguments to what it writes and how it ends.
-/
namespace NetNames

structure Outcome where
  status : Nat
  output : String
  errors : String
  world : World

namespace Console

/-- Carries out the command of an invocation. -/
def perform (i : Invocation) : Action Unit := do
  let env := (← Action.world).environment
  let config := expandHome env i.config
  match i.command with
  | .init output => init (expandHome env output)
  | .validate => validate config
  | .list filter file alone => list config filter file alone
  | .lookup name domain file => lookup config name domain file
  | .diff verbose => diff config verbose
  | .sync json => sync config json
  | .exportTo output => exportTo config (expandHome env output)
  | .clear confirmed => clear config confirmed

/-- The level that the configuration asks for. -/
def configuredLevel (i : Invocation) (w : World) : String :=
  match Settings.ofFile w.tree (expandHome w.environment i.config) with
  | .ok s => s.logLevel
  | .error _ => defaultLogLevel

/-- The filter of the records and what is said of it: the invocation decides, else the variable
if it can be read, else the configuration. -/
def logFilter (i : Invocation) (w : World) : LogFilter × List String :=
  let read (s : String) : LogFilter × List String := (.ofText s, LogFilter.ignored s)
  match i.logLevel, (w.environment.value? "RUST_LOG").bind LogFilter.ofText? with
  | some level, _ => read level
  | none, some filter => (filter, [])
  | none, none => read (configuredLevel i w)

def shownLine? (filter : LogFilter) : Shown → Option String
  | .line s => some s
  | .record r => if filter.passes r then some r.line else none

private def endLines (lines : List String) : String := String.join (lines.map (· ++ "\n"))

def failureLines : Except Causes Unit → List String
  | .ok () => []
  | .error causes => [problem (": ".intercalate causes)]

def runInvocation (i : Invocation) (w : World) : Outcome :=
  let (filter, remarks) := logFilter i w
  let p := perform i w
  let failure := failureLines p.value
  ⟨if failure.isEmpty then 0 else 1, endLines (p.shown.filterMap (shownLine? filter)),
    endLines (remarks ++ failure), p.world⟩

/-- Runs the program with the arguments. -/
def run (args : List String) (w : World) : Outcome :=
  match Arguments.read args with
  | .error e => ⟨2, "", endLines [e.message], w⟩
  | .ok .version => ⟨0, endLines ["tnsync 0.1.0"], "", w⟩
  | .ok (.help topic) => ⟨0, endLines topic.lines, "", w⟩
  | .ok (.run i) => runInvocation i w

end Console
end NetNames
