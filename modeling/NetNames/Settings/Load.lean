import NetNames.Log
import NetNames.Settings.Decode
import NetNames.Toml.Reader

/-!
Loading settings from a file. The password is taken from the environment, never from the file.
-/
namespace NetNames

/-- The assignments of a process to its variables, in order. -/
abbrev Environment := List (String × String)

namespace Environment

/-- What follows the name and an equals sign in the first assignment that starts with them. -/
def value? (env : Environment) (name : String) : Option String :=
  env.findSome? fun (n, v) =>
    let assignment := n ++ "=" ++ v
    if (name ++ "=").isPrefixOf assignment then
      some (String.ofList (assignment.toList.drop (name.length + 1)))
    else none

end Environment

namespace Settings

def ofText? (s : List Char) : Option Settings := do ofToml? (← Toml.read? s)

def ofBytes (bytes : List UInt8) : Except SettingsError Settings :=
  match Text.decode? bytes with
  | none => .error (.unreadable .invalidText)
  | some s =>
    match ofText? s with
    | none => .error .malformed
    | some settings => .ok settings

/-- The settings that the file holds, without a password. -/
def ofFile (t : FileTree) (path : String) : Except SettingsError Settings :=
  if !t.exists? path then .error (.missingFile path)
  else match t.read path with
    | .error fault => .error (.unreadable fault)
    | .ok bytes => ofBytes bytes

def load (t : FileTree) (path : String) : Logged (Except SettingsError Settings) := do
  .note .info "loading configuration" [("path", .bare path)]
  let found := ofFile t path
  if found matches .ok _ then .note .debug "configuration parsed successfully" []
  return found

/-- An empty value counts as none. -/
def passwordOf (env : Environment) (name : String) : Logged (Option String) := do
  let fields := [("field", .quoted SettingsField.passwordVariable.text), ("env_name", .quoted name)]
  match env.value? name with
  | some "" =>
    .note .warn "env var is set but empty" fields
    return none
  | some value =>
    .note .debug "resolved env var" fields
    return some value
  | none =>
    .note .warn "env var not set" fields
    return none

def withPassword (env : Environment) (s : Settings) : Logged Settings := do
  match s.server.passwordVariable with
  | none => return s
  | some name => return { s with password := ← passwordOf env name }

/-- Settings that are complete and can be used. -/
def prepare (t : FileTree) (env : Environment) (path : String) :
    Logged (Except SettingsError Settings) := do
  match ← load t path with
  | .error e => return .error e
  | .ok s =>
    let s ← s.withPassword env
    return s.validate.map fun () => s

end Settings
end NetNames
