import NetNames.Console.Action
import NetNames.Console.Grid
import NetNames.Pattern.Select

/-!
The commands that need no server: writing a first configuration, checking one, and listing or
looking up the aliases of a names file.
-/
namespace NetNames.Console

open NetNames.Action

def success (s : String) : String := "✓ " ++ s
def problem (s : String) : String := "✗ " ++ s
def warning (s : String) : String := "⚠ " ++ s

/-- A path below the home folder, where there is one. -/
def expandHome (env : Environment) (path : String) : String :=
  match path.toList, env.value? "HOME" with
  | '~' :: '/' :: rest, some home =>
    if home == "" then path else Path.join home (String.ofList rest)
  | _, _ => path

def firstConfiguration : List String := [
  "# tnsync configuration",
  "",
  "[tns]",
  "file = \"/opt/oracle/network/admin/tnsnames.ora\"",
  "follow_ifile = true",
  "# Falls back to NAMES.DEFAULT_DOMAIN in the sqlnet.ora next to `file`.",
  "# default_domain = \"example.com\"",
  "",
  "[ldap]",
  "url = \"ldap://oid.example.com:389\"",
  "bind_dn = \"cn=orcladmin,cn=Users,dc=example,dc=com\"",
  "bind_password_env = \"TNSYNC_LDAP_PASSWORD\"",
  "base_dn = \"dc=example,dc=com\"",
  "context = \"cn=OracleContext\"",
  "timeout_secs = 20",
  "starttls = false",
  "no_tls_verify = false",
  "",
  "[schema]",
  "object_class = \"orclNetService\"",
  "name_attribute = \"cn\"",
  "descriptor_attribute = \"orclNetDescString\"",
  "alias_attribute = \"aliasedObjectName\"",
  "",
  "[logging]",
  "log_level = \"warn\""]

def firstConfigurationText : String := String.join (firstConfiguration.map (· ++ "\n"))

/-- Writes a first configuration where no file is yet. -/
def init (output : String) : Action Unit := do
  let w ← world
  if w.tree.exists? output then
    fail [s!"file already exists: {output}. Use a different path or remove the existing file."]
  let tree ← because "failed to write config file" (fun e => [FileFault.message e])
    (w.tree.write output (Text.encode firstConfigurationText.toList))
  setTree tree
  say (success s!"Default configuration written to {output}")
  say ""
  say "Next steps:"
  say "  1. Edit the config file with your tnsnames path and directory details"
  say "  2. Set the bind password variable (TNSYNC_LDAP_PASSWORD)"
  say s!"  3. Validate with: tnsync validate --config {output}"
  say s!"  4. Preview changes: tnsync diff --config {output}"

def saySummary (s : Settings) : Action Unit := do
  say "Configuration summary:"
  say s!"  tnsnames file : {s.names.file}"
  say ("  Follow IFILE  : " ++ if s.names.recursive then "true" else "false")
  say ("  Default domain: " ++ s.names.defaultDomain.getD "(from sqlnet.ora)")
  say s!"  Directory URL : {s.server.url}"
  say ("  Bind DN       : " ++ if s.server.bindDn == "" then "(anonymous)" else s.server.bindDn)
  say ("  Bind password : " ++ if s.password.isSome then "set" else "NOT SET")
  say s!"  Container     : {s.server.container}"
  say s!"  Object class  : {s.schema.objectClass}"

/-- Checks a configuration and shows what it says. -/
def validate (config : String) : Action Unit := do
  say s!"Validating configuration: {config}"
  say ""
  let w ← world
  let s ← because "failed to parse configuration" SettingsError.causes
    (← noted (Settings.load w.tree config))
  say ("  " ++ success "TOML structure is valid")
  let s ← noted (s.withPassword w.environment)
  say ("  " ++ success "Environment variable references processed")
  if let .error e := s.validate then
    say ("  " ++ problem s!"Validation error: {e.message}")
    fail ["configuration validation failed"]
  say ("  " ++ success "All required fields are valid")
  if let .error e := s.requirePassword then say ("  " ++ warning e.message)
  say ""
  saySummary s
  say ""
  say "Configuration is valid."

def loadSettings (config : String) : Action Settings := do
  let w ← world
  because "failed to load configuration file" SettingsError.causes
    (← noted (Settings.prepare w.tree w.environment config))

/-- The local names, the domain they are resolved under, and where they were read. -/
structure LocalNames where
  registry : Registry
  domain : String
  path : String

def namesOfFile (path : String) (recursive : Bool) : Action LocalNames := do
  let w ← world
  let registry ← because s!"failed to parse {path}" NamesError.causes
    (← noted (NamesFile.load w.tree path recursive))
  let domain ← because "failed to read sqlnet.ora" NamesError.causes
    (← noted (DefaultDomain.read w.tree (DefaultDomain.profilePath path)))
  return ⟨registry, domain.getD "", path⟩

def namesOfConfig (config : String) (alone : Bool) : Action LocalNames := do
  let s ← loadSettings config
  let s := { s with names.recursive := s.names.recursive && !alone }
  let w ← world
  noted (Sync.announce s)
  let registry ← because "failed to parse tnsnames file" Sync.SyncError.causes
    (← noted (Sync.loadLocal w.tree s))
  let domain ← because "failed to determine default domain" Sync.SyncError.causes
    (← noted (Sync.domain w.tree s))
  return ⟨registry, domain, s.names.file⟩

/-- The names of the file if one is given, else those that the configuration points to. -/
def localNames (config : String) (file : Option String) (alone : Bool) : Action LocalNames := do
  match file with
  | some file => namesOfFile (expandHome (← world).environment file) (!alone)
  | none => namesOfConfig config alone

def listRow (e : ServiceEntry) : List String :=
  [e.name, e.service, "\n".intercalate (e.addresses.map Address.text), e.source]

def sayAll (lines : List String) : Action Unit := lines.forM say

/-- Lists the aliases that match the pattern, all of them if there is none. -/
def list (config : String) (filter file : Option String) (alone : Bool) : Action Unit := do
  let found ← localNames config file alone
  let registry ←
    match filter with
    | some pattern => orFail NamesError.causes (found.registry.select pattern)
    | none => pure found.registry
  if registry.isEmpty then say s!"No aliases found in {found.path}."
  else
    sayAll (Grid.render ["Alias", "Service", "Addresses", "Source"] (registry.toList.map listRow))
    say s!"{registry.size} alias(es) shown"

/-- Resolves an alias as a client would. -/
def lookup (config name : String) (domain file : Option String) : Action Unit := do
  let found ← localNames config file false
  let domain := domain.getD found.domain
  match ← noted (Alias.resolveLogged name found.registry domain) with
  | none => fail [s!"alias '{name}' not found in {found.path} (domain '{domain}')"]
  | some e =>
    say e.name
    say s!"  Source   : {e.source}"
    say ("  Service  : " ++ if e.service == "" then "-" else e.service)
    sayAll (e.addresses.map fun a => "  Address  : " ++ a.text)
    say ""
    say e.description

end NetNames.Console
