import NetNames.FileTree
import NetNames.Directory.Layout

/-!
The settings of a run: where the names file is, which server publishes it, and how much is logged.
-/
namespace NetNames

structure NamesSettings where
  file : String
  recursive : Bool := true
  defaultDomain : Option String := none
deriving DecidableEq, Repr

structure ServerSettings where
  url : String
  baseDn : String
  bindDn : String := ""
  passwordVariable : Option String := none
  context : String := "cn=OracleContext"
  timeout : Nat := 20
  startTls : Bool := false
  trustAll : Bool := false
deriving DecidableEq, Repr

def defaultLogLevel : String := "warn"

structure Settings where
  names : NamesSettings
  server : ServerSettings
  schema : Schema := {}
  logLevel : String := defaultLogLevel
  password : Option String := none
deriving DecidableEq, Repr

/-- The name of the container of service entries. -/
def ServerSettings.container (s : ServerSettings) : String :=
  if s.context == "" then s.baseDn
  else if s.baseDn == "" then s.context
  else s.context ++ "," ++ s.baseDn

def Settings.layout (s : Settings) : Layout := ⟨s.server.container, s.schema⟩

inductive SettingsField where
  | namesFile | url | baseDn | timeout | objectClass | nameAttribute | descriptorAttribute
  | aliasAttribute | passwordVariable
deriving DecidableEq, Repr

def SettingsField.text : SettingsField → String
  | .namesFile => "tns.file"
  | .url => "ldap.url"
  | .baseDn => "ldap.base_dn"
  | .timeout => "ldap.timeout_secs"
  | .objectClass => "schema.object_class"
  | .nameAttribute => "schema.name_attribute"
  | .descriptorAttribute => "schema.descriptor_attribute"
  | .aliasAttribute => "schema.alias_attribute"
  | .passwordVariable => "ldap.bind_password_env"

/-- What is wrong with a field that cannot be used. -/
def SettingsField.complaint : SettingsField → String
  | .namesFile => "tnsnames path must not be empty"
  | .url => "URL must start with ldap:// or ldaps://"
  | .baseDn => "base DN and context must not both be empty"
  | .timeout => "timeout must be > 0"
  | _ => "must not be empty"

inductive SettingsError where
  | missingFile (path : String)
  | unreadable (fault : FileFault)
  | malformed
  | noPassword (name : Option String)
  | unusable (field : SettingsField)
deriving DecidableEq, Repr

def SettingsError.message : SettingsError → String
  | .missingFile path => s!"configuration file not found: {path}"
  | .unreadable fault => s!"configuration I/O error: {fault.message}"
  | .malformed => "configuration parse error"
  | .noPassword name =>
    let name := name.getD "<unset>"
    let field := SettingsField.passwordVariable.text
    s!"required environment variable '{name}' is not set (referenced by config field '{field}')"
  | .unusable field => s!"invalid configuration value for '{field.text}': {field.complaint}"

namespace Settings

/-- The first field that cannot be used. -/
def unusable? (s : Settings) : Option SettingsField :=
  (checks s).findSome? fun (field, bad) => if bad then some field else none
where
  checks (s : Settings) : List (SettingsField × Bool) :=
    [(.namesFile, s.names.file == ""),
      (.url, !("ldap://".isPrefixOf s.server.url || "ldaps://".isPrefixOf s.server.url)),
      (.baseDn, s.server.baseDn == "" && s.server.context == ""),
      (.timeout, s.server.timeout == 0),
      (.objectClass, s.schema.objectClass == ""),
      (.nameAttribute, s.schema.nameAttribute == ""),
      (.descriptorAttribute, s.schema.descriptorAttribute == ""),
      (.aliasAttribute, s.schema.aliasAttribute == "")]

def validate (s : Settings) : Except SettingsError Unit :=
  match s.unusable? with
  | some field => .error (.unusable field)
  | none => .ok ()

/-- A name to bind as needs a password. -/
def requirePassword (s : Settings) : Except SettingsError Unit :=
  if s.server.bindDn == "" || s.password.isSome then .ok ()
  else .error (.noPassword s.server.passwordVariable)

end Settings
end NetNames
