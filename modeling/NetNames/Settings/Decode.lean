import NetNames.Settings.Basic
import NetNames.Toml.Value

/-!
Settings read from a TOML table. Each section gives its fields by name or, written as an array, by
place; fields that no section knows are passed over.
-/
namespace NetNames.Settings

open Toml

/-- The fields of a section. -/
inductive Section where
  | named (ms : Members)
  | placed (vs : List Value)

namespace Section

/-- A date or time is a section without fields. -/
def of? : Value → Option Section
  | .table _ ms | .inline _ ms => some (.named ms)
  | .array vs | .tables vs => some (.placed vs)
  | .time => some (.named [])
  | _ => none

def field? (s : Section) (place : Nat) (name : String) : Option Value :=
  match s with
  | .named ms => ms.lookup name
  | .placed vs => vs[place]?

/-- A field that must be there. -/
def required {α : Type} (s : Section) (place : Nat) (name : String) (read : Value → Option α) :
    Option α :=
  (s.field? place name).bind read

/-- A field that has a value when it is not there; a value that cannot be read is refused. -/
def optional {α : Type} (s : Section) (place : Nat) (name : String) (default : α)
    (read : Value → Option α) : Option α :=
  match s.field? place name with
  | some v => read v
  | none => some default

end Section

def text? : Value → Option String
  | .string s => some s
  | _ => none

def flag? : Value → Option Bool
  | .bool b => some b
  | _ => none

def natural? : Value → Option Nat
  | .integer (.ofNat n) => some n
  | _ => none

def names? (v : Value) : Option NamesSettings := do
  let s ← Section.of? v
  let file ← s.required 0 "file" text?
  return ⟨file, ← s.optional 1 "follow_ifile" true flag?,
    ← s.optional 2 "default_domain" none (some <$> text? ·)⟩

def server? (v : Value) : Option ServerSettings := do
  let s ← Section.of? v
  let url ← s.required 0 "url" text?
  let baseDn ← s.required 3 "base_dn" text?
  let d : ServerSettings := { url, baseDn }
  return { d with
    bindDn := ← s.optional 1 "bind_dn" d.bindDn text?
    passwordVariable := ← s.optional 2 "bind_password_env" none (some <$> text? ·)
    context := ← s.optional 4 "context" d.context text?
    timeout := ← s.optional 5 "timeout_secs" d.timeout natural?
    startTls := ← s.optional 6 "starttls" d.startTls flag?
    trustAll := ← s.optional 7 "no_tls_verify" d.trustAll flag? }

def schema? (v : Value) : Option Schema := do
  let s ← Section.of? v
  let d : Schema := {}
  return ⟨← s.optional 0 "object_class" d.objectClass text?,
    ← s.optional 1 "name_attribute" d.nameAttribute text?,
    ← s.optional 2 "descriptor_attribute" d.descriptorAttribute text?,
    ← s.optional 3 "alias_attribute" d.aliasAttribute text?⟩

def logLevel? (v : Value) : Option String := do
  (← Section.of? v).optional 0 "log_level" defaultLogLevel text?

def ofToml? (v : Value) : Option Settings := do
  let s ← Section.of? v
  return { names := ← s.required 0 "tns" names?
           server := ← s.required 1 "ldap" server?
           schema := ← s.optional 2 "schema" {} schema?
           logLevel := ← s.optional 3 "logging" defaultLogLevel logLevel? }

end NetNames.Settings
