import NetNames.Console.Command
import NetNames.Console.Usage

/-!
The help of the program: what it is about, how it is called, and its commands and options with what
each is for, in columns.
-/
namespace NetNames.Usage

def Verb.purpose : Verb → String
  | .init => "Generate a default configuration file"
  | .validate => "Validate a configuration file"
  | .list => "List the aliases defined in a tnsnames file"
  | .lookup => "Resolve a single alias the way a client would"
  | .diff => "Show what a sync would change, without changing anything"
  | .sync => "Push local aliases to the directory"
  | .exportTo => "Write the directory's service entries to a tnsnames file"
  | .clear => "Delete every service entry from the directory container"

def defaulted (value : String) : String := " [default: " ++ value ++ "]"

def helpPurpose : String := "Print this message or the help of the given subcommand(s)"

namespace Topic

def purpose : Topic → String
  | .program => "Keep LDAP net service entries in sync with tnsnames.ora"
  | .command v => v.purpose
  | .help => helpPurpose

/-- What an option is for. The file to export to has no words of its own. -/
def keyPurpose (t : Topic) : Key → String
  | .config => "Path to the TOML configuration file" ++ defaulted defaultConfigPath
  | .logLevel => "Log filter (e.g. \x60debug\x60, \x60tnsync_core=trace\x60). Overrides RUST_LOG"
  | .output =>
    if t = .command .exportTo then ""
    else "Output path for the generated config file" ++ defaulted defaultOutput
  | .filter => "Only show aliases matching this regex (case-insensitive)"
  | .file => "Read this file instead of the configured one"
  | .noIfile => "Do not follow IFILE includes"
  | .domain => "Default domain (overrides config and sqlnet.ora)"
  | .verbose => "Print descriptor diffs for modified aliases"
  | .json => "Print the report as JSON"
  | .yes => "Skip the confirmation prompt"
  | .version => "Print version"
  | .help => "Print help"

def keys : Topic → List Key
  | .program => sharedKeys
  | .command v => v.keys
  | .help => []

/-- The operands and what each is for. -/
def operands : Topic → List (String × String)
  | .program => []
  | .command v => v.operands.map (·, "")
  | .help => [("[COMMAND]...", "Print help for the subcommand(s)")]

def commands : Topic → List (String × String)
  | .program => Verb.all.map (fun v => (v.name, v.purpose)) ++ [("help", helpPurpose)]
  | _ => []

/-- How the program is called. -/
def call : Topic → String
  | .program => "tnsync [OPTIONS] <COMMAND>"
  | .command v =>
    " ".intercalate (["tnsync", v.name, "[OPTIONS]"] ++ v.needed.map Key.form ++ v.operands)
  | .help => "tnsync help [COMMAND]..."

end Topic

/-- The option by its letter and in full; those without a letter keep its place free. -/
def Key.label (key : Key) : String :=
  (match key.letter? with
    | some c => String.ofList ['-', c, ',', ' ']
    | none => "    ") ++ key.form

/-- Lines of two columns; the second starts two places behind the longest of the first. -/
def columns (rows : List (String × String)) : List String :=
  let longest := rows.foldr (fun (left, _) n => max left.length n) 0
  rows.map fun (left, right) =>
    "  " ++ left ++ String.ofList (List.replicate (longest + 2 - left.length) ' ') ++ right

def titled? (title : String) (rows : List (String × String)) : Option (List String) :=
  if rows.isEmpty then none else some (title :: columns rows)

def Topic.lines (t : Topic) : List String :=
  let parts := [titled? "Commands:" t.commands, titled? "Arguments:" t.operands,
    titled? "Options:" (t.keys.map fun key => (key.label, t.keyPurpose key))]
  [t.purpose, "", "Usage: " ++ t.call] ++ (parts.filterMap id).flatMap ("" :: ·)

example : (Topic.command .clear).lines = [
    "Delete every service entry from the directory container", "",
    "Usage: tnsync clear [OPTIONS]", "", "Options:",
    "  -c, --config <CONFIG>        Path to the TOML configuration file" ++
      " [default: /etc/tnsync/config.toml]",
    "  -y, --yes                    Skip the confirmation prompt",
    "      --log-level <LOG_LEVEL>  Log filter (e.g. \x60debug\x60, \x60tnsync_core=trace\x60)." ++
      " Overrides RUST_LOG",
    "  -h, --help                   Print help"] := by decide +kernel

end NetNames.Usage
