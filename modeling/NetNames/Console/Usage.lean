/-!
The vocabulary of the command line: the options, the commands, and which options belong to which
command.
-/
namespace NetNames.Usage

inductive Key where
  | config | logLevel | output | filter | file | noIfile | domain | verbose | json | yes
  | version | help
deriving DecidableEq, Repr

namespace Key

def all : List Key :=
  [.config, .logLevel, .output, .filter, .file, .noIfile, .domain, .verbose, .json, .yes,
    .version, .help]

def name : Key → String
  | .config => "config"
  | .logLevel => "log-level"
  | .output => "output"
  | .filter => "filter"
  | .file => "file"
  | .noIfile => "no-ifile"
  | .domain => "domain"
  | .verbose => "verbose"
  | .json => "json"
  | .yes => "yes"
  | .version => "version"
  | .help => "help"

def letter? : Key → Option Char
  | .config => some 'c'
  | .output => some 'o'
  | .filter => some 'f'
  | .domain => some 'd'
  | .verbose => some 'v'
  | .yes => some 'y'
  | .version => some 'V'
  | .help => some 'h'
  | _ => none

def takesValue : Key → Bool
  | .noIfile | .verbose | .json | .yes | .version | .help => false
  | _ => true

/-- Whether nothing behind the option is read. -/
def isLast : Key → Bool
  | .version | .help => true
  | _ => false

/-- The option in full with the name of its value. -/
def form (key : Key) : String :=
  let value := key.name.map fun c => if c == '-' then '_' else c.toUpper
  "--" ++ key.name ++ if key.takesValue then " <" ++ value ++ ">" else ""

end Key

inductive Verb where
  | init | validate | list | lookup | diff | sync | exportTo | clear
deriving DecidableEq, Repr

namespace Verb

def all : List Verb := [.init, .validate, .list, .lookup, .diff, .sync, .exportTo, .clear]

def name : Verb → String
  | .init => "init"
  | .validate => "validate"
  | .list => "list"
  | .lookup => "lookup"
  | .diff => "diff"
  | .sync => "sync"
  | .exportTo => "export"
  | .clear => "clear"

def ofName? (s : String) : Option Verb := all.find? (·.name == s)

/-- The options that the command takes, in the order in which its help shows them. -/
def keys : Verb → List Key
  | .init | .exportTo => [.config, .output, .logLevel, .help]
  | .validate => [.config, .logLevel, .help]
  | .list => [.config, .filter, .file, .logLevel, .noIfile, .help]
  | .lookup => [.config, .domain, .file, .logLevel, .help]
  | .diff => [.config, .verbose, .logLevel, .help]
  | .sync => [.config, .json, .logLevel, .help]
  | .clear => [.config, .yes, .logLevel, .help]

/-- What the command needs besides its options. -/
def operands : Verb → List String
  | .lookup => ["<ALIAS>"]
  | _ => []

def needed : Verb → List Key
  | .exportTo => [.output]
  | _ => []

end Verb

/-- What help is about. -/
inductive Topic where
  | program
  | command (v : Verb)
  | help
deriving DecidableEq, Repr

/-- The options that stand before a command. -/
def sharedKeys : List Key := [.config, .logLevel, .help, .version]

end NetNames.Usage
