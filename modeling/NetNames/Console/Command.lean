/-!
The commands of the program and what each is told.
-/
namespace NetNames

inductive Command where
  | init (output : String)
  | validate
  | list (filter file : Option String) (alone : Bool)
  | lookup (name : String) (domain file : Option String)
  | diff (verbose : Bool)
  | sync (json : Bool)
  | exportTo (output : String)
  | clear (confirmed : Bool)
deriving DecidableEq, Repr

def defaultConfigPath : String := "/etc/tnsync/config.toml"
def defaultOutput : String := "./tnsync.toml"

structure Invocation where
  config : String
  logLevel : Option String
  command : Command
deriving DecidableEq, Repr

end NetNames
