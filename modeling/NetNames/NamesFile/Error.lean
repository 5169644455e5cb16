import NetNames.FileTree

/-!
What can go wrong with a names file: reading it, including another, choosing aliases from it by a
pattern, or writing it.
-/
namespace NetNames

/-- Why an output took less than it was given. -/
inductive OutputFault where
  | full
  | flush (reason : String)
  | file (fault : FileFault)
deriving DecidableEq, Repr

def OutputFault.message : OutputFault → String
  | .full => "failed to write whole buffer"
  | .flush reason => reason
  | .file fault => fault.message

inductive NamesError where
  | unreadable (path : String) (fault : FileFault)
  | inclusionCycle (path : String)
  | badPattern (pattern : String)
  | unwritable (fault : OutputFault)
deriving DecidableEq, Repr

def NamesError.message : NamesError → String
  | .unreadable path fault => s!"cannot read '{path}': {fault.message}"
  | .inclusionCycle path => s!"IFILE cycle detected at '{path}'"
  | .badPattern pattern => s!"invalid alias filter '{pattern}'"
  | .unwritable fault => s!"cannot write tnsnames output: {fault.message}"

end NetNames
