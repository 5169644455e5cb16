/-!
The states an alias can be in when the local registry is compared with the directory.
-/
namespace NetNames

inductive Status where
  | unchanged | new | modified | absentLocally | skip
deriving DecidableEq, Repr

namespace Status

def all : List Status := [.unchanged, .new, .modified, .absentLocally, .skip]

theorem mem_all (s : Status) : s ∈ all := by cases s <;> decide

def text : Status → String
  | .unchanged => "unchanged"
  | .new => "new"
  | .modified => "modified"
  | .absentLocally => "absent-locally"
  | .skip => "skip"

def ofText? (s : String) : Option Status := all.find? (·.text == s)

theorem ofText?_text (s : Status) : ofText? s.text = some s := by cases s <;> decide

end Status
end NetNames
