import NetNames.NamesFile.Error
import NetNames.Pattern.Match
import NetNames.Pattern.Reader
import NetNames.Registry

/-!
Choosing the entries of a registry whose alias a pattern occurs in.
-/
namespace NetNames.Registry

def select (r : Registry) (pattern : String) : Except NamesError Registry :=
  match Pattern.ofText? pattern.toList with
  | none => .error (.badPattern pattern)
  | some p => .ok (ofList (r.toList.filter (p.occursIn ·.name.toList)))

end NetNames.Registry
