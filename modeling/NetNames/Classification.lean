import NetNames.Keyed
import NetNames.Status

/-!
The state of every alias that the local registry or the directory knows.
-/
namespace NetNames

structure Classification where
  states : Keyed Status
deriving DecidableEq, Inhabited

namespace Classification

instance : EmptyCollection Classification := ⟨⟨∅⟩⟩

def insert (c : Classification) (name : String) (s : Status) : Classification :=
  ⟨c.states.insert name s⟩

def erase (c : Classification) (name : String) : Classification := ⟨c.states.erase name⟩
def get? (c : Classification) (name : String) : Option Status := c.states.get? name
def size (c : Classification) : Nat := c.states.size
def isEmpty (c : Classification) : Bool := c.states.isEmpty
def toList (c : Classification) : List (String × Status) := c.states.entries
def count (c : Classification) (s : Status) : Nat := c.states.values.countP (· == s)
def ofList (l : List (String × Status)) : Classification := ⟨Keyed.ofList l⟩

theorem get?_insert (c : Classification) (name x : String) (s : Status) :
    (c.insert name s).get? x = if x = name then some s else c.get? x :=
  Keyed.get?_insert _ _ _ _

theorem get?_erase (c : Classification) (name x : String) :
    (c.erase name).get? x = if x = name then none else c.get? x :=
  Keyed.get?_erase _ _ _

theorem ext {c d : Classification} (h : ∀ name, c.get? name = d.get? name) : c = d := by
  cases c
  cases d
  exact congrArg Classification.mk (Keyed.ext h)

end Classification
end NetNames
