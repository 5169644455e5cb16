import NetNames.Keyed
import NetNames.Log
import NetNames.Descriptor
import NetNames.Text.Uppercase

/-!
Aliases of network services and the registry that holds them. A registry keeps one entry per
upper-cased alias, and the last one inserted stays.
-/
namespace NetNames

structure ServiceEntry where
  name : String
  description : String
  source : String
  service : String
  addresses : List Address
deriving DecidableEq, Repr

/-- The entry of a descriptor, with its service and addresses mined. -/
def ServiceEntry.define (name description source : String) : ServiceEntry :=
  ⟨upperCase name, description, source, Descriptor.serviceOf description,
    Descriptor.addressesOf description⟩

/-- The clauses of a descriptor that name no listener because their number does not fit. -/
def Descriptor.remarks (description : String) : Log :=
  ((Descriptor.clauses description.toList).filter (·.address?.isNone)).map fun c =>
    ⟨.debug, "dropping address with out-of-range port",
      [("host", .quoted (String.ofList c.host)), ("port", .quoted (String.ofList c.digits))]⟩

structure Registry where
  entries : Keyed ServiceEntry
deriving DecidableEq, Inhabited

namespace Registry

def empty : Registry := ⟨∅⟩

instance : EmptyCollection Registry := ⟨empty⟩

/-- The registry with the entry under its upper-cased name. -/
def insert (r : Registry) (e : ServiceEntry) : Registry :=
  let name := upperCase e.name
  ⟨r.entries.insert name { e with name }⟩

def get? (r : Registry) (name : String) : Option ServiceEntry := r.entries.get? name

/-- The entry that an insertion of `e` would replace. -/
def replaced? (r : Registry) (e : ServiceEntry) : Option ServiceEntry := r.get? (upperCase e.name)

def contains (r : Registry) (name : String) : Bool := r.entries.contains name
def merge (r other : Registry) : Registry := ⟨r.entries.merge other.entries⟩
def size (r : Registry) : Nat := r.entries.size
def isEmpty (r : Registry) : Bool := r.entries.isEmpty
def names (r : Registry) : List String := r.entries.keys
def toList (r : Registry) : List ServiceEntry := r.entries.values
def ofList (es : List ServiceEntry) : Registry := es.foldl insert ∅

theorem get?_insert (r : Registry) (e : ServiceEntry) (name : String) :
    (r.insert e).get? name =
      if name = upperCase e.name then some { e with name := upperCase e.name } else r.get? name :=
  Keyed.get?_insert _ _ _ _

theorem get?_merge (r other : Registry) (name : String) :
    (r.merge other).get? name = (other.get? name).or (r.get? name) :=
  Keyed.get?_merge _ _ _

theorem ext {r s : Registry} (h : ∀ name, r.get? name = s.get? name) : r = s := by
  cases r
  cases s
  exact congrArg Registry.mk (Keyed.ext h)

end Registry
end NetNames
