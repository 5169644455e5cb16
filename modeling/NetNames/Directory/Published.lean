import NetNames.Directory.Layout
import NetNames.Registry

/-!
The registry that a directory publishes. Every named service entry stands under its own name; one
that points to another object also stands under the first name of that object, unless an entry
read later claims it.
-/
namespace NetNames.Published

/-- Where an entry says that it is also known under another name. -/
inductive Pointer where
  | none
  | named (name : String)
  | unreadable (target : String)
deriving DecidableEq, Repr

structure Listing where
  name : String
  description : String
  dn : String
  pointer : Pointer
deriving DecidableEq, Repr

def pointerOf (schema : Schema) (e : DirectoryEntry) : Pointer :=
  match e.firstValue? schema.aliasAttribute with
  | none => .none
  | some target =>
    match Dn.firstValue? target with
    | some name => .named name
    | none => .unreadable target

def listing? (schema : Schema) (e : DirectoryEntry) : Option Listing :=
  (e.firstValue? schema.nameAttribute).map fun name =>
    ⟨name, (e.firstValue? schema.descriptorAttribute).getD "", e.dn, pointerOf schema e⟩

/-- The entries of a listing, the one under its own name last. -/
def Listing.services (l : Listing) : List ServiceEntry :=
  let own := ServiceEntry.define l.name l.description l.dn
  match l.pointer with
  | .named name => [ServiceEntry.define name l.description l.dn, own]
  | _ => [own]

def Listing.remarks (l : Listing) : Log :=
  match l.pointer with
  | .none => Descriptor.remarks l.description
  | .named name =>
    ⟨.debug, "registering aliased object", [("dn", .bare l.dn), ("alias", .bare name)]⟩ ::
      (Descriptor.remarks l.description ++ Descriptor.remarks l.description)
  | .unreadable target =>
    ⟨.warn, "unparseable aliased object DN", [("dn", .bare l.dn), ("pointer", .bare target)]⟩ ::
      Descriptor.remarks l.description

def ofEntries (schema : Schema) (es : List DirectoryEntry) : Registry :=
  Registry.ofList ((es.filterMap (listing? schema)).flatMap Listing.services)

def remarks (schema : Schema) (es : List DirectoryEntry) : Log :=
  es.flatMap fun e =>
    match listing? schema e with
    | some l => l.remarks
    | none =>
      [⟨.warn, "directory entry has no name, skipping",
        [("dn", .bare e.dn), ("attribute", .bare schema.nameAttribute)]⟩]

variable {σ : Type} [Directory σ]

/-- Asks the directory for its service entries and registers them in the order of the answer. -/
def read (layout : Layout) (d : σ) : Logged (Reply σ Registry) := do
  let (found, d) ← Directory.search layout.search d
  match found with
  | .error e => return (.error e, d)
  | .ok es =>
    .tell (remarks layout.schema es)
    let r := ofEntries layout.schema es
    .note .info "read directory mirror"
      [("container", .bare layout.container), ("entries", .number r.size)]
    return (.ok r, d)

end NetNames.Published
