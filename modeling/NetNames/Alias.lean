import NetNames.Registry

/-!
Aliases under a default domain. A short alias means the alias with the domain appended; an alias
that carries a domain of its own, or any alias when there is no domain, means itself.
-/
namespace NetNames.Alias

open Text

/-- A first label of word characters, then a dot. -/
def isQualifiedText (s : List Char) : Bool :=
  match s.takeWhile isWord, s.dropWhile isWord with
  | _ :: _, '.' :: _ => true
  | _, _ => false

def isQualified (name : String) : Bool := isQualifiedText name.toList

/-- The upper-cased name under which a registry keeps the alias. -/
def qualified (name domain : String) : String :=
  let label := upper (trim name.toList)
  let domain := trim domain.toList
  if domain.isEmpty || isQualifiedText label then String.ofList label
  else String.ofList (label ++ '.' :: upper domain)

def resolve (name : String) (r : Registry) (domain : String) : Option ServiceEntry :=
  r.get? (qualified name domain)

def resolveLogged (name : String) (r : Registry) (domain : String) :
    Logged (Option ServiceEntry) := do
  let found := resolve name r domain
  .note .trace "resolved alias"
    [("alias", .quoted name), ("domain", .quoted domain),
      ("key", .bare (qualified name domain)), ("found", .flag found.isSome)]
  return found

@[simp] theorem value_resolveLogged (name : String) (r : Registry) (domain : String) :
    (resolveLogged name r domain).value = resolve name r domain := rfl

end NetNames.Alias
