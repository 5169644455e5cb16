/-!
Paths as text. A path is kept as it was written; its parent and its joins change only the end.
-/
namespace NetNames.Path

/-- The pieces between slashes, empty ones included. -/
def pieces : List Char → List (List Char)
  | [] => [[]]
  | c :: r =>
    match pieces r with
    | [] => [[c]]
    | p :: ps => if c = '/' then [] :: p :: ps else (c :: p) :: ps

def segments (path : String) : List String := (pieces path.toList).map String.ofList

def isAbsolute (path : String) : Bool := path.toList.head? == some '/'

/-- A piece that names nothing: an empty one, or a single dot. -/
def isIdle (s : String) : Bool := s == "" || s == "."

/-- Without the idle pieces at the end; of a relative path the first piece counts even if it is
a dot. -/
private def dropIdle (absolute : Bool) (reversed : List String) : List String :=
  match reversed with
  | [] => []
  | [s] => if absolute || s == "." then [s] else if s == "" then [] else [s]
  | s :: r => if isIdle s then dropIdle absolute r else s :: r

private def joined (absolute : Bool) (reversed : List String) : String :=
  if absolute && reversed == [""] then "/" else "/".intercalate reversed.reverse

/-- The folder part, as written; none for the root and for an empty path. -/
def parent? (path : String) : Option String :=
  let absolute := isAbsolute path
  match dropIdle absolute (segments path).reverse with
  | [] => none
  | _ :: r =>
    if absolute && r.isEmpty then none
    else some (joined absolute (dropIdle absolute r))

def parent (path : String) : String := (parent? path).getD ""

/-- `rest` read from the folder `base`; an absolute `rest` stands for itself. -/
def join (base rest : String) : String :=
  if isAbsolute rest then rest
  else if base == "" || base.toList.getLast? == some '/' then base ++ rest
  else base ++ "/" ++ rest

example : parent "a/." = "" ∧ parent "./x" = "." ∧ parent "//x" = "/" ∧ parent "a//b/" = "a" := by
  decide +kernel

end NetNames.Path
