import NetNames.Text.Utf8
import NetNames.Path

/-!
A finite tree of files. A path is followed one piece at a time from the working folder or the
root, so every readable file has one location, and the locations of files are finitely many. A
reader needs no more of a file system than that.
-/
namespace NetNames

abbrev Location := List String

inductive Node where
  | file (bytes : List UInt8)
  | folder
deriving DecidableEq

inductive FileFault where
  | missing
  | notFolder
  | isFolder
  | nameTooLong
  | zeroByte
  | invalidText
deriving DecidableEq, Repr

def FileFault.message : FileFault → String
  | .missing => "No such file or directory (os error 2)"
  | .notFolder => "Not a directory (os error 20)"
  | .isFolder => "Is a directory (os error 21)"
  | .nameTooLong => "File name too long (os error 36)"
  | .zeroByte => "file name contained an unexpected NUL byte"
  | .invalidText => "stream did not contain valid UTF-8"

/-- The folders above the working folder exist and hold nothing else. -/
structure FileTree where
  workFolder : Location
  nodes : List (Location × Node)

namespace FileTree

def node? (t : FileTree) (l : Location) : Option Node :=
  if l.isPrefixOf t.workFolder then some .folder else t.nodes.lookup l

def isFolder (t : FileTree) (l : Location) : Bool := t.node? l == some .folder

private def nameLimit : Nat := 255
private def pathLimit : Nat := 4096

def enter (t : FileTree) (l : Location) (name : String) : Except FileFault Location :=
  if !t.isFolder l then .error .notFolder
  else if Path.isIdle name then .ok l
  else if name == ".." then .ok l.dropLast
  else if Text.byteCount name.toList > nameLimit then .error .nameTooLong
  else .ok (l ++ [name])

def walk (t : FileTree) : Location → List String → Except FileFault Location
  | l, [] => if (t.node? l).isSome then .ok l else .error .missing
  | l, name :: rest =>
    if (t.node? l).isNone then .error .missing
    else match t.enter l name with
      | .ok next => t.walk next rest
      | .error e => .error e

def start (t : FileTree) (path : String) : Location :=
  if Path.isAbsolute path then [] else t.workFolder

def checkText (path : String) : Except FileFault Unit :=
  if path.toList.contains '\x00' then .error .zeroByte
  else if path == "" then .error .missing
  else if Text.byteCount path.toList ≥ pathLimit then .error .nameTooLong
  else .ok ()

/-- The location that the path names. -/
def locate (t : FileTree) (path : String) : Except FileFault Location :=
  match checkText path with
  | .ok () => t.walk (t.start path) (Path.segments path)
  | .error e => .error e

def exists? (t : FileTree) (path : String) : Bool :=
  match t.locate path with
  | .ok _ => true
  | .error _ => false

def readAt (t : FileTree) (l : Location) : Except FileFault (List UInt8) :=
  match t.node? l with
  | some (.file bytes) => .ok bytes
  | some .folder => .error .isFolder
  | none => .error .missing

def read (t : FileTree) (path : String) : Except FileFault (List UInt8) :=
  match t.locate path with
  | .ok l => t.readAt l
  | .error e => .error e

/-- The locations of files. -/
def files (t : FileTree) : List Location :=
  (t.nodes.filter (fun e => e.2 != .folder)).map (·.1)

theorem mem_files_of_readAt {t : FileTree} {l : Location} {bytes : List UInt8}
    (h : t.readAt l = .ok bytes) : l ∈ t.files := by
  rw [readAt] at h
  split at h
  · rename_i b hn
    rw [node?] at hn
    split at hn
    · simp at hn
    · obtain ⟨l₁, l₂, hs, _⟩ := List.lookup_eq_some_iff.mp hn
      refine List.mem_map.mpr ⟨(l, .file b), List.mem_filter.mpr ⟨?_, by simp⟩, rfl⟩
      simp [hs]
  · simp at h
  · simp at h

def put (t : FileTree) (l : Location) (n : Node) : FileTree :=
  { t with nodes := (l, n) :: t.nodes.filter (fun e => e.1 != l) }

/-- Where a file written at `path` comes to stand. A path with a slash at its end names a folder,
whether there is one or not. -/
def target (t : FileTree) (path : String) : Except FileFault Location := do
  checkText path
  let pieces := (Path.segments path).reverse
  let names := (pieces.dropWhile (· == "")).reverse
  let l ← t.walk (t.start path) names.dropLast
  if !t.isFolder l then throw .notFolder
  if names.isEmpty || pieces.head? == some "" then throw .isFolder
  let next ← t.enter l (names.getLast?.getD "")
  if t.isFolder next then throw .isFolder
  return next

/-- Creates the file, or replaces its content. -/
def write (t : FileTree) (path : String) (bytes : List UInt8) : Except FileFault FileTree :=
  match t.target path with
  | .ok l => .ok (t.put l (.file bytes))
  | .error e => .error e

/-- The location of a path on which every folder exists. -/
def location (t : FileTree) (path : String) : Location :=
  (Path.segments path).foldl
    (fun l s => if s == ".." then l.dropLast else if Path.isIdle s then l else l ++ [s])
    (t.start path)

/-- Places a node and creates the folders on the way. -/
def place (t : FileTree) (path : String) (n : Node) : FileTree :=
  let l := t.location path
  let above := (List.range l.length).map (l.take ·)
  let t := above.foldl (fun t l => if t.isFolder l then t else t.put l .folder) t
  if n == .folder && t.isFolder l then t else t.put l n

def remove (t : FileTree) (path : String) : FileTree :=
  match t.locate path with
  | .ok l => { t with nodes := t.nodes.filter (fun e => e.1 != l) }
  | .error _ => t

end FileTree

/-- A file system as a reader sees it: paths name locations, in however many ways, and what can be
read at a location does not depend on the path. -/
structure FileView where
  locate : String → Except FileFault Location
  readAt : Location → Except FileFault (List UInt8)
  files : List Location
  mem_files_of_readAt : ∀ {l bytes}, readAt l = .ok bytes → l ∈ files

def FileView.read (v : FileView) (path : String) : Except FileFault (List UInt8) :=
  match v.locate path with
  | .ok l => v.readAt l
  | .error e => .error e

def FileTree.view (t : FileTree) : FileView := ⟨t.locate, t.readAt, t.files, mem_files_of_readAt⟩

instance : Coe FileTree FileView := ⟨FileTree.view⟩

end NetNames
