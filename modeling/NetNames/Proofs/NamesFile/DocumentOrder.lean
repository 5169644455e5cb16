import NetNames.Proofs.NamesFile.Chained

/-! What the registry of a names file holds. Its lines, and those of the files it includes, make one
sequence of definitions, an included file standing in the place of its include line; the registry is
that sequence inserted one by one, so the last definition of an alias stays wherever it stands. -/
namespace NetNames

theorem Registry.merge_insert (r s : Registry) (e : ServiceEntry) :
    r.merge (s.insert e) = (r.merge s).insert e := by
  refine Registry.ext fun name => ?_
  simp only [Registry.get?_merge, Registry.get?_insert]
  split <;> rfl

/-- To merge a registry is to insert what it was made of. -/
theorem Registry.merge_ofList (r : Registry) (es : List ServiceEntry) :
    r.merge (.ofList es) = es.foldl Registry.insert r := by
  have key : ∀ s : Registry, r.merge (es.foldl Registry.insert s) =
      es.foldl Registry.insert (r.merge s) := by
    induction es with
    | nil => exact fun s => rfl
    | cons e es ih =>
      intro s
      rw [List.foldl_cons, ih, Registry.merge_insert, List.foldl_cons]
  exact key ∅

namespace NamesFile

open Text

/-- An alias whose body the next lines may extend. -/
structure Unclosed where
  name : List Char
  body : List Char

namespace Unclosed

def start (name rest : List Char) : Unclosed :=
  ⟨name, if (trim rest).isEmpty then [] else trim rest ++ ['\n']⟩

def extend (a : Unclosed) (line : List Char) : Unclosed := { a with body := a.body ++ line ++ ['\n'] }

/-- The definition of an alias that is closed, unless its body is blank. -/
def close (source : String) (a : Unclosed) : List ServiceEntry :=
  if (trim a.body).isEmpty then []
  else [.define (String.ofList a.name) (String.ofList (trim a.body)) source]

end Unclosed

/-- The definitions of lines in their order, after an alias that may be open yet. An include line
closes it and stands for the definitions that are included. -/
def definitionsIn (source : String) (included : List Char → List ServiceEntry) :
    Option Unclosed → List Line → List ServiceEntry
  | a, [] => a.toList.flatMap (·.close source)
  | a, .blank :: ls => definitionsIn source included a ls
  | a, .text s :: ls => definitionsIn source included (a.map (·.extend s)) ls
  | a, .definition name rest :: ls =>
    a.toList.flatMap (·.close source) ++ definitionsIn source included (some (.start name rest)) ls
  | a, .inclusion target :: ls =>
    a.toList.flatMap (·.close source) ++ included target ++ definitionsIn source included none ls

/-- The definitions of a file and of the files that it includes, depth first. A file that cannot be
read, or that is being read already, has none. -/
def definitions (v : FileView) (recursive : Bool) (chain : List Location) (path : String) :
    List ServiceEntry :=
  match h : opened v chain path with
  | .error _ => []
  | .ok (l, bytes) =>
    have := unread_lt_of_opened h
    let included (target : List Char) : List ServiceEntry :=
      if recursive then
        definitions v recursive (l :: chain) (targetPath (Path.parent path) target)
      else []
    definitionsIn path included none ((lines (decodeLossy bytes)).map Line.of)
  termination_by (unread v chain).length

variable {source folder path : String} {included : List Char → List ServiceEntry}

/-- The definitions of a block. -/
def Block.definitions (source : String) (included : List Char → List ServiceEntry) :
    Block → List ServiceEntry
  | .definition name body =>
    if body.isEmpty then [] else [.define (String.ofList name) (String.ofList body) source]
  | .inclusion target => included target
  | .stray _ => []

theorem flatMap_stray (source : String) (included : List Char → List ServiceEntry)
    (ls : List (List Char)) :
    (ls.map Block.stray).flatMap (Block.definitions source included) = [] := by
  simp [Block.definitions]

theorem body_foldl_extend (a : Unclosed) (ls : List (List Char)) :
    ls.foldl Unclosed.extend a = ⟨a.name, a.body ++ ls.flatMap (· ++ ['\n'])⟩ := by
  induction ls generalizing a with
  | nil => simp
  | cons s ls ih => simp [ih, Unclosed.extend]

theorem close_start (source : String) (included : List Char → List ServiceEntry)
    (name rest : List Char) (below : List (List Char)) :
    (below.foldl Unclosed.extend (.start name rest)).close source =
      Block.definitions source included (.definition name (bodyOf rest below)) := by
  rw [body_foldl_extend]
  rfl

/-- Lines read one after another give what their blocks give, read from the end. -/
theorem definitionsIn_eq (source : String) (included : List Char → List ServiceEntry)
    (a : Option Unclosed) (ls : List Line) :
    let p := ls.foldr Pending.add {}
    definitionsIn source included a ls =
      (a.map (p.lines.foldl Unclosed.extend)).toList.flatMap (·.close source) ++
        p.blocks.flatMap (Block.definitions source included) := by
  induction ls generalizing a with
  | nil => cases a <;> simp [definitionsIn]
  | cons l ls ih =>
    dsimp only at ih ⊢
    rw [List.foldr_cons]
    cases l with
    | blank => exact ih a
    | text s =>
      rw [definitionsIn, ih]
      cases a <;> rfl
    | definition name rest =>
      rw [definitionsIn, ih]
      simp only [Option.map_some, Option.toList_some, List.flatMap_singleton,
        close_start source included]
      cases a <;> simp [Pending.add]
    | inclusion target =>
      rw [definitionsIn, ih]
      cases a <;> simp [Pending.add, flatMap_stray, Block.definitions]

theorem value_define (source : String) (included : List Char → List ServiceEntry) (r : Registry)
    (name body : List Char) :
    (define source r name body).value =
      (Block.definitions source included (.definition name body)).foldl Registry.insert r := by
  rw [define, Block.definitions]
  split
  · rfl
  · dsimp only
    rw [Logged.value_bind]
    split <;> rfl

/-- The definitions of the blocks of a text are those of its lines. -/
theorem flatMap_ofText (source : String) (included : List Char → List ServiceEntry)
    (text : List Char) : (Block.ofText text).flatMap (Block.definitions source included) =
      definitionsIn source included none ((lines text).map Line.of) := by
  rw [definitionsIn_eq, Block.ofText, Block.ofLines, Pending.close, List.flatMap_append,
    flatMap_stray]
  rfl

/-- A text is read into the definitions of its blocks, if its include lines are followed to the
definitions that are included. -/
theorem value_readWith {follow : Follow} (source folder : String) (text : List Char)
    (h : ∀ target r, (includeFile follow (targetPath folder target) r).value =
      (included target).foldl Registry.insert r) :
    (readWith follow source folder text).value =
      .ofList ((Block.ofText text).flatMap (Block.definitions source included)) := by
  have henter : ∀ (r : Registry) (b : Block), (b.enter follow source folder r).value =
      (b.definitions source included).foldl Registry.insert r := by
    intro r b
    cases b with
    | definition name body => exact value_define source included r name body
    | inclusion target => exact h target r
    | stray line => rfl
  rw [readWith, Logged.value_foldlM, Registry.ofList, List.foldl_flatMap]
  simp only [henter]

theorem definitions_eq (v : FileView) (recursive : Bool) (chain : List Location) (path : String) :
    definitions v recursive chain path = match opened v chain path with
      | .error _ => []
      | .ok (l, bytes) => definitionsIn path
          (fun target =>
            if recursive then
              definitions v recursive (l :: chain) (targetPath (Path.parent path) target)
            else [])
          none ((lines (decodeLossy bytes)).map Line.of) := by
  rw [definitions]
  split
  · rename_i h
    rw [h]
  · rename_i h
    dsimp only
    rw [h]

/-- An included registry is merged where its definitions are inserted. -/
private theorem value_includeFile_of {v : FileView} {recursive : Bool} {chain : List Location}
    (hread : (readChained v recursive chain path).value =
      (opened v chain path).map fun _ => .ofList (definitions v recursive chain path))
    (r : Registry) : (includeFile (following v recursive chain) path r).value =
      (if recursive then definitions v recursive chain path else []).foldl Registry.insert r := by
  cases recursive with
  | false => rfl
  | true =>
    rw [following, if_pos rfl, includeFile, Logged.value_bind, hread, if_pos rfl]
    cases hopened : opened v chain path with
    | error e =>
      rw [definitions_eq, hopened]
      rfl
    | ok included => exact Registry.merge_ofList r _

/-- By induction on the files off the chain. -/
theorem value_readChained_eq (v : FileView) (recursive : Bool) (chain : List Location)
    (path : String) : (readChained v recursive chain path).value =
      (opened v chain path).map fun _ => .ofList (definitions v recursive chain path) := by
  induction chain, path using chain_induction v with
  | step chain path ih =>
    rw [value_readChained, definitions_eq]
    cases hopened : opened v chain path with
    | error e => rfl
    | ok file =>
      have hread := value_readWith path (Path.parent path) (decodeLossy file.2) fun target r =>
        value_includeFile_of (ih file.1 file.2 hopened (targetPath (Path.parent path) target)) r
      rw [flatMap_ofText] at hread
      exact congrArg Except.ok hread

theorem value_includeFile_following (v : FileView) (recursive : Bool) (chain : List Location)
    (path : String) (r : Registry) : (includeFile (following v recursive chain) path r).value =
      (if recursive then definitions v recursive chain path else []).foldl Registry.insert r :=
  value_includeFile_of (value_readChained_eq v recursive chain path) r

/-- What an include line of a text that came from no file stands for. -/
def includedInText (v : FileView) (recursive : Bool) (folder : String) (target : List Char) :
    List ServiceEntry :=
  if recursive then definitions v recursive [] (targetPath folder target) else []

theorem value_loadText (v : FileView) (text source folder : String) (recursive : Bool) :
    (loadText v text source folder recursive).value = .ofList ((Block.ofText text.toList).flatMap
      (Block.definitions source (includedInText v recursive folder))) :=
  value_readWith source folder text.toList fun _ r =>
    value_includeFile_following v recursive [] _ r

end NamesFile
end NetNames
