import Mathlib.Data.List.Sort
import Mathlib.Data.String.Basic
import NetNames.NamesFile.Writer
import NetNames.Proofs.NamesFile.Heads
import NetNames.Proofs.NamesFile.DocumentOrder
import NetNames.Proofs.Registry.Canonical
import NetNames.Proofs.Text.Lines

/-! A registry that was written as a names file is read back. The text is cut into the lines that
were put into it, whatever they are then taken for. Where every one of them is taken for what it was
meant to be, each entry makes one block, in which nothing but the indentation is added to its
descriptor. -/
namespace NetNames.NamesFile

open Text

/-- A name as an alias line can define it: one word that names no include line. -/
structure IsWord (name : String) : Prop where
  ne_empty : name ≠ ""
  chars : ∀ c ∈ name.toList, isName c = true
  ne_include : name ≠ "IFILE"

/-- The descriptor is trimmed and has no line that a reader would leave out or take for the start of
something. -/
structure Described (e : ServiceEntry) : Prop where
  trimmed : trim e.description.toList = e.description.toList
  not_blank : ∀ l ∈ e.description.toList.splitOn '\n', isBlankLine l = false
  no_return : ∀ l ∈ e.description.toList.splitOn '\n', l.getLast? ≠ some '\r'
  no_inclusion : ∀ l ∈ e.description.toList.splitOn '\n', ¬ StartsInclusion l
  no_definition : ∀ l ∈ (e.description.toList.splitOn '\n').tail, ¬ StartsDefinition l

instance (name : String) : Decidable (IsWord name) :=
  decidable_of_iff (name ≠ "" ∧ name.toList.all isName = true ∧ name ≠ "IFILE")
    ⟨fun ⟨h₁, h₂, h₃⟩ => ⟨h₁, List.all_eq_true.mp h₂, h₃⟩,
      fun h => ⟨h.ne_empty, List.all_eq_true.mpr h.chars, h.ne_include⟩⟩

instance (e : ServiceEntry) : Decidable (Described e) :=
  let ls := e.description.toList.splitOn '\n'
  decidable_of_iff
    (trim e.description.toList = e.description.toList ∧ (∀ l ∈ ls, isBlankLine l = false) ∧
      (∀ l ∈ ls, l.getLast? ≠ some '\r') ∧ (∀ l ∈ ls, ¬ StartsInclusion l) ∧
      ∀ l ∈ ls.tail, ¬ StartsDefinition l)
    ⟨fun ⟨h₁, h₂, h₃, h₄, h₅⟩ => ⟨h₁, h₂, h₃, h₄, h₅⟩,
      fun h => ⟨h.trimmed, h.not_blank, h.no_return, h.no_inclusion, h.no_definition⟩⟩

/-- An entry that is read as it was written. -/
structure Renderable (e : ServiceEntry) : Prop where
  isWord : IsWord e.name
  described : Described e

instance (e : ServiceEntry) : Decidable (Renderable e) :=
  decidable_of_iff (IsWord e.name ∧ Described e)
    ⟨fun ⟨hword, hdescribed⟩ => ⟨hword, hdescribed⟩, fun h => ⟨h.isWord, h.described⟩⟩

/-- The line with the name of an entry. -/
def headLine (e : ServiceEntry) : List Char := e.name.toList ++ [' ', '=']

/-- The lines below the name of an entry. -/
def bodyLines (e : ServiceEntry) : List (List Char) :=
  (' ' :: ' ' :: e.description.toList).splitOn '\n'

def entryLines (e : ServiceEntry) : List (List Char) := [] :: headLine e :: bodyLines e

/-- What the lines below the name are taken for when they are read again. -/
def bodyRead (e : ServiceEntry) : List Line := (bodyLines e).map fun l => Line.of (withoutReturn l)

def linesRead (e : ServiceEntry) : List Line := .blank :: Line.of (headLine e) :: bodyRead e

variable {e : ServiceEntry} {es : List ServiceEntry}

theorem hasDescriptor_iff : hasDescriptor e = true ↔ trim e.description.toList ≠ [] := by
  simp [hasDescriptor]

theorem toList_definitionText (e : ServiceEntry) :
    (definitionText e).toList = unlines (entryLines e) := by
  rw [entryLines, unlines_cons, unlines_cons, headLine, bodyLines, unlines_splitOn, definitionText]
  simp

theorem withoutReturn_headLine (e : ServiceEntry) : withoutReturn (headLine e) = headLine e :=
  withoutReturn_eq_self (by simp [headLine])

theorem IsWord.feed_not_mem {name : String} (h : IsWord name) : '\n' ∉ name.toList :=
  fun hfeed => absurd (h.chars _ hfeed) (by decide)

/-- The text of entries is cut into the lines of one after another. -/
theorem map_lines_entries (hes : ∀ e ∈ es, '\n' ∉ e.name.toList) :
    (lines (unlines (es.flatMap entryLines))).map Line.of = es.flatMap linesRead := by
  have hfeed : ∀ l ∈ es.flatMap entryLines, '\n' ∉ l := by
    intro l hl
    obtain ⟨e, he, hl⟩ := List.mem_flatMap.mp hl
    rcases List.mem_cons.mp hl with rfl | hl
    · exact List.not_mem_nil
    rcases List.mem_cons.mp hl with rfl | hl
    · simpa [headLine] using hes e he
    · exact not_mem_of_mem_splitOn hl
  rw [lines_unlines hfeed, List.map_flatMap, List.map_flatMap]
  refine congrArg (es.flatMap ·) (funext fun e => ?_)
  simp only [entryLines, List.map_cons, withoutReturn_headLine, List.map_map]
  rfl

theorem startsInclusion_indented {s : List Char} :
    StartsInclusion (' ' :: s) ↔ StartsInclusion s := by
  rw [← inclusionTarget?_isSome_iff, ← inclusionTarget?_isSome_iff]
  rfl

theorem not_startsDefinition_indented (s : List Char) : ¬ StartsDefinition (' ' :: s) := by
  rw [← aliasHead?_eq_none_iff]
  rfl

theorem isBlankLine_indented (s : List Char) : isBlankLine (' ' :: s) = isBlankLine s := rfl

theorem trim_indented (s : List Char) : trim (' ' :: s) = trim s := rfl

/-- The lines of the body are those of the descriptor, the first one indented. -/
theorem exists_bodyLines (e : ServiceEntry) : ∃ first below,
    e.description.toList.splitOn '\n' = first :: below ∧
      bodyLines e = (' ' :: ' ' :: first) :: below := by
  cases hs : e.description.toList.splitOn '\n' with
  | nil => exact absurd hs (List.splitOn_ne_nil '\n' _)
  | cons first below =>
    refine ⟨first, below, rfl, ?_⟩
    rw [bodyLines, List.splitOn_cons_eq_if_modifyHead, List.splitOn_cons_eq_if_modifyHead, hs]
    rfl

theorem mem_bodyLines {l : List Char} (h : l ∈ bodyLines e) :
    (∃ first ∈ e.description.toList.splitOn '\n', l = ' ' :: ' ' :: first) ∨
      l ∈ (e.description.toList.splitOn '\n').tail := by
  obtain ⟨first, below, hs, hbody⟩ := exists_bodyLines e
  rw [hs]
  rw [hbody] at h
  rcases List.mem_cons.mp h with rfl | h
  · exact .inl ⟨first, List.mem_cons_self, rfl⟩
  · exact .inr h

theorem Described.no_return_body (he : Described e) {l : List Char} (hl : l ∈ bodyLines e) :
    l.getLast? ≠ some '\r' := by
  rcases mem_bodyLines hl with ⟨first, hfirst, rfl⟩ | hbelow
  · have hblank := he.not_blank first hfirst
    have hreturn := he.no_return first hfirst
    cases first with
    | nil => cases hblank
    | cons c first => simpa using hreturn
  · exact he.no_return l (List.mem_of_mem_tail hbelow)

theorem Described.of_body (he : Described e) {l : List Char} (hl : l ∈ bodyLines e) :
    Line.of l = .text l := by
  rcases mem_bodyLines hl with ⟨first, hfirst, rfl⟩ | hbelow
  · refine Line.of_text ?_ ?_ (not_startsDefinition_indented _)
    · rw [isBlankLine_indented, isBlankLine_indented]
      exact he.not_blank first hfirst
    · rw [startsInclusion_indented, startsInclusion_indented]
      exact he.no_inclusion first hfirst
  · have hl := List.mem_of_mem_tail hbelow
    exact Line.of_text (he.not_blank l hl) (he.no_inclusion l hl) (he.no_definition l hbelow)

theorem Described.bodyRead_eq (he : Described e) : bodyRead e = (bodyLines e).map .text :=
  List.map_congr_left fun l hl => by
    rw [withoutReturn_eq_self (he.no_return_body hl), he.of_body hl]

theorem bodyOf_nil (ls : List (List Char)) : bodyOf [] ls = trim (unlines ls) := rfl

/-- The body of a definition is the descriptor, without the indentation and the last line feed. -/
theorem bodyOf_bodyLines (h : trim e.description.toList = e.description.toList) :
    bodyOf [] (bodyLines e) = e.description.toList := by
  rw [bodyOf_nil, bodyLines, unlines_splitOn, trim_concat (by decide), trim_indented,
    trim_indented, h]

/-- The name of an entry is read back, if it is a word in upper case. -/
theorem IsWord.of_headLine (h : IsWord e.name) (hupper : upperCase e.name = e.name) :
    Line.of (headLine e) = .definition e.name.toList [] := by
  have hlower : ∀ c ∈ e.name.toList, c.isLower = false := by
    intro c hc
    rw [← hupper, upperCase, String.toList_ofList] at hc
    exact isLower_of_upperChar (upperChar_of_mem_upper hc)
  have hword : ∀ c ∈ includeWord, c.isLower = false := by simp [includeWord]
  have hgap : ∀ c ∈ [' '], isSpace c = true := List.forall_mem_singleton.mpr rfl
  refine Line.of_definition ?_ h.chars ?_ hgap []
  · exact fun hn => h.ne_empty (String.toList_eq_nil_iff.mp hn)
  · exact fun hn => h.ne_include (String.toList_inj.mp (lower_inj hlower hword hn))

theorem IsWord.isHead_headLine (h : IsWord e.name) (hupper : upperCase e.name = e.name) :
    (Line.of (headLine e)).isHead = true := by
  rw [h.of_headLine hupper]
  rfl

theorem foldr_add_text (ls : List (List Char)) (p : Pending) :
    (ls.map Line.text).foldr Pending.add p = { p with lines := ls ++ p.lines } := by
  induction ls with
  | nil => rfl
  | cons l ls ih =>
    rw [List.map_cons, List.foldr_cons, ih]
    rfl

/-- A definition takes in the text below it, and the text at the start of the lines after. -/
theorem ofLines_definition (name : List Char) (ts : List (List Char)) (ls : List Line) :
    let p := ls.foldr Pending.add {}
    Block.ofLines (.blank :: .definition name [] :: (ts.map Line.text ++ ls)) =
      .definition name (bodyOf [] (ts ++ p.lines)) :: p.blocks := by
  rw [Block.ofLines, List.foldr_cons, List.foldr_cons, List.foldr_append, foldr_add_text]
  rfl

theorem headFirst_entry (he : (Line.of (headLine e)).isHead = true) (ls : List Line) :
    HeadFirst (linesRead e ++ ls) := by
  intro l hl
  have hne : (Line.of (headLine e) != .blank) = true := by
    rw [bne_iff_ne]
    intro hblank
    rw [hblank] at he
    cases he
  rw [linesRead, List.cons_append, List.cons_append, List.filter_cons_of_neg (by simp),
    List.filter_cons_of_pos (p := (· != Line.blank)) hne, List.head?_cons, Option.mem_some] at hl
  exact hl ▸ he

/-- An entry whose name is read back begins blocks of its own, whatever is written before it. -/
theorem ofLines_append_entry (ls ms : List Line)
    (he : (Line.of (headLine e)).isHead = true) :
    Block.ofLines (ls ++ (linesRead e ++ ms)) =
      Block.ofLines ls ++ Block.ofLines (linesRead e ++ ms) :=
  Block.ofLines_append ls (headFirst_entry he ms)

/-- The blocks of entries whose names are read back are those of one entry after another. -/
theorem ofLines_entries (hes : ∀ e ∈ es, (Line.of (headLine e)).isHead = true) :
    Block.ofLines (es.flatMap linesRead) = es.flatMap fun e => Block.ofLines (linesRead e) := by
  induction es with
  | nil => rfl
  | cons e es ih =>
    obtain ⟨-, hes⟩ := List.forall_mem_cons.mp hes
    rw [List.flatMap_cons, List.flatMap_cons, ← ih hes]
    cases es with
    | nil => simp [Block.ofLines, Pending.close]
    | cons d es =>
      rw [List.flatMap_cons]
      exact ofLines_append_entry _ _ (hes d List.mem_cons_self)

/-- The lines of a renderable entry make one block. -/
theorem Renderable.ofLines_linesRead (he : Renderable e) (hupper : upperCase e.name = e.name) :
    Block.ofLines (linesRead e) = [.definition e.name.toList e.description.toList] := by
  have hblocks := ofLines_definition e.name.toList (bodyLines e) []
  simp only [List.append_nil, List.foldr_nil, bodyOf_bodyLines he.described.trimmed] at hblocks
  rw [linesRead, he.described.bodyRead_eq, he.isWord.of_headLine hupper, hblocks]

theorem ofLines_renderable (hes : ∀ e ∈ es, Renderable e ∧ upperCase e.name = e.name) :
    Block.ofLines (es.flatMap linesRead) =
      es.map fun e => .definition e.name.toList e.description.toList := by
  have hhead : ∀ e ∈ es, (Line.of (headLine e)).isHead = true := fun e he =>
    (hes e he).1.isWord.isHead_headLine (hes e he).2
  rw [ofLines_entries hhead, List.map_eq_flatMap]
  exact List.flatMap_congr fun e he => (hes e he).1.ofLines_linesRead (hes e he).2

/-- A comment line makes no block. -/
theorem ofText_comment {s : List Char} (hs : '\n' ∉ s) (rest : List Char) :
    Block.ofText ('#' :: s ++ '\n' :: rest) = Block.ofText rest := by
  have hcomment : '\n' ∉ '#' :: s := List.not_mem_cons_of_ne_of_not_mem (by decide) hs
  rw [Block.ofText, lines_append_feed hcomment, withoutReturn_cons (by decide)]
  rfl

theorem not_mem_toString (n : Nat) : '\n' ∉ (toString n).toList := by
  intro h
  rw [Nat.toString_eq_repr, Nat.repr, String.toList_ofList] at h
  exact absurd (Nat.isDigit_of_mem_toDigits (by decide) (by decide) h) (by decide)

theorem unlines_flatMap {α : Type} (f : α → List (List Char)) (as : List α) :
    unlines (as.flatMap f) = as.flatMap fun a => unlines (f a) :=
  List.flatMap_assoc

/-- The two comment lines of the header, then the lines of the entries. -/
theorem toList_render (stamp : String) (r : Registry) :
    let es := r.toList.filter hasDescriptor
    (render stamp r).toList = '#' :: " tnsnames.ora generated by tnsync".toList ++ '\n' ::
      ('#' :: (" ".toList ++ (toString es.length).toList ++ " entries, ".toList ++ stamp.toList) ++
        '\n' :: unlines (es.flatMap entryLines)) := by
  have hentries (es : List ServiceEntry) :
      (String.join (es.map definitionText)).toList = unlines (es.flatMap entryLines) := by
    simp [unlines_flatMap, List.flatMap_map, toList_definitionText]
  have hheader (count : Nat) : header count stamp =
      "# tnsnames.ora generated by tnsync\n# " ++ toString count ++ " entries, " ++ stamp ++ "\n" :=
    rfl
  simp [render, hheader, hentries]

/-- The blocks of a rendered text are those of the lines of its entries. -/
theorem ofText_render {r : Registry} {stamp : String} (hstamp : '\n' ∉ stamp.toList)
    (hes : ∀ e ∈ r.toList.filter hasDescriptor, '\n' ∉ e.name.toList) :
    Block.ofText (render stamp r).toList =
      Block.ofLines ((r.toList.filter hasDescriptor).flatMap linesRead) := by
  have hcount : '\n' ∉ " ".toList ++ (toString (r.toList.filter hasDescriptor).length).toList ++
      " entries, ".toList ++ stamp.toList := by
    simp only [List.mem_append, hstamp, not_mem_toString, or_false]
    decide
  rw [toList_render, ofText_comment (by decide), ofText_comment hcount, Block.ofText,
    map_lines_entries hes]

/-- A text of definitions is read into them, whatever becomes of include lines. -/
theorem value_readWith_definitions {follow : Follow} {text : List Char} (source folder : String)
    (hdescriptor : ∀ e ∈ es, hasDescriptor e = true)
    (htext : Block.ofText text =
      es.map fun e => .definition e.name.toList e.description.toList) :
    (readWith follow source folder text).value =
      .ofList (es.map fun e => .define e.name e.description source) := by
  rw [readWith, Logged.value_foldlM, htext, Registry.ofList, List.foldl_map, List.foldl_map]
  refine List.foldl_ext _ _ _ fun r e he => ?_
  have hbody : e.description.toList.isEmpty = false :=
    List.isEmpty_eq_false_iff.mpr fun hnil =>
      hasDescriptor_iff.mp (hdescriptor e he) (by rw [hnil]; rfl)
  rw [Block.enter, value_define source fun _ => [], Block.definitions, hbody]
  simp

/-- What is found once entries with distinct names are defined anew. -/
theorem get?_ofList_define (hupper : ∀ e ∈ es, upperCase e.name = e.name)
    (hnames : (es.map (·.name)).Nodup) (d : ServiceEntry → String) (source name : String)
    (f : ServiceEntry) :
    (Registry.ofList (es.map fun e => .define e.name (d e) source)).get? name = some f ↔
      ∃ e ∈ es, e.name = name ∧ .define e.name (d e) source = f := by
  have hdefine : ∀ e ∈ es, upperCase (ServiceEntry.define e.name (d e) source).name = e.name := by
    intro e he
    rw [ServiceEntry.define, hupper e he, hupper e he]
  have hsame : (es.map fun e => ServiceEntry.define e.name (d e) source).map
      (fun e => upperCase e.name) = es.map (·.name) := by
    rw [List.map_map]
    exact List.map_congr_left hdefine
  have hkeep : ∀ e ∈ es, { ServiceEntry.define e.name (d e) source with name := e.name } =
      .define e.name (d e) source := by
    intro e he
    rw [ServiceEntry.define, hupper e he]
  rw [Registry.get?_ofList_eq_some_iff (hsame ▸ hnames)]
  constructor
  · rintro ⟨_, hmem, hname, rfl⟩
    obtain ⟨e, he, rfl⟩ := List.mem_map.mp hmem
    rw [hdefine e he] at hname
    exact ⟨e, he, hname, by rw [← hname, hkeep e he]⟩
  · rintro ⟨e, he, rfl, rfl⟩
    exact ⟨_, List.mem_map_of_mem he, hdefine e he, hkeep e he⟩

/-- What is rendered is read back: the entries with descriptors and no others, each under its name
with the descriptor it had, and with the service and the addresses that are mined from it. -/
theorem read_render {r : Registry} {stamp : String} (hr : r.Canonical)
    (hstamp : '\n' ∉ stamp.toList)
    (hrenderable : ∀ e ∈ r.toList, hasDescriptor e = true → Renderable e) (v : FileView)
    (source folder : String) (recursive : Bool) :
    let again := (loadText v (render stamp r) source folder recursive).value
    again.names = (r.toList.filter hasDescriptor).map (·.name) ∧
    ∀ e ∈ r.toList, hasDescriptor e = true →
      again.get? e.name = some ⟨e.name, e.description, source, Descriptor.serviceOf e.description,
        Descriptor.addressesOf e.description⟩ := by
  have hes : ∀ e ∈ r.toList.filter hasDescriptor, Renderable e ∧ upperCase e.name = e.name := by
    intro e he
    obtain ⟨he, hdescriptor⟩ := List.mem_filter.mp he
    exact ⟨hrenderable e he hdescriptor, (hr e.name e (hr.mem_toList_iff.mp he)).2⟩
  have hblocks : Block.ofText (render stamp r).toList = (r.toList.filter hasDescriptor).map
      fun e => .definition e.name.toList e.description.toList := by
    rw [ofText_render hstamp fun e he => (hes e he).1.isWord.feed_not_mem,
      ofLines_renderable hes]
  have hvalue : (loadText v (render stamp r) source folder recursive).value =
      .ofList ((r.toList.filter hasDescriptor).map fun e =>
        .define e.name e.description source) :=
    value_readWith_definitions source folder (fun e he => (List.mem_filter.mp he).2) hblocks
  have hnames := hr.names_ascending hasDescriptor
  intro again
  have hget := get?_ofList_define (fun e he => (hes e he).2) hnames.nodup (·.description) source
  rw [← hvalue] at hget
  refine ⟨?_, fun e he hdescriptor => ?_⟩
  · -- Both lists of names ascend, so they are the same list if they have the same members.
    refine List.Pairwise.eq_of_mem_iff again.entries.keys_ascending hnames fun name => ?_
    rw [List.mem_map]
    refine Registry.mem_names_iff.trans ⟨?_, ?_⟩
    · rintro ⟨f, hf⟩
      obtain ⟨e, he, hname, -⟩ := (hget name f).mp hf
      exact ⟨e, he, hname⟩
    · rintro ⟨e, he, hname⟩
      exact ⟨_, (hget name _).mpr ⟨e, he, hname, rfl⟩⟩
  · have hmem := List.mem_filter.mpr ⟨he, hdescriptor⟩
    refine (hget e.name _).mpr ⟨e, hmem, rfl, ?_⟩
    rw [ServiceEntry.define, (hes e hmem).2]

private def moorings : Registry :=
  .ofList [.define "quay.d" "(DESCRIPTION =\n    (HOST = q)\n\t(# 1)\n  )" "names",
    .define "BARE" " " "names", .define "PIER" "IFILE" "names"]

/-- A descriptor of four lines, one that is a word of its own, and one that is blank. -/
theorem moorings_read_back :
    moorings.Canonical ∧ '\n' ∉ "2024".toList ∧
    (∀ e ∈ moorings.toList, hasDescriptor e = true → Renderable e) ∧
    (loadText (FileTree.view ⟨[], []⟩) (render "2024" moorings) "again" "." true).value.names =
      ["PIER", "QUAY.D"] := by
  have hr : moorings.Canonical := Registry.canonical_ofList _
  have hstamp : '\n' ∉ "2024".toList := by decide
  have hrenderable : ∀ e ∈ moorings.toList, hasDescriptor e = true → Renderable e := by
    decide +kernel
  refine ⟨hr, hstamp, hrenderable, ?_⟩
  rw [(read_render hr hstamp hrenderable (FileTree.view ⟨[], []⟩) "again" "." true).1]
  decide +kernel

end NetNames.NamesFile
