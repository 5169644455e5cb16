import NetNames.Proofs.NamesFile.Accepted

/-! A names file that is read, written and read again. The reader skips comment lines and follows
include lines, but not on the alias line, and what stands there is written to a line of its own; a
carriage return that the reader keeps before the ending of a line becomes part of an ending. Every
other descriptor is read again as it is, and no alias comes up that was not there before. -/
namespace NetNames.NamesFile

open Text

variable {e : ServiceEntry} {source : String}

/-- The descriptor begins with no comment and no include line, and none of its lines ends with a
carriage return. -/
structure Lasting (e : ServiceEntry) : Prop where
  no_comment : ∀ l ∈ (e.description.toList.splitOn '\n').head?, isBlankLine l = false
  no_inclusion : ∀ l ∈ (e.description.toList.splitOn '\n').head?, ¬ StartsInclusion l
  no_return : ∀ l ∈ e.description.toList.splitOn '\n', l.getLast? ≠ some '\r'

instance (e : ServiceEntry) : Decidable (Lasting e) :=
  let ls := e.description.toList.splitOn '\n'
  decidable_of_iff
    ((∀ l ∈ ls.head?, isBlankLine l = false) ∧ (∀ l ∈ ls.head?, ¬ StartsInclusion l) ∧
      ∀ l ∈ ls, l.getLast? ≠ some '\r')
    ⟨fun ⟨h₁, h₂, h₃⟩ => ⟨h₁, h₂, h₃⟩, fun h => ⟨h.no_comment, h.no_inclusion, h.no_return⟩⟩

theorem Accepted.renderable (h : Accepted e) (hlasting : Lasting e) : Renderable e := by
  obtain ⟨first, below, hs, -⟩ := exists_bodyLines e
  have hcomment := hlasting.no_comment
  have hinclusion := hlasting.no_inclusion
  have hbelow := h.text_below
  rw [hs] at hcomment hinclusion hbelow
  have htext : ∀ l ∈ below, isBlankLine l = false ∧ ¬ StartsInclusion l ∧ ¬ StartsDefinition l :=
    fun l hl => Line.of_eq_text_iff.mp (hbelow l hl)
  refine ⟨h.isWord, h.trimmed, ?_, hlasting.no_return, ?_, ?_⟩
  · rw [hs]
    exact List.forall_mem_cons.mpr ⟨hcomment first rfl, fun l hl => (htext l hl).1⟩
  · rw [hs]
    exact List.forall_mem_cons.mpr ⟨hinclusion first rfl, fun l hl => (htext l hl).2.1⟩
  · rw [hs]
    exact fun l hl => (htext l hl).2.2

theorem length_trim_unlines (ls : List (List Char)) :
    (trim (unlines ls)).length ≤ (unlines ls).length - 1 := by
  rcases List.eq_nil_or_concat' ls with rfl | ⟨ls, l, rfl⟩
  · exact Nat.le_refl 0
  · have hlength : (unlines ls ++ l ++ ['\n']).length - 1 = (unlines ls ++ l).length := by simp
    rw [unlines_append, unlines_cons, unlines_nil, ← List.append_assoc, trim_concat rfl, hlength]
    exact length_trim_le _

/-- The descriptor that is read again: what the lines of the body hold up to an include line. -/
def reread (e : ServiceEntry) : List Char :=
  bodyOf [] ((bodyRead e).foldr Pending.add {}).lines

theorem of_withoutReturn_eq_text_iff (l : List Char) :
    Line.of (withoutReturn l) = .text (withoutReturn l) ↔ Line.of l = .text l := by
  rcases eq_withoutReturn_or l with hl | hl
  · rw [← hl]
  · have hblank : ∀ c ∈ ['\r'], isBlank c = true := List.forall_mem_singleton.mpr rfl
    rw [hl, withoutReturn_append_return, Line.of_append_eq_text_iff hblank]

/-- The first line is read again by itself, and those below are text as they were. -/
theorem Accepted.reread_eq (h : Accepted e) {first : List Char} {below : List (List Char)}
    (hs : e.description.toList.splitOn '\n' = first :: below) :
    reread e = trim (unlines (match Line.of (' ' :: ' ' :: withoutReturn first) with
      | .text s => s :: below.map withoutReturn
      | .blank => below.map withoutReturn
      | _ => [])) := by
  have hbody : bodyRead e = Line.of (' ' :: ' ' :: withoutReturn first) ::
      (below.map withoutReturn).map Line.text := by
    obtain ⟨first', below', hs', hbody⟩ := exists_bodyLines e
    obtain ⟨rfl, rfl⟩ := List.cons.inj (hs.symm.trans hs')
    have hbelow := h.text_below
    rw [hs] at hbelow
    rw [bodyRead, hbody, List.map_cons, withoutReturn_cons (by decide),
      withoutReturn_cons (by decide), List.map_map]
    exact congrArg _ (List.map_congr_left fun l hl =>
      (of_withoutReturn_eq_text_iff l).mpr (hbelow l hl))
  rw [reread, hbody, List.foldr_cons, foldr_add_text, bodyOf_nil]
  cases Line.of (' ' :: ' ' :: withoutReturn first) <;> simp [Pending.add]

/-- Where the first line is text, only a carriage return keeps a descriptor from lasting. -/
theorem exists_return (hnot : ¬ Lasting e) {first : List Char} {below : List (List Char)}
    (hs : e.description.toList.splitOn '\n' = first :: below)
    (htext : Line.of (' ' :: ' ' :: first) = .text (' ' :: ' ' :: first)) :
    ∃ l ∈ first :: below, l.getLast? = some '\r' := by
  obtain ⟨hblank, hinclusion, -⟩ := Line.of_eq_text_iff.mp htext
  rw [isBlankLine_indented, isBlankLine_indented] at hblank
  rw [startsInclusion_indented, startsInclusion_indented] at hinclusion
  by_contra hnone
  push Not at hnone
  refine hnot ⟨?_, ?_, hs ▸ hnone⟩
  · rw [hs]
    rintro l ⟨⟩
    exact hblank
  · rw [hs]
    rintro l ⟨⟩
    exact hinclusion

/-- What does not last is read again as something shorter. -/
theorem Accepted.length_reread_lt (h : Accepted e) (hnot : ¬ Lasting e) :
    (reread e).length < e.description.toList.length := by
  obtain ⟨first, below, hs, -⟩ := exists_bodyLines e
  have hpos := List.length_pos_iff.mpr h.ne_nil
  have hlength : (unlines (first :: below)).length = e.description.toList.length + 1 := by
    rw [← hs, unlines_splitOn, List.length_append, List.length_singleton]
  rw [h.reread_eq hs]
  split
  · rename_i s hof
    obtain rfl := (Line.of_eq_text hof).1
    have htext := of_withoutReturn_eq_text_iff (' ' :: ' ' :: first)
    rw [withoutReturn_cons (by decide), withoutReturn_cons (by decide)] at htext
    have hlt := length_unlines_withoutReturn_lt (exists_return hnot hs (htext.mp hof))
    have htrim := length_trim_unlines ((first :: below).map withoutReturn)
    have hunlines : unlines ((' ' :: ' ' :: withoutReturn first) :: below.map withoutReturn) =
        ' ' :: ' ' :: unlines ((first :: below).map withoutReturn) := by simp
    rw [hunlines, trim_indented, trim_indented]
    omega
  · have hbelow := length_unlines_withoutReturn_le below
    have htrim := length_trim_unlines (below.map withoutReturn)
    rw [unlines_cons, List.length_append, List.length_cons] at hlength
    omega
  · exact hpos

theorem Accepted.reread_eq_iff (h : Accepted e) :
    reread e = e.description.toList ↔ Lasting e := by
  constructor
  · intro heq
    by_contra hnot
    exact absurd (congrArg List.length heq) (Nat.ne_of_lt (h.length_reread_lt hnot))
  · intro hlasting
    have hdescribed := (h.renderable hlasting).described
    rw [reread, hdescribed.bodyRead_eq, foldr_add_text, List.append_nil, bodyOf_bodyLines h.trimmed]

/-- What is written below the name of an entry begins no definition of its own. -/
theorem Accepted.not_definition_body (h : Accepted e) {l : List Char} (hl : l ∈ bodyLines e)
    (name rest : List Char) : Line.of (withoutReturn l) ≠ .definition name rest := by
  rcases mem_bodyLines hl with ⟨first, -, rfl⟩ | hbelow
  · rw [withoutReturn_cons (by decide)]
    intro hof
    obtain ⟨⟨gap, heq, hne, hname, hgap⟩, -⟩ := Line.of_eq_definition hof
    exact not_startsDefinition_indented _ ⟨name, gap, rest, heq, hne, hname, hgap⟩
  · rw [(of_withoutReturn_eq_text_iff l).mpr (h.text_below l hbelow)]
    exact nofun

/-- The lines of an entry define its name again, unless nothing is left of the descriptor. -/
theorem Accepted.definitions_linesRead (h : Accepted e) (hupper : upperCase e.name = e.name)
    (source : String) :
    (Block.ofLines (linesRead e)).flatMap (Block.definitions source fun _ => []) =
      if (reread e).isEmpty then [] else [.define e.name (String.ofList (reread e)) source] := by
  have hblocks : Block.ofLines (.blank :: .definition e.name.toList [] :: bodyRead e) =
      .definition e.name.toList (reread e) :: ((bodyRead e).foldr Pending.add {}).blocks :=
    ofLines_definition e.name.toList [] (bodyRead e)
  have hrest : ((bodyRead e).foldr Pending.add {}).blocks.flatMap
      (Block.definitions source fun _ => []) = [] := by
    refine List.flatMap_eq_nil_iff.mpr fun b hb => ?_
    have hfrom := (from_of_foldr _).2 b hb
    cases b with
    | definition name body =>
      obtain ⟨rest, -, hhead, -⟩ := hfrom
      obtain ⟨l, hl, hof⟩ := List.mem_map.mp hhead
      exact absurd hof (h.not_definition_body hl name rest)
    | inclusion target => rfl
    | stray line => rfl
  rw [linesRead, h.isWord.of_headLine hupper, hblocks, List.flatMap_cons, hrest, List.append_nil,
    Block.definitions, String.ofList_toList]

theorem includedInText_false (v : FileView) (folder : String) :
    includedInText v false folder = fun _ => [] :=
  funext fun _ => if_neg Bool.false_ne_true

/-- Every entry that is read comes from one of the definitions of the text. -/
theorem exists_of_mem_loaded {v : FileView} {text folder : String}
    (h : e ∈ (loadText v text source folder false).value.toList) :
    ∃ name body, .definition name body ∈ Block.ofText text.toList ∧ body ≠ [] ∧
      e = .define (String.ofList name) (String.ofList body) source := by
  obtain ⟨key, hkey⟩ := Registry.mem_toList_iff.mp h
  rw [value_loadText, includedInText_false] at hkey
  obtain ⟨x, hx, hname, hxe⟩ := Registry.exists_of_get?_ofList hkey
  obtain ⟨b, hb, hx⟩ := List.mem_flatMap.mp hx
  cases b with
  | inclusion target => cases hx
  | stray line => cases hx
  | definition name body =>
    rw [Block.definitions] at hx
    split at hx
    · cases hx
    · rename_i hne
      obtain rfl := List.mem_singleton.mp hx
      refine ⟨name, body, hb, fun hnil => hne (List.isEmpty_iff.mpr hnil), ?_⟩
      rw [ServiceEntry.define, upperCase_upperCase] at hname
      rw [← hxe, ← hname]
      rfl

theorem Accepted.hasDescriptor (h : Accepted e) : hasDescriptor e = true := by
  rw [hasDescriptor_iff, h.trimmed]
  exact h.ne_nil

theorem flatMap_singleton_if {α β : Type} (p : α → Bool) (f : α → β) (as : List α) :
    (as.flatMap fun a => if p a then [] else [f a]) = (as.filter fun a => !p a).map f := by
  induction as with
  | nil => rfl
  | cons a as ih =>
    rw [List.flatMap_cons, ih]
    by_cases h : p a = true
    · simp [h]
    · simp [h]

/-- A registry as a text from `source` makes it. -/
structure Loaded (source : String) (r : Registry) : Prop where
  canonical : r.Canonical
  accepted : ∀ e ∈ r.toList, Accepted e
  defined : ∀ e ∈ r.toList, .define e.name e.description source = e

theorem loaded_loadText (v : FileView) (text source folder : String) :
    Loaded source (loadText v text source folder false).value := by
  constructor
  · rw [value_loadText]
    exact Registry.canonical_ofList _
  · intro e he
    obtain ⟨name, body, hmem, hne, rfl⟩ := exists_of_mem_loaded he
    exact accepted_of_mem_ofText hmem hne source
  · intro e he
    obtain ⟨name, body, -, -, rfl⟩ := exists_of_mem_loaded he
    rw [ServiceEntry.define, ServiceEntry.define, upperCase_upperCase]

namespace Loaded
variable {r : Registry} {stamp folder name : String} {v : FileView}
  (hr : Loaded source r) (hstamp : '\n' ∉ stamp.toList)
include hr

theorem upperCase_name (he : e ∈ r.toList) : upperCase e.name = e.name :=
  (hr.canonical e.name e (hr.canonical.mem_toList_iff.mp he)).2

include hstamp

/-- The rendered text defines every entry again of which something is left. -/
theorem definitions_render :
    (Block.ofText (render stamp r).toList).flatMap (Block.definitions source fun _ => []) =
      (r.toList.filter fun e => !(reread e).isEmpty).map fun e =>
        .define e.name (String.ofList (reread e)) source := by
  have hall : r.toList.filter hasDescriptor = r.toList :=
    List.filter_eq_self.mpr fun e he => (hr.accepted e he).hasDescriptor
  have hfeed : ∀ e ∈ r.toList.filter hasDescriptor, '\n' ∉ e.name.toList :=
    fun e he => (hr.accepted e (List.mem_of_mem_filter he)).isWord.feed_not_mem
  have hhead : ∀ e ∈ r.toList, (Line.of (headLine e)).isHead = true :=
    fun e he => (hr.accepted e he).isWord.isHead_headLine (hr.upperCase_name he)
  rw [ofText_render hstamp hfeed, hall, ofLines_entries hhead, List.flatMap_assoc,
    ← flatMap_singleton_if]
  exact List.flatMap_congr fun e he =>
    (hr.accepted e he).definitions_linesRead (hr.upperCase_name he) source

theorem get?_render {f : ServiceEntry} :
    (loadText v (render stamp r) source folder false).value.get? name = some f ↔
      ∃ e ∈ r.toList, (reread e ≠ [] ∧ e.name = name) ∧
        .define e.name (String.ofList (reread e)) source = f := by
  have hnames := (hr.canonical.names_ascending fun e => !(reread e).isEmpty).nodup
  have hupper : ∀ e ∈ r.toList.filter fun e => !(reread e).isEmpty, upperCase e.name = e.name :=
    fun e he => hr.upperCase_name (List.mem_of_mem_filter he)
  rw [value_loadText, includedInText_false, hr.definitions_render hstamp,
    get?_ofList_define hupper hnames fun e => String.ofList (reread e)]
  simp only [List.mem_filter, Bool.not_eq_true', List.isEmpty_eq_false_iff, ne_eq, and_assoc]

theorem names_render (h : name ∈ (loadText v (render stamp r) source folder false).value.names) :
    name ∈ r.names := by
  obtain ⟨f, hf⟩ := Registry.mem_names_iff.mp h
  obtain ⟨e, he, ⟨-, rfl⟩, -⟩ := (hr.get?_render hstamp).mp hf
  exact Registry.mem_names_iff.mpr ⟨e, hr.canonical.mem_toList_iff.mp he⟩

theorem get?_render_of_lasting (he : e ∈ r.toList) (h : Lasting e) :
    (loadText v (render stamp r) source folder false).value.get? e.name = some e := by
  have hreread := (hr.accepted e he).reread_eq_iff.mpr h
  refine (hr.get?_render hstamp).mpr ⟨e, he, ⟨hreread ▸ (hr.accepted e he).ne_nil, rfl⟩, ?_⟩
  rw [hreread, String.ofList_toList, hr.defined e he]

theorem lasting_of_get?_render (he : e ∈ r.toList)
    (h : ((loadText v (render stamp r) source folder false).value.get? e.name).map
      (·.description) = some e.description) : Lasting e := by
  obtain ⟨f, hf, hdescription⟩ := Option.map_eq_some_iff.mp h
  obtain ⟨x, hx, ⟨-, hname⟩, rfl⟩ := (hr.get?_render hstamp).mp hf
  have hsame := hr.canonical.mem_toList_iff.mp hx
  rw [hname, hr.canonical.mem_toList_iff.mp he, Option.some.injEq] at hsame
  refine (hr.accepted e he).reread_eq_iff.mp ?_
  rw [← hdescription, hsame]
  exact String.toList_ofList.symm

end Loaded

/-- Whatever text is read, a name found once its entries are written and read again was there
before. A descriptor is then found as it was exactly if it lasts, and the whole registry is the same
exactly if all of them do. -/
theorem reread_render (v : FileView) (text source folder : String) {stamp : String}
    (hstamp : '\n' ∉ stamp.toList) :
    let read (s : String) := (loadText v s source folder false).value
    let r := read text
    let again := read (render stamp r)
    (∀ name ∈ again.names, name ∈ r.names) ∧
    (∀ e ∈ r.toList, (again.get? e.name).map (·.description) = some e.description ↔ Lasting e) ∧
    (again = r ↔ ∀ e ∈ r.toList, Lasting e) := by
  intro read r again
  have hr : Loaded source r := loaded_loadText v text source folder
  have hnames : ∀ name ∈ again.names, name ∈ r.names := fun name h => hr.names_render hstamp h
  have hlasting : ∀ e ∈ r.toList, Lasting e → again.get? e.name = some e :=
    fun e he h => hr.get?_render_of_lasting hstamp he h
  have hlasts : ∀ e ∈ r.toList, (again.get? e.name).map (·.description) = some e.description →
      Lasting e := fun e he h => hr.lasting_of_get?_render hstamp he h
  refine ⟨hnames, fun e he => ⟨hlasts e he, fun h => ?_⟩, fun h e he => ?_, fun h => ?_⟩
  · rw [hlasting e he h, Option.map_some]
  · refine hlasts e he ?_
    rw [h, hr.canonical.mem_toList_iff.mp he, Option.map_some]
  · exact hr.canonical.eq_of_names_subset hnames fun e he => hlasting e he (h e he)

/-- An entry that lasts, one that loses a carriage return, and one that is left out. -/
theorem tides_reread :
    let read (s : String) := (loadText (FileTree.view ⟨[], []⟩) s "tides" "." false).value
    let r := read "ebb = (HOST = e)\nFLOOD =\n (HOST = f)\r\r\n (PORT = 1)\nNEAP = #1"
    let again := read (render "2024" r)
    '\n' ∉ "2024".toList ∧ r.names = ["EBB", "FLOOD", "NEAP"] ∧
    (r.toList.filter fun e => decide (Lasting e)).map (·.name) = ["EBB"] ∧
    (∀ name ∈ again.names, name ∈ r.names) ∧ again ≠ r := by
  intro read r again
  have hstamp : '\n' ∉ "2024".toList := by decide
  obtain ⟨hnames, -, hall⟩ := reread_render (FileTree.view ⟨[], []⟩)
    "ebb = (HOST = e)\nFLOOD =\n (HOST = f)\r\r\n (PORT = 1)\nNEAP = #1" "tides" "." hstamp
  have hnot : ¬ ∀ e ∈ r.toList, Lasting e := by decide +kernel
  exact ⟨hstamp, by decide +kernel, by decide +kernel, hnames, fun h => hnot (hall.mp h)⟩

/-- A carriage return in front of the one that belongs to the ending of a line is kept by the first
reading and lost by the second. -/
theorem not_forall_reread : ¬ ∀ (v : FileView) (text source folder stamp : String),
    '\n' ∉ stamp.toList →
    let read (s : String) := (loadText v s source folder false).value
    let r := read text
    let again := read (render stamp r)
    again.names = r.names ∧
      ∀ name, (again.get? name).map (·.description) = (r.get? name).map (·.description) := by
  intro h
  have hagain := h (FileTree.view ⟨[], []⟩) "A =\n(X\r\r\n Y)" "names" "." "2024" (by decide)
  exact absurd (hagain.2 "A") (by decide +kernel)

end NetNames.NamesFile
