import NetNames.Proofs.NamesFile.DocumentOrder
import NetNames.Proofs.NamesFile.Heads
import NetNames.Proofs.Registry.Canonical
import NetNames.Proofs.Text.Lines

/-! Two texts read as one. If the second part begins with an alias line or an include line, comments
aside, nothing of it reaches into the first part: the first part is read as it is without the
second, but for the line feed that ends its last line, and no definition depends on that. -/
namespace NetNames.NamesFile

open Text

variable {source folder : String} {included : List Char → List ServiceEntry} {s t : List Char}

theorem trim_skipSpaces (s : List Char) : trim (skipSpaces s) = trim s := by
  obtain ⟨gap, hs, hgap⟩ := exists_append_skipSpaces s
  have hblank : ∀ c ∈ gap, isBlank c = true := fun c hc => isBlank_of_isSpace (hgap c hc)
  calc trim (skipSpaces s) = trim (gap ++ skipSpaces s) := (trim_blank_append hblank _).symm
    _ = trim s := by rw [← hs]

theorem Unclosed.close_congr {a b : Unclosed} (hname : a.name = b.name)
    (hbody : trim a.body = trim b.body) : a.close source = b.close source := by
  rw [close, close, hname, hbody]

section BlankEnd
variable (ht : ∀ c ∈ t, isBlank c = true)
include ht

theorem close_extend_append (a : Unclosed) (s : List Char) :
    (a.extend (s ++ t)).close source = (a.extend s).close source := by
  have hfeed : ∀ c ∈ ['\n'], isBlank c = true := List.forall_mem_singleton.mpr rfl
  refine Unclosed.close_congr rfl ?_
  change trim (a.body ++ (s ++ t) ++ ['\n']) = trim (a.body ++ s ++ ['\n'])
  rw [trim_append_blank hfeed, trim_append_blank hfeed, ← List.append_assoc, trim_append_blank ht]

/-- Blanks at the end of the last line change no definition, whatever kind of line it is. -/
theorem definitionsIn_append_blank
    (hincluded : ∀ x y, trim x = trim y → included x = included y) (a : Option Unclosed) :
    definitionsIn source included a [Line.of (s ++ t)] =
      definitionsIn source included a [Line.of s] := by
  by_cases hblank : isBlankLine s = true
  · rw [Line.of_eq_blank_iff.mpr hblank,
      Line.of_eq_blank_iff.mpr ((isBlankLine_append ht).trans hblank)]
  by_cases hi : StartsInclusion s
  · obtain ⟨indent, word, gap, rest, rfl, hindent, hlower, hgap⟩ := hi
    have htarget : included (skipSpaces (rest ++ t)) = included (skipSpaces rest) :=
      hincluded _ _ (by rw [trim_skipSpaces, trim_skipSpaces, trim_append_blank ht])
    simp only [List.append_assoc, List.cons_append, Line.of_inclusion hindent hlower hgap,
      definitionsIn, htarget]
  by_cases hd : StartsDefinition s
  · obtain ⟨name, gap, rest, rfl, hne, hname, hgap⟩ := hd
    have hword : lower name ≠ lower includeWord := fun hword =>
      hi ⟨[], name, gap, rest, rfl, List.forall_mem_nil _, hword, hgap⟩
    have hstart : Unclosed.start name (rest ++ t) = .start name rest := by
      rw [Unclosed.start, Unclosed.start, trim_append_blank ht]
    simp only [List.append_assoc, List.cons_append, Line.of_definition hne hname hword hgap,
      definitionsIn, hstart]
  · have hs := Line.of_text (Bool.eq_false_iff.mpr hblank) hi hd
    rw [hs, (Line.of_append_eq_text_iff ht).mpr hs]
    cases a with
    | none => rfl
    | some a =>
      simp only [definitionsIn, Option.map_some, Option.toList_some, List.flatMap_singleton,
        close_extend_append ht]

end BlankEnd

/-- Lines that end alike after any alias end alike after any lines. -/
theorem definitionsIn_append_congr {m n : List Line}
    (h : ∀ a, definitionsIn source included a m = definitionsIn source included a n)
    (a : Option Unclosed) (ls : List Line) :
    definitionsIn source included a (ls ++ m) = definitionsIn source included a (ls ++ n) := by
  induction ls generalizing a with
  | nil => exact h a
  | cons l ls ih =>
    cases l with
    | blank => exact ih a
    | text s => exact ih _
    | definition name rest => simp only [List.cons_append, definitionsIn, ih]
    | inclusion target => simp only [List.cons_append, definitionsIn, ih]

/-- A feed that ends the last line changes no definition. -/
theorem flatMap_ofText_append_feed
    (hincluded : ∀ x y, trim x = trim y → included x = included y) (s : List Char) :
    (Block.ofText (s ++ ['\n'])).flatMap (Block.definitions source included) =
      (Block.ofText s).flatMap (Block.definitions source included) := by
  obtain ⟨ls, l, hs, hfeed, hl⟩ := exists_lines_concat s
  have hend : ∀ a, definitionsIn source included a [Line.of (withoutReturn l)] =
      definitionsIn source included a ((lines l).map Line.of) := by
    intro a
    rcases hl with rfl | hl
    · rfl
    · rw [hl, List.map_singleton]
      rcases eq_withoutReturn_or l with hsame | hreturn
      · rw [← hsame]
      · have hblank : ∀ c ∈ ['\r'], isBlank c = true := List.forall_mem_singleton.mpr rfl
        rw [hreturn, definitionsIn_append_blank hblank hincluded, withoutReturn_append_return]
  rw [flatMap_ofText, flatMap_ofText, hs, hfeed, List.map_append, List.map_append,
    List.map_singleton]
  exact definitionsIn_append_congr hend none _

/-- The first line of the text that is neither blank nor a comment begins something. -/
def StartsFresh (s : List Char) : Prop :=
  ∀ l ∈ (lines s).find? (fun l => !isBlankLine l), StartsDefinition l ∨ StartsInclusion l

instance : DecidablePred StartsFresh := fun s =>
  inferInstanceAs (Decidable (∀ l ∈ (lines s).find? (fun l => !isBlankLine l), _))

theorem ne_blank_eq (l : List Char) : (Line.of l != .blank) = !isBlankLine l := by
  rw [Bool.eq_iff_iff, bne_iff_ne, Bool.not_eq_true', ← Bool.not_eq_true, ne_eq,
    Line.of_eq_blank_iff]

/-- A text that starts fresh makes blocks of its own. -/
theorem StartsFresh.ofText_append {b : List Char} (hb : StartsFresh b) (a : List Char) :
    Block.ofText (a ++ '\n' :: b) = Block.ofText (a ++ ['\n']) ++ Block.ofText b := by
  have hlines : lines (a ++ '\n' :: b) = lines (a ++ ['\n']) ++ lines b := by
    rw [lines, cutLines_append_newline, List.map_append]
    rfl
  have hhead : HeadFirst ((lines b).map Line.of) := by
    intro l hl
    rw [List.head?_filter, List.find?_map] at hl
    obtain ⟨x, hx, rfl⟩ := Option.map_eq_some_iff.mp hl
    simp only [Function.comp_def, ne_blank_eq] at hx
    exact Line.isHead_iff.mpr (hb x hx)
  rw [Block.ofText, hlines, List.map_append, Block.ofLines_append _ hhead]
  rfl

/-- A text that starts fresh is read after another as if it were read alone and then merged: what
it defines stands, and every other alias is what it was without it. -/
theorem read_append (v : FileView) (a : String) {b : String} (hb : StartsFresh b.toList)
    (source folder : String) (recursive : Bool) :
    let read (text : String) := (loadText v text source folder recursive).value
    read (a ++ "\n" ++ b) = (read a).merge (read b) ∧
    (∀ name e, (read b).get? name = some e → (read (a ++ "\n" ++ b)).get? name = some e) ∧
    ∀ name, name ∉ (read b).names →
      (read (a ++ "\n" ++ b)).get? name = (read a).get? name := by
  intro read
  have htrim : ∀ x y, trim x = trim y →
      includedInText v recursive folder x = includedInText v recursive folder y := by
    intro x y h
    rw [includedInText, includedInText, targetPath, targetPath, h]
  have hmerge : read (a ++ "\n" ++ b) = (read a).merge (read b) := by
    have htext : (a ++ "\n" ++ b).toList = a.toList ++ '\n' :: b.toList := by simp
    simp only [read, value_loadText]
    rw [htext, hb.ofText_append, List.flatMap_append, flatMap_ofText_append_feed htrim,
      Registry.merge_ofList, Registry.ofList, List.foldl_append]
    rfl
  refine ⟨hmerge, fun name e he => ?_, fun name hname => ?_⟩
  · rw [hmerge, Registry.get?_merge, he, Option.some_or]
  · have hnone : (read b).get? name = none :=
      Option.eq_none_iff_forall_not_mem.mpr fun e he => hname (Registry.mem_names_iff.mpr ⟨e, he⟩)
    rw [hmerge, Registry.get?_merge, hnone, Option.none_or]

/-- Two definitions, the last line ended by a carriage return, and one of them anew. -/
theorem berths_read_on :
    let a := "berth = (HOST = a)\nQUAY =\n  (HOST = q)\r"
    let b := "# moved\n\nBERTH =\n  (HOST = b)"
    let read (text : String) := (loadText (FileTree.view ⟨[], []⟩) text "names" "." true).value
    StartsFresh b.toList ∧ (read (a ++ "\n" ++ b)).toList.map (fun e => (e.name, e.description)) =
      [("BERTH", "(HOST = b)"), ("QUAY", "(HOST = q)")] := by
  intro a b read
  have hb : StartsFresh b.toList := by decide +kernel
  have hmerge : read (a ++ "\n" ++ b) = (read a).merge (read b) :=
    (read_append (FileTree.view ⟨[], []⟩) a hb "names" "." true).1
  refine ⟨hb, ?_⟩
  rw [hmerge]
  decide +kernel

end NetNames.NamesFile
