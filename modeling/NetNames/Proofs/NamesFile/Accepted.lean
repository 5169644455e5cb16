import NetNames.Proofs.NamesFile.Rendered

/-! What the entries of a names file look like. A block is made of lines of the text, so the name of
a definition is a word and the lines of its body are text, apart from the first one, which may have
stood on the alias line where no rule applies to it. -/
namespace NetNames.NamesFile

open Text

variable {e : ServiceEntry} {name body text : List Char}

/-- The lines that a block is made of. -/
def Block.From (ls : List Line) : Block → Prop
  | .definition name body => ∃ rest below, .definition name rest ∈ ls ∧ body = bodyOf rest below ∧
      ∀ s ∈ below, .text s ∈ ls
  | .inclusion target => .inclusion target ∈ ls
  | .stray s => .text s ∈ ls

theorem Block.From.mono {ls ms : List Line} (hls : ls ⊆ ms) {b : Block} (h : b.From ls) :
    b.From ms := by
  cases b with
  | definition name body =>
    obtain ⟨rest, below, hhead, hbody, hbelow⟩ := h
    exact ⟨rest, below, hls hhead, hbody, fun s hs => hls (hbelow s hs)⟩
  | inclusion target => exact hls h
  | stray s => exact hls h

theorem from_of_foldr (ls : List Line) :
    let p := ls.foldr Pending.add {}
    (∀ s ∈ p.lines, .text s ∈ ls) ∧ ∀ b ∈ p.blocks, b.From ls := by
  induction ls with
  | nil => exact ⟨nofun, nofun⟩
  | cons l ls ih =>
    obtain ⟨hlines, hblocks⟩ := ih
    have hmore : ls ⊆ l :: ls := List.subset_cons_self l ls
    have hlines' : ∀ s ∈ (ls.foldr Pending.add {}).lines, .text s ∈ l :: ls :=
      fun s hs => hmore (hlines s hs)
    have hblocks' : ∀ b ∈ (ls.foldr Pending.add {}).blocks, b.From (l :: ls) :=
      fun b hb => (hblocks b hb).mono hmore
    rw [List.foldr_cons]
    cases l with
    | blank => exact ⟨hlines', hblocks'⟩
    | text s => exact ⟨List.forall_mem_cons.mpr ⟨List.mem_cons_self, hlines'⟩, hblocks'⟩
    | definition name rest =>
      refine ⟨nofun, List.forall_mem_cons.mpr ⟨?_, hblocks'⟩⟩
      exact ⟨rest, _, List.mem_cons_self, rfl, hlines'⟩
    | inclusion target =>
      refine ⟨nofun, List.forall_mem_cons.mpr ⟨List.mem_cons_self, ?_⟩⟩
      refine List.forall_mem_append.mpr ⟨fun b hb => ?_, hblocks'⟩
      obtain ⟨s, hs, rfl⟩ := List.mem_map.mp hb
      exact hlines' s hs

theorem from_of_mem_ofLines {ls : List Line} {b : Block} (h : b ∈ Block.ofLines ls) :
    b.From ls := by
  obtain ⟨hlines, hblocks⟩ := from_of_foldr ls
  rcases List.mem_append.mp h with h | h
  · obtain ⟨s, hs, rfl⟩ := List.mem_map.mp h
    exact hlines s hs
  · exact hblocks b h

theorem exists_of_isBlankLine {s : List Char} (h : isBlankLine s = false) :
    ∃ c ∈ s, isBlank c = false := by
  by_contra hnone
  have hblank : ∀ c ∈ s, isBlank c = true := by simpa using hnone
  rw [isBlankLine, trimStart_of_blank hblank] at h
  cases h

section Bodies
variable {ls : List (List Char)} {l x : List Char}

/-- A line with something in it. -/
def Filled (l : List Char) : Prop := '\n' ∉ l ∧ ∃ c ∈ l, isBlank c = false

theorem feed_not_mem_trimStart (h : '\n' ∉ l) : '\n' ∉ trimStart l :=
  fun hfeed => h ((List.dropWhile_sublist _).mem hfeed)

theorem feed_not_mem_trimEnd (h : '\n' ∉ l) : '\n' ∉ trimEnd l := by
  obtain ⟨t, ht, -⟩ := exists_append_trimEnd l
  exact fun hfeed => h (ht ▸ List.mem_append_left t hfeed)

theorem exists_mem_unlines (ls : List (List Char)) (h : Filled l) :
    ∃ c ∈ unlines (l :: ls), isBlank c = false := by
  obtain ⟨-, c, hc, hblank⟩ := h
  exact ⟨c, by simp [hc], hblank⟩

/-- To trim the end of filled lines is to trim the end of the last one. -/
theorem mem_splitOn_trimEnd (hls : ∀ y ∈ l :: ls, Filled y)
    (h : x ∈ (trimEnd (unlines (l :: ls))).splitOn '\n') :
    ∃ y ∈ l :: ls, x = y ∨ x = trimEnd y := by
  induction ls generalizing l with
  | nil =>
    have hl := (hls l List.mem_cons_self).1
    rw [unlines_cons, unlines_nil, trimEnd_concat rfl,
      splitOn_of_not_mem (feed_not_mem_trimEnd hl), List.mem_singleton] at h
    exact ⟨l, List.mem_cons_self, .inr h⟩
  | cons m ls ih =>
    obtain ⟨hl, hls⟩ := List.forall_mem_cons.mp hls
    have hsome := exists_mem_unlines ls (hls m List.mem_cons_self)
    rw [unlines_cons, List.append_cons, trimEnd_append hsome, ← List.append_cons,
      splitOn_append_feed hl.1] at h
    rcases List.mem_cons.mp h with rfl | h
    · exact ⟨x, List.mem_cons_self, .inl rfl⟩
    · obtain ⟨y, hy, hx⟩ := ih hls h
      exact ⟨y, List.mem_cons_of_mem l hy, hx⟩

/-- Trimming takes no line away and changes none but the first and the last one. -/
theorem mem_tail_splitOn_trim (hls : ∀ y ∈ l :: ls, Filled y)
    (h : x ∈ ((trim (unlines (l :: ls))).splitOn '\n').tail) :
    ∃ y ∈ ls, x = y ∨ x = trimEnd y := by
  obtain ⟨hl, hls⟩ := List.forall_mem_cons.mp hls
  have hstart := feed_not_mem_trimStart hl.1
  rw [trim, unlines_cons, trimStart_append hl.2] at h
  cases ls with
  | nil =>
    rw [unlines_nil, trimEnd_concat rfl, splitOn_of_not_mem (feed_not_mem_trimEnd hstart)] at h
    cases h
  | cons m ls =>
    have hsome := exists_mem_unlines ls (hls m List.mem_cons_self)
    rw [List.append_cons, trimEnd_append hsome, ← List.append_cons,
      splitOn_append_feed hstart] at h
    exact mem_splitOn_trimEnd hls h

end Bodies

/-- An entry as a names file can define it. -/
structure Accepted (e : ServiceEntry) : Prop where
  isWord : IsWord e.name
  trimmed : trim e.description.toList = e.description.toList
  ne_nil : e.description.toList ≠ []
  text_below : ∀ l ∈ (e.description.toList.splitOn '\n').tail, Line.of l = .text l

/-- What follows the equals sign of the head is the first line, unless it is blank. -/
theorem bodyOf_eq (rest : List Char) (below : List (List Char)) :
    bodyOf rest below =
      trim (unlines (if (trim rest).isEmpty then below else trim rest :: below)) := by
  rw [bodyOf]
  split
  · rfl
  · rw [unlines_cons, List.append_assoc]
    rfl

theorem trim_bodyOf (rest : List Char) (below : List (List Char)) :
    trim (bodyOf rest below) = bodyOf rest below := by
  rw [bodyOf, trim_trim]

theorem text_of_below {l : List Char} (h : Line.of l = .text l) {x : List Char}
    (hx : x = l ∨ x = trimEnd l) : Line.of x = .text x := by
  rcases hx with rfl | rfl
  · exact h
  · obtain ⟨t, ht, hblank⟩ := exists_append_trimEnd l
    rw [ht] at h
    exact (Line.of_append_eq_text_iff hblank).mp h

/-- Below its first line, a body has no lines but those of the text. -/
theorem text_below_bodyOf {rest : List Char} {below : List (List Char)} (hrest : '\n' ∉ rest)
    (hbelow : ∀ s ∈ below, '\n' ∉ s ∧ Line.of s = .text s) {x : List Char}
    (hx : x ∈ ((bodyOf rest below).splitOn '\n').tail) : Line.of x = .text x := by
  have hfilled : ∀ s ∈ below, Filled s := fun s hs =>
    ⟨(hbelow s hs).1, exists_of_isBlankLine (Line.of_eq_text (hbelow s hs).2).2.1⟩
  rw [bodyOf_eq] at hx
  split at hx
  · cases below with
    | nil => cases hx
    | cons s below =>
      obtain ⟨y, hy, hxy⟩ := mem_tail_splitOn_trim hfilled hx
      exact text_of_below (hbelow y (List.mem_cons_of_mem s hy)).2 hxy
  · rename_i hempty
    have hfirst : Filled (trim rest) := by
      refine ⟨feed_not_mem_trimEnd (feed_not_mem_trimStart hrest), exists_of_trim_ne_nil ?_⟩
      rw [trim_trim]
      exact fun hnil => hempty (List.isEmpty_iff.mpr hnil)
    obtain ⟨y, hy, hxy⟩ := mem_tail_splitOn_trim (List.forall_mem_cons.mpr ⟨hfirst, hfilled⟩) hx
    exact text_of_below (hbelow y hy).2 hxy

theorem upperChar_of_isName {c : Char} (h : isName c = true) :
    upperChar c = [c.toUpper] ∧ isName c.toUpper = true ∧ c.toUpper.toLower = c.toLower := by
  have hascii : c.toNat < 0x80 := by
    rw [isName_iff] at h
    omega
  have key : ∀ n : Fin 0x80, isName (Char.ofNat n) = true → isName (Char.ofNat n).toUpper = true ∧
      (Char.ofNat n).toUpper.toLower = (Char.ofNat n).toLower := by decide +kernel
  have hc := key ⟨c.toNat, hascii⟩
  rw [Char.ofNat_toNat] at hc
  exact ⟨if_pos hascii, hc h⟩

theorem upper_of_isName {s : List Char} (hs : ∀ c ∈ s, isName c = true) :
    upper s = s.map Char.toUpper := by
  rw [upper, List.map_eq_flatMap]
  exact List.flatMap_congr fun c hc => (upperChar_of_isName (hs c hc)).1

theorem isName_of_mem_upper {s : List Char} (hs : ∀ c ∈ s, isName c = true) :
    ∀ c ∈ upper s, isName c = true := by
  intro c hc
  rw [upper_of_isName hs] at hc
  obtain ⟨d, hd, rfl⟩ := List.mem_map.mp hc
  exact (upperChar_of_isName (hs d hd)).2.1

/-- A name from an alias line is a word in upper case as well. -/
theorem isWord_upperCase (hne : name ≠ []) (hname : ∀ c ∈ name, isName c = true)
    (hword : lower name ≠ lower includeWord) : IsWord (upperCase (String.ofList name)) := by
  have hlower : lower (name.map Char.toUpper) = lower name := by
    rw [lower, lower, List.map_map]
    exact List.map_congr_left fun c hc => (upperChar_of_isName (hname c hc)).2.2
  have htoList : (upperCase (String.ofList name)).toList = name.map Char.toUpper := by
    rw [upperCase, String.toList_ofList, String.toList_ofList, upper_of_isName hname]
  constructor
  · intro h
    rw [← String.toList_eq_nil_iff, htoList] at h
    exact hne (List.map_eq_nil_iff.mp h)
  · rw [htoList, ← upper_of_isName hname]
    exact isName_of_mem_upper hname
  · intro h
    rw [← String.toList_inj, htoList] at h
    rw [← hlower, h] at hword
    exact hword rfl

/-- A definition found in a text is one that a names file can hold. -/
theorem accepted_of_mem_ofText (h : .definition name body ∈ Block.ofText text) (hne : body ≠ [])
    (source : String) :
    Accepted (.define (String.ofList name) (String.ofList body) source) := by
  obtain ⟨rest, below, hhead, rfl, hbelow⟩ := from_of_mem_ofLines h
  obtain ⟨l, hl, hdefinition⟩ := List.mem_map.mp hhead
  obtain ⟨⟨gap, rfl, hname, hchars, -⟩, hword⟩ := Line.of_eq_definition hdefinition
  have hrest : '\n' ∉ rest := fun hfeed => not_mem_of_mem_lines hl (by simp [hfeed])
  have htext : ∀ s ∈ below, '\n' ∉ s ∧ Line.of s = .text s := by
    intro s hs
    obtain ⟨l, hl, hs⟩ := List.mem_map.mp (hbelow s hs)
    obtain rfl := (Line.of_eq_text hs).1
    exact ⟨not_mem_of_mem_lines hl, hs⟩
  have hbody : (ServiceEntry.define (String.ofList name) (String.ofList (bodyOf rest below))
      source).description.toList = bodyOf rest below := String.toList_ofList
  refine ⟨isWord_upperCase hname hchars hword, ?_, ?_, ?_⟩
  · rw [hbody, trim_bodyOf]
  · rwa [hbody]
  · rw [hbody]
    exact fun x hx => text_below_bodyOf hrest htext hx

end NetNames.NamesFile
