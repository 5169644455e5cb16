import NetNames.Proofs.NamesFile.Accepted

/-! A registry is rendered whose names may be any text. A name that an alias line cannot define
makes a line that is text, or none at all, so that its entry is read as more lines of the entry
above. Only the entry just before it is harmed by that. -/
namespace NetNames.NamesFile

open Text

variable {e x : ServiceEntry} {post : List ServiceEntry}

/-- Below a name that is no head, the descriptor at least goes to the entry above. -/
theorem exists_lines_of_not_head (hx : Described x) (hdescriptor : hasDescriptor x = true)
    (h : (Line.of (headLine x)).isHead = false) (ls : List Line) :
    ∃ c ∈ unlines ((linesRead x ++ ls).foldr Pending.add {}).lines, isBlank c = false := by
  have hbody : ∃ c ∈ unlines (bodyLines x), isBlank c = false := by
    obtain ⟨c, hc, hblank⟩ := exists_of_trim_ne_nil (hasDescriptor_iff.mp hdescriptor)
    refine ⟨c, ?_, hblank⟩
    rw [bodyLines, unlines_splitOn]
    simp [hc]
  obtain ⟨c, hc, hblank⟩ := hbody
  refine ⟨c, ?_, hblank⟩
  rw [linesRead, hx.bodyRead_eq, List.cons_append, List.cons_append, List.foldr_cons,
    List.foldr_cons, List.foldr_append, foldr_add_text]
  cases hof : Line.of (headLine x) with
  | definition name rest =>
    rw [hof] at h
    cases h
  | inclusion target =>
    rw [hof] at h
    cases h
  | blank =>
    simp only [Pending.add, unlines_append]
    exact List.mem_append_left _ hc
  | text s =>
    simp only [Pending.add, unlines_cons, unlines_append]
    exact List.mem_append_right _ (List.mem_cons_of_mem _ (List.mem_append_left _ hc))

/-- Lines with something in them are kept below a descriptor. -/
theorem bodyOf_append (he : trim e.description.toList = e.description.toList)
    (hdescriptor : hasDescriptor e = true) {ls : List (List Char)}
    (hls : ∃ c ∈ unlines ls, isBlank c = false) :
    bodyOf [] (bodyLines e ++ ls) = e.description.toList ++ '\n' :: trimEnd (unlines ls) := by
  have hsome := exists_of_trim_ne_nil (hasDescriptor_iff.mp hdescriptor)
  calc bodyOf [] (bodyLines e ++ ls)
      = trim (' ' :: ' ' :: (e.description.toList ++ (['\n'] ++ unlines ls))) := by
        rw [bodyOf_nil, unlines_append, bodyLines, unlines_splitOn]
        simp
    _ = trimEnd (e.description.toList ++ (['\n'] ++ unlines ls)) := by
        rw [trim_indented, trim_indented, trim, trimStart_append hsome, trimStart_eq_self he]
    _ = e.description.toList ++ '\n' :: trimEnd (unlines ls) := by
        rw [← List.append_assoc, trimEnd_append hls, List.append_assoc]
        rfl

/-- What is read of a descriptor is the descriptor and what is left over for it by the entries
below, which is nothing just if the first of them begins with a head. -/
theorem exists_bodyOf_append (he : Described e) (hdescriptor : hasDescriptor e = true)
    (hpost : ∀ x ∈ post, Described x ∧ hasDescriptor x = true) :
    ∃ t, bodyOf [] (bodyLines e ++ ((post.flatMap linesRead).foldr Pending.add {}).lines) =
        e.description.toList ++ t ∧
      (t = [] ↔ ∀ x ∈ post.head?, (Line.of (headLine x)).isHead = true) := by
  cases post with
  | nil => exact ⟨[], by simpa using bodyOf_bodyLines he.trimmed, by simp⟩
  | cons x post =>
    obtain ⟨hx, hxdescriptor⟩ := hpost x List.mem_cons_self
    rw [List.flatMap_cons]
    simp only [List.head?_cons, Option.mem_some_iff, forall_eq']
    cases hhead : (Line.of (headLine x)).isHead with
    | true =>
      refine ⟨[], ?_, by simp⟩
      rw [(headFirst_entry hhead _).lines_eq_nil, List.append_nil, List.append_nil,
        bodyOf_bodyLines he.trimmed]
    | false =>
      have hlines := exists_lines_of_not_head hx hxdescriptor hhead (post.flatMap linesRead)
      exact ⟨_, bodyOf_append he.trimmed hdescriptor hlines, by simp⟩

/-- The name of the entry reads as an alias line of the other name itself. -/
def TakesOver (name : String) (x : ServiceEntry) : Prop :=
  ∃ rest, aliasHead? x.name.toList = some (name.toList, rest)

instance (name : String) (x : ServiceEntry) : Decidable (TakesOver name x) :=
  decidable_of_iff ((aliasHead? x.name.toList).map (·.1) = some name.toList) (by
    rw [Option.map_eq_some_iff, TakesOver]
    constructor
    · rintro ⟨⟨name, rest⟩, h, rfl⟩
      exact ⟨rest, h⟩
    · rintro ⟨rest, h⟩
      exact ⟨_, h, rfl⟩)

/-- The equals sign of a head stands in the name of the entry or is the one written after it. -/
theorem definition_of_headLine {name rest : List Char}
    (htrim : trim x.name.toList = x.name.toList)
    (h : Line.of (headLine x) = .definition name rest) :
    name = x.name.toList ∨ ∃ rest', aliasHead? x.name.toList = some (name, rest') := by
  obtain ⟨⟨gap, heq, hne, hname, hgap⟩, -⟩ := Line.of_eq_definition h
  rw [headLine, ← List.append_assoc] at heq
  rcases List.append_eq_append_iff.mp heq with ⟨q, hq, hrest⟩ | ⟨q, hq, hrest⟩
  · left
    obtain rfl : q = [' '] := by
      cases q with
      | nil => cases hrest
      | cons c q =>
        cases q with
        | nil => rw [(List.cons.inj hrest).1]
        | cons d q => simp at hrest
    have hblank : ∀ c ∈ gap, isBlank c = true := fun c hc => isBlank_of_isSpace (hgap c hc)
    calc name = trim name := (trim_of_full fun c hc => not_isBlank_of_isName (hname c hc)).symm
      _ = trim (name ++ gap) := (trim_append_blank hblank name).symm
      _ = trim x.name.toList := by rw [hq, trim_concat rfl]
      _ = x.name.toList := htrim
  · right
    cases q with
    | nil => cases hrest
    | cons c q =>
      obtain ⟨rfl, -⟩ := List.cons.inj hrest
      exact ⟨q, aliasHead?_eq_some_iff.mpr ⟨gap, by rw [hq, List.append_assoc], hne, hname, hgap⟩⟩

/-- A line of an entry that begins a definition is the one with its name. -/
theorem of_mem_linesRead (hx : Described x) {l : Line} (hl : l ∈ linesRead x)
    (hhead : l.isHead = true) : l = Line.of (headLine x) := by
  rw [linesRead, hx.bodyRead_eq] at hl
  rcases List.mem_cons.mp hl with rfl | hl
  · cases hhead
  rcases List.mem_cons.mp hl with rfl | hl
  · rfl
  · obtain ⟨s, -, rfl⟩ := List.mem_map.mp hl
    cases hhead

/-- A name in upper case is defined by a head as it stands there. -/
theorem upperCase_of_headLine {name rest : List Char} (hupper : upperCase x.name = x.name)
    (htrim : trim x.name.toList = x.name.toList)
    (h : Line.of (headLine x) = .definition name rest) :
    upperCase (String.ofList name) = String.ofList name := by
  have hmem : ∀ c ∈ name, c ∈ x.name.toList := by
    rcases definition_of_headLine htrim h with rfl | ⟨rest', halias⟩
    · exact fun c hc => hc
    · obtain ⟨gap, heq, -⟩ := aliasHead?_eq_some_iff.mp halias
      exact fun c hc => heq ▸ List.mem_append_left _ hc
  rw [upperCase, String.toList_ofList, upper_eq_self fun c hc => ?_]
  have hc := hmem c hc
  rw [← hupper, upperCase, String.toList_ofList] at hc
  exact upperChar_of_mem_upper hc

/-- The entries below define no other name than their own, unless one takes it over. -/
theorem name_ne_of_mem_definitions {name source : String}
    {included : List Char → List ServiceEntry} (hdescribed : ∀ x ∈ post, Described x)
    (hupper : ∀ x ∈ post, upperCase x.name = x.name)
    (htrim : ∀ x ∈ post, trim x.name.toList = x.name.toList)
    (hother : ∀ x ∈ post, x.name ≠ name) (htaken : ∀ x ∈ post, ¬ TakesOver name x)
    (hincluded : ∀ x ∈ post, StartsInclusion (headLine x) → ∀ target, included target = []) :
    ∀ d ∈ ((post.flatMap linesRead).foldr Pending.add {}).blocks.flatMap
      (Block.definitions source included), upperCase d.name ≠ name := by
  intro d hd
  obtain ⟨b, hb, hd⟩ := List.mem_flatMap.mp hd
  have hfrom := (from_of_foldr _).2 b hb
  cases b with
  | stray s => cases hd
  | inclusion target =>
    obtain ⟨x, hx, hl⟩ := List.mem_flatMap.mp hfrom
    have hof := of_mem_linesRead (hdescribed x hx) hl rfl
    rw [Block.definitions, hincluded x hx (Line.of_eq_inclusion hof.symm)] at hd
    cases hd
  | definition word body =>
    obtain ⟨rest, -, hl, -⟩ := hfrom
    obtain ⟨x, hx, hl⟩ := List.mem_flatMap.mp hl
    have hof := (of_mem_linesRead (hdescribed x hx) hl rfl).symm
    have hsettled := upperCase_of_headLine (hupper x hx) (htrim x hx) hof
    have hname : d.name = String.ofList word := by
      rw [Block.definitions] at hd
      split at hd
      · cases hd
      · rw [List.mem_singleton.mp hd]
        exact hsettled
    rw [hname, hsettled]
    rintro rfl
    rcases definition_of_headLine (htrim x hx) hof with rfl | ⟨rest', hword⟩
    · exact hother x hx String.ofList_toList.symm
    · exact htaken x hx ⟨rest', by rw [String.toList_ofList, hword]⟩

/-- The lines of an entry with a word for a name make a block with what is left over below it. -/
theorem ofText_render_of_written {r : Registry} {stamp : String} {pre : List ServiceEntry}
    (hstamp : '\n' ∉ stamp.toList) (hfeed : ∀ x ∈ r.toList, '\n' ∉ x.name.toList)
    (hwritten : r.toList.filter hasDescriptor = pre ++ e :: post) (hword : IsWord e.name)
    (hupper : upperCase e.name = e.name) (he : Described e) :
    let p := (post.flatMap linesRead).foldr Pending.add {}
    Block.ofText (render stamp r).toList = Block.ofLines (pre.flatMap linesRead) ++
      .definition e.name.toList (bodyOf [] (bodyLines e ++ p.lines)) :: p.blocks := by
  have hfeed' : ∀ x ∈ r.toList.filter hasDescriptor, '\n' ∉ x.name.toList :=
    fun x hx => hfeed x (List.mem_of_mem_filter hx)
  rw [ofText_render hstamp hfeed', hwritten, List.flatMap_append, List.flatMap_cons,
    ofLines_append_entry _ _ (hword.isHead_headLine hupper), linesRead, hword.of_headLine hupper,
    he.bodyRead_eq, List.cons_append, List.cons_append, ofLines_definition]

/-- A definition is found if no later one has its name. -/
theorem get?_ofList_definition {name source : String} {body : List Char}
    {included : List Char → List ServiceEntry} (before : List Block) {after : List Block}
    (hupper : upperCase name = name) (hne : body ≠ [])
    (hafter : ∀ d ∈ after.flatMap (Block.definitions source included), upperCase d.name ≠ name) :
    (Registry.ofList ((before ++ .definition name.toList body :: after).flatMap
      (Block.definitions source included))).get? name =
        some (.define name (String.ofList body) source) := by
  have hname : upperCase (ServiceEntry.define name (String.ofList body) source).name = name := by
    rw [ServiceEntry.define, hupper, hupper]
  rw [List.flatMap_append, List.flatMap_cons, Block.definitions, if_neg (by simpa using hne),
    ← List.append_assoc, Registry.get?_ofList_append hafter, Registry.ofList_concat,
    Registry.get?_insert, String.ofList_toList, hname, if_pos rfl, ServiceEntry.define, hupper]

/-- An entry whose name is a word is read back as it was just if the entry written after it begins
with a head, where no later entry defines its name again. -/
theorem read_back_iff_next_head {r : Registry} {stamp : String} (hr : r.Canonical)
    (hstamp : '\n' ∉ stamp.toList)
    (hdescribed : ∀ x ∈ r.toList, hasDescriptor x = true → Described x)
    (hnames : ∀ x ∈ r.toList, '\n' ∉ x.name.toList ∧ trim x.name.toList = x.name.toList)
    {pre : List ServiceEntry} (hwritten : r.toList.filter hasDescriptor = pre ++ e :: post)
    (hword : IsWord e.name) (htaken : ∀ x ∈ post, ¬ TakesOver e.name x) (recursive : Bool)
    (hincluded : recursive = true → ∀ x ∈ post, ¬ StartsInclusion (headLine x)) (v : FileView)
    (source folder : String) :
    let again := (loadText v (render stamp r) source folder recursive).value
    (again.get? e.name).map (·.description) = some e.description ↔
      ∀ x ∈ post.head?, StartsDefinition (headLine x) ∨ StartsInclusion (headLine x) := by
  have hmem : ∀ x ∈ e :: post, x ∈ r.toList ∧ hasDescriptor x = true := by
    intro x hx
    refine List.mem_filter.mp ?_
    rw [hwritten]
    exact List.mem_append_right pre hx
  have hwell : ∀ x ∈ e :: post, Described x ∧ hasDescriptor x = true := fun x hx =>
    ⟨hdescribed x (hmem x hx).1 (hmem x hx).2, (hmem x hx).2⟩
  have hupper : ∀ x ∈ e :: post, upperCase x.name = x.name := fun x hx =>
    (hr x.name x (hr.mem_toList_iff.mp (hmem x hx).1)).2
  obtain ⟨⟨he, hdescriptor⟩, hpost⟩ := List.forall_mem_cons.mp hwell
  obtain ⟨heupper, hpostupper⟩ := List.forall_mem_cons.mp hupper
  have hother : ∀ x ∈ post, x.name ≠ e.name := by
    have hascending := hr.names_ascending hasDescriptor
    rw [hwritten, List.map_append, List.map_cons] at hascending
    have hlater := (List.pairwise_cons.mp (List.pairwise_append.mp hascending).2.1).1
    exact fun x hx => Ne.symm (String.ne_of_lt (hlater _ (List.mem_map_of_mem hx)))
  have hempty : ∀ x ∈ post, StartsInclusion (headLine x) →
      ∀ target, includedInText v recursive folder target = [] := by
    intro x hx hi target
    cases recursive with
    | false => rfl
    | true => exact absurd hi (hincluded rfl x hx)
  have htrim : ∀ x ∈ post, trim x.name.toList = x.name.toList := fun x hx =>
    (hnames x (hmem x (List.mem_cons_of_mem e hx)).1).2
  have hlater : ∀ d ∈ ((post.flatMap linesRead).foldr Pending.add {}).blocks.flatMap
      (Block.definitions source (includedInText v recursive folder)),
        upperCase d.name ≠ e.name :=
    name_ne_of_mem_definitions (fun x hx => (hpost x hx).1) hpostupper htrim hother htaken hempty
  obtain ⟨t, hbody, ht⟩ := exists_bodyOf_append he hdescriptor hpost
  have hne : e.description.toList ++ t ≠ [] := by
    obtain ⟨c, hc, -⟩ := exists_of_trim_ne_nil (hasDescriptor_iff.mp hdescriptor)
    exact List.ne_nil_of_mem (List.mem_append_left t hc)
  intro again
  have hfound : again.get? e.name =
      some (.define e.name (String.ofList (e.description.toList ++ t)) source) := by
    change (loadText v (render stamp r) source folder recursive).value.get? e.name = _
    rw [value_loadText, ofText_render_of_written hstamp (fun x hx => (hnames x hx).1) hwritten
      hword heupper he, hbody, get?_ofList_definition _ heupper hne hlater]
  rw [hfound, Option.map_some, Option.some.injEq, ← String.toList_inj, ServiceEntry.define,
    String.toList_ofList, List.append_right_eq_self, ht]
  simp only [Line.isHead_iff]

private def pier : ServiceEntry := .define "PIER" "(HOST = p)" "cn=PIER"
private def quay : ServiceEntry := .define "QUAY" "(HOST = q)" "cn=QUAY"
private def annex : ServiceEntry := .define "QUAY-2" "(HOST = r)" "cn=QUAY-2"

/-- Of two entries with words for names, the one above a name with a hyphen is harmed. -/
theorem quay_harmed_by_annex :
    let r := Registry.ofList [annex, pier, quay]
    let again := (loadText (FileTree.view ⟨[], []⟩) (render "2024" r) "again" "." false).value
    r.Canonical ∧ '\n' ∉ "2024".toList ∧
    (∀ x ∈ r.toList, hasDescriptor x = true → Described x) ∧
    (∀ x ∈ r.toList, '\n' ∉ x.name.toList ∧ trim x.name.toList = x.name.toList) ∧
    r.toList.filter hasDescriptor = [pier, quay, annex] ∧
    (again.get? "PIER").map (·.description) = some "(HOST = p)" ∧
    (again.get? "QUAY").map (·.description) ≠ some "(HOST = q)" := by
  intro r again
  have hr : r.Canonical := Registry.canonical_ofList _
  have hstamp : '\n' ∉ "2024".toList := by decide
  have hdescribed : ∀ x ∈ r.toList, hasDescriptor x = true → Described x := by decide +kernel
  have hnames : ∀ x ∈ r.toList, '\n' ∉ x.name.toList ∧ trim x.name.toList = x.name.toList := by
    decide +kernel
  have hwritten : r.toList.filter hasDescriptor = [] ++ pier :: [quay, annex] := by decide +kernel
  have hpier := read_back_iff_next_head hr hstamp hdescribed hnames hwritten (by decide +kernel)
    (by decide +kernel) false nofun (FileTree.view ⟨[], []⟩) "again" "."
  have hnext : r.toList.filter hasDescriptor = [pier] ++ quay :: [annex] := hwritten
  have hquay := read_back_iff_next_head hr hstamp hdescribed hnames hnext (by decide +kernel)
    (by decide +kernel) false nofun (FileTree.view ⟨[], []⟩) "again" "."
  refine ⟨hr, hstamp, hdescribed, hnames, hwritten, hpier.mpr ?_, fun h => ?_⟩
  · decide +kernel
  · exact absurd (hquay.mp h) (by decide +kernel)

/-- The entry of a name with a hyphen becomes part of the descriptor above. -/
theorem not_forall_read_back : ¬ ∀ (r : Registry) (stamp : String) (v : FileView)
    (source folder : String), r.Canonical → '\n' ∉ stamp.toList →
    (∀ x ∈ r.toList, hasDescriptor x = true → Described x) →
    (∀ x ∈ r.toList, x.name ≠ "" ∧ '\n' ∉ x.name.toList ∧ trim x.name.toList = x.name.toList) →
    ∀ e ∈ r.toList, hasDescriptor e = true → IsWord e.name →
      ((loadText v (render stamp r) source folder false).value.get? e.name).map (·.description) =
        some e.description := by
  intro h
  have hfound := h (.ofList [annex, quay]) "2024" (FileTree.view ⟨[], []⟩) "again" "."
    (Registry.canonical_ofList _) (by decide) (by decide +kernel) (by decide +kernel) quay
    (by decide +kernel) (by decide +kernel) (by decide +kernel)
  exact absurd hfound (by decide +kernel)

end NetNames.NamesFile
