import NetNames.DefaultDomain
import NetNames.Proofs.Text.Lines
import NetNames.Proofs.Text.Matching
import NetNames.Proofs.Text.Utf8

/-! What a profile assigns as the default domain: the first line with a value that begins like a
domain counts, and of that value the part up to the first character that no alias may have. -/
namespace NetNames.DefaultDomain

open Text

variable {s line value domain : List Char}

/-- The line assigns this value to the default domain. -/
inductive Assigns (value : List Char) : List Char → Prop
  | mk {indent word gap gap' : List Char} (hindent : ∀ c ∈ indent, isSpace c = true)
      (hword : lower word = lower domainWord) (hgap : ∀ c ∈ gap, isSpace c = true)
      (hgap' : ∀ c ∈ gap', isSpace c = true) :
      Assigns value (indent ++ word ++ gap ++ '=' :: gap' ++ value)

/-- The first line of the text that assigns the default domain, comments left out, assigns this
value, with blanks behind it. -/
inductive FirstAssigned (value s : List Char) : Prop
  | mk {before after : List (List Char)} {line blanks : List Char}
      (hlines : lines s = before ++ line :: after)
      (hbefore : ∀ l ∈ before, isComment l = false → ∀ w, ¬ Assigns w l)
      (hline : Assigns (value ++ blanks) line) (hblanks : ∀ c ∈ blanks, isBlank c = true)

/-- A label of letters, digits, underscores and hyphens. -/
def IsLabel (l : List Char) : Prop := l ≠ [] ∧ l.all (fun c => isWord c || c == '-') = true

/-- Labels with dots between them. -/
inductive IsDomain : List Char → Prop
  | label {l : List Char} (hl : IsLabel l) : IsDomain l
  | dot {l v : List Char} (hl : IsLabel l) (hv : IsDomain v) : IsDomain (l ++ '.' :: v)

/-- The profile can be read and holds this text. -/
def Holds (t : FileTree) (profile : String) (s : List Char) : Prop :=
  ∃ bytes, t.read profile = .ok bytes ∧ decodeLossy bytes = s

theorem value_read {t : FileTree} {profile : String} (h : Holds t profile s) :
    (read t profile).value = .ok ((ofText s).map String.ofList) := by
  obtain ⟨bytes, hread, rfl⟩ := h
  rw [read, hread]
  rfl

/-- An assignment ends with its value, in place of which it could have any other. -/
theorem Assigns.exists_append (h : Assigns value line) :
    ∃ start, line = start ++ value ∧ ∀ w, Assigns w (start ++ w) := by
  obtain ⟨hindent, hword, hgap, hgap'⟩ := h
  refine ⟨_, rfl, fun w => ?_⟩
  exact .mk hindent hword hgap hgap'

/-- An assignment begins with a letter, after spaces. -/
theorem Assigns.exists_cons (h : Assigns value line) : ∃ indent c rest,
    line = indent ++ c :: rest ∧ (∀ c ∈ indent, isSpace c = true) ∧ isName c = true := by
  obtain ⟨hindent, hword, hgap, hgap'⟩ := h
  rename_i indent word gap gap'
  cases word with
  | nil => cases hword
  | cons c word =>
    refine ⟨indent, c, word ++ gap ++ '=' :: gap' ++ value, by simp, hindent, ?_⟩
    exact isName_of_lower_eq (by decide) hword c List.mem_cons_self

theorem Assigns.isComment_eq_false (h : Assigns value line) : isComment line = false := by
  obtain ⟨indent, c, rest, rfl, hindent, hc⟩ := h.exists_cons
  have htrim : trimStart (indent ++ c :: rest) = c :: rest := by
    rw [trimStart_append_cons _ _ (not_isBlank_of_isName hc),
      trimStart_of_blank fun c hc => isBlank_of_isSpace (hindent c hc), List.nil_append]
  have hne : c ≠ '#' := by
    rintro rfl
    cases hc
  rw [isComment, htrim]
  simpa using hne

theorem assigned?_of_assigns {rest : List Char} (h : Assigns (domain ++ rest) line)
    (hne : domain ≠ []) (hname : ∀ c ∈ domain, isName c = true)
    (hrest : ∀ c ∈ rest.head?, isName c = false) : assigned? line = some domain := by
  obtain ⟨hindent, hlower, hgap, hgap'⟩ := h
  have hword := afterWord_skipSpaces hindent (by decide) (by decide) hlower
  obtain ⟨-, hassign, hrun⟩ := Descriptor.assignment_append hlower hgap hgap' hne hname
    (fun c hc => not_isSpace_of_isName (hname c hc)) hrest
  simp only [List.append_assoc, List.cons_append, assigned?, Option.bind_eq_bind,
    Option.bind_some, hword, hassign, hrun]

/-- A line assigns the domain that its value begins with. -/
theorem assigned?_eq_some_iff : assigned? line = some domain ↔
    ∃ rest, Assigns (domain ++ rest) line ∧ domain ≠ [] ∧ (∀ c ∈ domain, isName c = true) ∧
      ∀ c ∈ rest.head?, isName c = false := by
  constructor
  · intro h
    obtain ⟨r₁, hword, h⟩ := Option.bind_eq_some_iff.mp h
    obtain ⟨r₂, hspaced, h⟩ := Option.bind_eq_some_iff.mp h
    obtain ⟨⟨run, rest⟩, hrun, h⟩ := Option.bind_eq_some_iff.mp h
    cases h
    obtain ⟨indent, hline, hindent⟩ := exists_append_skipSpaces line
    obtain ⟨word, hword, hlower⟩ := afterWord_eq_some_iff.mp hword
    obtain ⟨gap, r₃, rfl, hgap, rfl⟩ := (afterSpaced_eq_some_iff (by decide)).mp hspaced
    obtain ⟨gap', hvalue, hgap'⟩ := exists_append_skipSpaces r₃
    obtain ⟨hsplit, hne, hname, hrest⟩ := Descriptor.takeRun_eq_some_iff.mp hrun
    refine ⟨rest, ?_, hne, hname, hrest⟩
    have hassigns : Assigns (domain ++ rest) _ := .mk hindent hlower hgap hgap'
    rw [hline, hword, hvalue, hsplit]
    simpa using hassigns
  · rintro ⟨rest, hassigns, hne, hname, hrest⟩
    exact assigned?_of_assigns hassigns hne hname hrest

theorem assigned?_eq_none (h : isComment line = false → ∀ w, ¬ Assigns w line) :
    assigned? line = none := by
  rw [Option.eq_none_iff_forall_ne_some]
  intro domain hsome
  obtain ⟨rest, hassigns, -⟩ := assigned?_eq_some_iff.mp hsome
  exact h hassigns.isComment_eq_false _ hassigns

/-- Comments assign nothing, so that they need not be left out. -/
theorem ofText_eq_findSome? (s : List Char) : ofText s = (lines s).findSome? assigned? := by
  rw [ofText]
  induction lines s with
  | nil => rfl
  | cons line ls ih =>
    rw [List.filter_cons]
    split
    · rw [List.findSome?_cons, List.findSome?_cons, ih]
    · rename_i hcomment
      have hnone : assigned? line = none := assigned?_eq_none fun hfalse =>
        absurd (by rw [hfalse]; rfl) hcomment
      rw [List.findSome?_cons, hnone, ih]

/-- A space at the end of a line changes nothing. -/
theorem assigned?_concat {c : Char} (hc : isSpace c = true) (line : List Char) :
    assigned? (line ++ [c]) = assigned? line := by
  have hnot : isName c = false := not_isName_of_isSpace hc
  apply Option.ext
  intro domain
  rw [assigned?_eq_some_iff, assigned?_eq_some_iff]
  constructor
  · rintro ⟨rest, hassigns, hne, hname, hrest⟩
    obtain ⟨start, hline, hstart⟩ := hassigns.exists_append
    -- The space is the end of the rest: a domain does not end with one.
    rcases List.eq_nil_or_concat' rest with rfl | ⟨rest, d, rfl⟩
    · obtain ⟨domain, d, rfl⟩ := (List.eq_nil_or_concat' domain).resolve_left hne
      rw [List.append_nil, ← List.append_assoc] at hline
      obtain ⟨-, hd⟩ := List.append_inj' hline rfl
      cases hd
      rw [hname c (by simp)] at hnot
      cases hnot
    · rw [← List.append_assoc, ← List.append_assoc] at hline
      obtain ⟨rfl, -⟩ := List.append_inj' hline rfl
      refine ⟨rest, ?_, hne, hname, fun x hx => hrest x ?_⟩
      · rw [List.append_assoc]
        exact hstart _
      · exact List.mem_head?_append_of_mem_head? hx
  · rintro ⟨rest, hassigns, hne, hname, hrest⟩
    obtain ⟨start, rfl, hstart⟩ := hassigns.exists_append
    refine ⟨rest ++ [c], ?_, hne, hname, ?_⟩
    · rw [List.append_assoc, List.append_assoc]
      exact hstart _
    · cases rest with
      | nil =>
        rintro x ⟨⟩
        exact hnot
      | cons d rest => exact hrest

theorem assigned?_withoutReturn (l : List Char) : assigned? (withoutReturn l) = assigned? l := by
  rcases eq_withoutReturn_or l with h | h
  · rw [← h]
  · rw [h, withoutReturn_append_return, assigned?_concat (by decide)]

/-- A profile that goes on after a line feed is read like its parts, one after the other. -/
theorem ofText_append (a b : List Char) :
    ofText (a ++ '\n' :: b) = (ofText a).or (ofText b) := by
  obtain ⟨ls, l, rfl, hls, hl⟩ := exists_unlines_append a
  have hlast : (lines l).findSome? assigned? = assigned? (withoutReturn l) := by
    rw [assigned?_withoutReturn]
    by_cases hne : l = []
    · subst hne
      decide
    · rw [lines_of_not_mem hl hne, List.findSome?_singleton]
  have hcons : (withoutReturn l :: lines b).findSome? assigned? =
      (assigned? (withoutReturn l)).or ((lines b).findSome? assigned?) := by
    rw [← List.singleton_append, List.findSome?_append, List.findSome?_singleton]
  rw [ofText_eq_findSome?, ofText_eq_findSome?, ofText_eq_findSome?, List.append_assoc,
    lines_unlines_append hls, lines_unlines_append hls, lines_append_feed hl,
    List.findSome?_append, List.findSome?_append, hcons, hlast, Option.or_assoc]

theorem ofText_eq_none (h : ∀ l ∈ lines s, isComment l = false → ∀ w, ¬ Assigns w l) :
    ofText s = none := by
  rw [ofText_eq_findSome?, List.findSome?_eq_none_iff]
  exact fun l hl => assigned?_eq_none (h l hl)

/-- Whatever is read is made of the characters of an alias. -/
theorem isName_of_ofText (h : ofText s = some domain) : ∀ c ∈ domain, isName c = true := by
  rw [ofText_eq_findSome?] at h
  obtain ⟨-, line, -, -, hline, -⟩ := List.findSome?_eq_some_iff.mp h
  obtain ⟨-, -, -, hname, -⟩ := assigned?_eq_some_iff.mp hline
  exact hname

/-- The first assignment counts if its value begins like an alias. -/
theorem ofText_of_firstAssigned {rest : List Char} (h : FirstAssigned (domain ++ rest) s)
    (hne : domain ≠ []) (hname : ∀ c ∈ domain, isName c = true)
    (hrest : ∀ c ∈ rest.head?, isName c = false) : ofText s = some domain := by
  obtain ⟨hlines, hbefore, hline, hblanks⟩ := h
  rename_i before after line blanks
  have hnone : before.findSome? assigned? = none :=
    List.findSome?_eq_none_iff.mpr fun l hl => assigned?_eq_none (hbefore l hl)
  have hsome : assigned? line = some domain := by
    rw [List.append_assoc] at hline
    refine assigned?_of_assigns hline hne hname ?_
    cases rest with
    | nil => exact fun c hc => not_isName_of_isBlank (hblanks c (List.mem_of_mem_head? hc))
    | cons d rest => exact hrest
  rw [ofText_eq_findSome?, hlines, List.findSome?_append, hnone, Option.none_or,
    List.findSome?_cons, hsome]

theorem IsDomain.ne_nil (h : IsDomain value) : value ≠ [] := by
  cases h with
  | label hl => exact hl.1
  | dot hl _ => simp

/-- The hyphen is the only character of a domain that an alias may not have. -/
theorem IsDomain.isName_or (h : IsDomain value) : ∀ c ∈ value, isName c = true ∨ c = '-' := by
  have hlabel {l : List Char} (hl : IsLabel l) : ∀ c ∈ l, isName c = true ∨ c = '-' :=
    fun c hc => (Bool.or_eq_true _ _ ▸ List.all_eq_true.mp hl.2 c hc).imp
      (fun hword => by rw [isName, hword, Bool.true_or]) beq_iff_eq.mp
  induction h with
  | label hl => exact hlabel hl
  | dot hl _ ih =>
    intro c hc
    rcases List.mem_append.mp hc with hc | hc
    · exact hlabel hl c hc
    · rcases List.mem_cons.mp hc with rfl | hc
      · exact .inl rfl
      · exact ih c hc

/-- Of a domain that does not begin with a hyphen, the part before its first hyphen is read. -/
theorem ofText_of_isDomain (h : FirstAssigned value s) (hdomain : IsDomain value)
    (hhead : value.head? ≠ some '-') : ofText s = some (value.takeWhile (· != '-')) := by
  have hsplit := List.takeWhile_append_dropWhile (p := (· != '-')) (l := value)
  rw [← hsplit] at h
  refine ofText_of_firstAssigned h ?_ (fun c hc => ?_) (fun c hc => ?_)
  · have hne := hdomain.ne_nil
    cases value with
    | nil => exact absurd rfl hne
    | cons d value =>
      have hd : (d != '-') = true := bne_iff_ne.mpr fun hd => hhead (congrArg some hd)
      rw [List.takeWhile_cons_of_pos (p := (· != '-')) hd]
      exact List.cons_ne_nil _ _
  · have hhyphen : c ≠ '-' := bne_iff_ne.mp (List.mem_takeWhile_imp (p := (· != '-')) hc)
    exact (hdomain.isName_or c (List.takeWhile_subset _ hc)).resolve_right hhyphen
  · have hdrop := List.head?_dropWhile_not (· != '-') value
    rw [Option.mem_def.mp hc] at hdrop
    rw [show c = '-' by simpa using hdrop]
    rfl

/-- The domain that a profile assigns first is read up to its first hyphen, so that it is read whole
just if it has none. A profile that assigns no domain has none, and of two profiles joined into one
the first that has a domain counts. -/
theorem read_assigned {t : FileTree} {profile : String} {s : List Char} (h : Holds t profile s) :
    (∀ v, FirstAssigned v s → IsDomain v →
      ((read t profile).value = .ok (some (String.ofList v)) ↔ '-' ∉ v) ∧
      (v.head? ≠ some '-' →
        (read t profile).value = .ok (some (String.ofList (v.takeWhile (· != '-')))))) ∧
    ((∀ line ∈ lines s, isComment line = false → ∀ w, ¬ Assigns w line) →
      (read t profile).value = .ok none) ∧
    ∀ a b t₁ t₂ profile₁ profile₂, s = a ++ '\n' :: b →
      Holds t₁ profile₁ a → Holds t₂ profile₂ b → ∃ d₁ d₂,
        (read t₁ profile₁).value = .ok d₁ ∧ (read t₂ profile₂).value = .ok d₂ ∧
        (read t profile).value = .ok (d₁.or d₂) := by
  rw [value_read h]
  refine ⟨fun v hv hdomain => ⟨⟨fun hread hyphen => ?_, fun hnot => ?_⟩, fun hhead => ?_⟩,
    fun hnone => ?_, ?_⟩
  · obtain ⟨d, hd, hdv⟩ := Option.map_eq_some_iff.mp (Except.ok.inj hread)
    have hname := isName_of_ofText hd '-' (String.ofList_inj.mp hdv ▸ hyphen)
    cases hname
  · have hwhole : v.takeWhile (· != '-') = v := List.takeWhile_eq_self_iff.mpr fun c hc =>
      bne_iff_ne.mpr fun heq => hnot (heq ▸ hc)
    rw [ofText_of_isDomain hv hdomain fun hhead => hnot (List.mem_of_mem_head? hhead), hwhole]
    rfl
  · rw [ofText_of_isDomain hv hdomain hhead]
    rfl
  · rw [ofText_eq_none hnone]
    rfl
  · rintro a b t₁ t₂ profile₁ profile₂ rfl h₁ h₂
    refine ⟨_, _, value_read h₁, value_read h₂, ?_⟩
    rw [ofText_append, Option.map_or]

/-- A folder with nothing but a profile of this text. -/
private def profileOf (s : List Char) : FileTree :=
  ⟨["w"], [(["w", "sqlnet.ora"], .file (encode s))]⟩

private theorem holds_profileOf (s : List Char) : Holds (profileOf s) "sqlnet.ora" s := by
  refine ⟨encode s, ?_, decodeLossy_encode s⟩
  have hlocate : (profileOf s).locate "sqlnet.ora" = .ok ["w", "sqlnet.ora"] := rfl
  rw [FileTree.read, hlocate]
  rfl

/-- A comment, and an assignment in its own case with spaces around each of its parts. -/
theorem quay_domain_read :
    let comment := "# NAMES.DEFAULT_DOMAIN = old".toList
    let assignment := " names.Default_Domain = quay.harbour_1 \t".toList
    (read (profileOf assignment) "sqlnet.ora").value = .ok (some "quay.harbour_1") ∧
    (read (profileOf comment) "sqlnet.ora").value = .ok none ∧
    (read (profileOf (comment ++ '\n' :: assignment)) "sqlnet.ora").value =
      .ok (some "quay.harbour_1") := by
  intro comment assignment
  have hlines : lines assignment = [] ++ assignment :: [] := by decide +kernel
  have hline : Assigns ("quay".toList ++ '.' :: "harbour_1".toList ++ [' ', '\t']) assignment := by
    have hparts : assignment = [' '] ++ "names.Default_Domain".toList ++ [' '] ++ '=' :: [' '] ++
        ("quay".toList ++ '.' :: "harbour_1".toList ++ [' ', '\t']) := by decide +kernel
    rw [hparts]
    exact .mk (List.all_eq_true.mp rfl) (by decide +kernel) (List.all_eq_true.mp rfl)
      (List.all_eq_true.mp rfl)
  have hdomain : IsDomain ("quay".toList ++ '.' :: "harbour_1".toList) :=
    .dot ⟨by decide, by decide⟩ (.label ⟨by decide, by decide⟩)
  have hcomment : ∀ line ∈ lines comment, isComment line = true := by decide +kernel
  have hassigned := ((read_assigned (holds_profileOf assignment)).1 _
    (.mk hlines nofun hline (List.all_eq_true.mp rfl)) hdomain).1.mpr (by simp)
  have hnone := (read_assigned (holds_profileOf comment)).2.1 fun line hmem hfalse =>
    absurd (hcomment line hmem) (Bool.eq_false_iff.mp hfalse)
  obtain ⟨d₁, d₂, h₁, h₂, hboth⟩ := (read_assigned
    (holds_profileOf (comment ++ '\n' :: assignment))).2.2 _ _ _ _ _ _ rfl
      (holds_profileOf comment) (holds_profileOf assignment)
  cases Except.ok.inj (h₁.symm.trans hnone)
  cases Except.ok.inj (h₂.symm.trans hassigned)
  exact ⟨hassigned, hnone, hboth⟩

/-- A domain with a hyphen is cut short there. -/
theorem not_forall_domain_read_whole : ¬ ∀ (t : FileTree) (profile : String) (s v : List Char),
    Holds t profile s → FirstAssigned v s → IsDomain v →
      (read t profile).value = .ok (some (String.ofList v)) := by
  intro h
  have hlines : lines "NAMES.DEFAULT_DOMAIN = my-corp.example\n".toList =
      [] ++ "NAMES.DEFAULT_DOMAIN = my-corp.example".toList :: [] := by decide +kernel
  have hline : Assigns ("my-corp".toList ++ '.' :: "example".toList ++ [])
      "NAMES.DEFAULT_DOMAIN = my-corp.example".toList := by
    have hparts : "NAMES.DEFAULT_DOMAIN = my-corp.example".toList = [] ++ domainWord ++ [' '] ++
        '=' :: [' '] ++ ("my-corp".toList ++ '.' :: "example".toList ++ []) := by decide +kernel
    rw [hparts]
    exact .mk nofun rfl (List.all_eq_true.mp rfl) (List.all_eq_true.mp rfl)
  have hread := h _ _ _ _ (holds_profileOf "NAMES.DEFAULT_DOMAIN = my-corp.example\n".toList)
    (.mk hlines nofun hline nofun)
    (.dot ⟨by decide, by decide⟩ (.label ⟨by decide, by decide⟩))
  exact absurd hread (by decide +kernel)

end NetNames.DefaultDomain
