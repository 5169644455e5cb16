import NetNames.Proofs.Text.Matching

/-! What is mined from a descriptor. The clauses of addresses are found from left to right, and the
text between them neither hides one nor brings one in; the service is the value of the first service
keyword. -/
namespace NetNames.Descriptor

open Text

variable {s t gap host digits value : List Char} {c : Char}

/-- A clause in parentheses, with its keyword in some case and with spaces wherever they may
stand. -/
inductive IsClause (word value : List Char) : List Char → Prop
  | mk {w s₁ s₂ s₃ s₄ : List Char} (hw : lower w = lower word) (h₁ : ∀ c ∈ s₁, isSpace c = true)
      (h₂ : ∀ c ∈ s₂, isSpace c = true) (h₃ : ∀ c ∈ s₃, isSpace c = true)
      (h₄ : ∀ c ∈ s₄, isSpace c = true) :
      IsClause word value ('(' :: s₁ ++ w ++ s₂ ++ '=' :: s₃ ++ value ++ s₄ ++ [')'])

/-- The text mentions these hosts, each with the digits of its endpoint, and what stands before,
between and after their clauses does not contain the host keyword in any case. -/
inductive Mentions : List (List Char × List Char) → List Char → Prop
  | filler {s : List Char} (hs : ¬ lower hostWord <:+: lower s) : Mentions [] s
  | clauses {s a gap b t host digits : List Char} {found : List (List Char × List Char)}
      (hs : ¬ lower hostWord <:+: lower s) (ha : IsClause hostWord host a)
      (hhost : host ≠ []) (hname : ∀ c ∈ host, isName c = true)
      (hgap : ∀ c ∈ gap, isSpace c = true) (hb : IsClause numberWord digits b)
      (hdigits : digits ≠ []) (hdigit : ∀ c ∈ digits, isDigit c = true) (ht : Mentions found t) :
      Mentions ((host, digits) :: found) (s ++ a ++ gap ++ b ++ t)

/-- The first service keyword of the text, in some case, is assigned this value. -/
inductive Names (value : List Char) : List Char → Prop
  | mk {before w s₁ s₂ rest : List Char} (hw : lower w = lower serviceWord)
      (h₁ : ∀ c ∈ s₁, isSpace c = true) (h₂ : ∀ c ∈ s₂, isSpace c = true)
      (hvalue : value ≠ []) (hname : ∀ c ∈ value, isName c = true)
      (hrest : ∀ c ∈ rest.head?, isName c = false)
      (hfirst : ∀ i < before.length, ¬ lower serviceWord <+:
        lower ((before ++ w ++ s₁ ++ '=' :: s₂ ++ value ++ rest).drop i)) :
      Names value (before ++ w ++ s₁ ++ '=' :: s₂ ++ value ++ rest)

theorem isName_of_isDigit (h : isDigit c = true) : isName c = true := by
  simp [isName, isWord, h]

theorem not_isDigit_of_not_isName (h : isName c = false) : isDigit c = false := by
  by_contra hc
  rw [isName_of_isDigit (Bool.not_eq_false _ ▸ hc)] at h
  cases h

theorem clauseAt_eq_none (h : afterWord hostWord s = none) : clauseAt s = none := by
  rw [clauseAt, h]
  rfl

theorem serviceAt_eq_none (h : afterWord serviceWord s = none) : serviceAt s = none := by
  rw [serviceAt, h]
  rfl

theorem clauses_cons_of_none (h : clauseAt (c :: s) = none) : clauses (c :: s) = clauses s := by
  rw [clauses]
  split
  · rename_i hsome
    rw [h] at hsome
    cases hsome
  · rfl

theorem clauses_of_clauseAt {cl : Clause} (h : clauseAt s = some cl) :
    clauses s = cl :: clauses cl.rest := by
  cases s with
  | nil => cases h
  | cons c s =>
    rw [clauses]
    split
    · rename_i hsome
      rw [h] at hsome
      cases hsome
      rfl
    · rename_i hnone
      rw [h] at hnone
      cases hnone

/-- The search goes over a text where no host keyword begins. -/
theorem clauses_append (h : ∀ u, u ≠ [] → u <:+ s → afterWord hostWord (u ++ t) = none) :
    clauses (s ++ t) = clauses t := by
  induction s with
  | nil => rfl
  | cons c s ih =>
    rw [List.cons_append, clauses_cons_of_none]
    · exact ih fun u hne hu => h u hne (hu.trans (List.suffix_cons c s))
    · exact clauseAt_eq_none (h (c :: s) (List.cons_ne_nil c s) List.suffix_rfl)

/-- No keyword begins in a text that does not contain it, unless it reaches over the end. -/
theorem afterWord_append_eq_none {word : List Char} (hs : ¬ lower word <:+: lower s)
    (ht : ∀ c ∈ t.head?, c.toLower ∉ lower word) : afterWord word (s ++ t) = none := by
  by_contra hsome
  obtain ⟨r, hr⟩ := Option.ne_none_iff_exists'.mp hsome
  obtain ⟨w, hw, hlower⟩ := afterWord_eq_some_iff.mp hr
  rcases List.append_eq_append_iff.mp hw with ⟨u, rfl, rfl⟩ | ⟨u, rfl, rfl⟩
  · cases u with
    | nil =>
      rw [List.append_nil] at hlower
      exact hs (hlower ▸ List.infix_rfl)
    | cons c u =>
      -- The word goes on in what follows, whose first character it does not have.
      refine ht c rfl ?_
      rw [← hlower, lower_append]
      exact List.mem_append_right _ List.mem_cons_self
  · rw [← hlower, lower_append] at hs
    exact hs (List.prefix_append _ _).isInfix

theorem clauses_append_of_not_infix (hs : ¬ lower hostWord <:+: lower s)
    (ht : ∀ c ∈ t.head?, c.toLower ∉ lower hostWord) : clauses (s ++ t) = clauses t := by
  refine clauses_append fun u _ hu => afterWord_append_eq_none (fun hin => hs ?_) ht
  exact hin.trans (hu.map Char.toLower).isInfix

/-- No keyword begins with a sign or a space. -/
theorem clauses_append_of_not_isName (hs : ∀ c ∈ s, isName c = false) :
    clauses (s ++ t) = clauses t := by
  refine clauses_append fun u hne hu => ?_
  cases u with
  | nil => exact absurd rfl hne
  | cons c u =>
    have hc := hs c (hu.subset List.mem_cons_self)
    rw [List.cons_append, hostWord, afterWord, if_neg fun heq => ?_]
    rw [← isName_toLower, ← heq] at hc
    cases hc

/-- The two clauses are found where the first keyword begins, and the search goes on after the
digits. -/
theorem clauseAt_append {w w' s₂ s₃ s₄ s₅ s₆ s₇ s₈ : List Char}
    (hw : lower w = lower hostWord) (hw' : lower w' = lower numberWord) (hhost : host ≠ [])
    (hname : ∀ c ∈ host, isName c = true) (hdigits : digits ≠ [])
    (hdigit : ∀ c ∈ digits, isDigit c = true) (ht : ∀ c ∈ t.head?, isDigit c = false)
    (h₂ : ∀ c ∈ s₂, isSpace c = true) (h₃ : ∀ c ∈ s₃, isSpace c = true)
    (h₄ : ∀ c ∈ s₄, isSpace c = true) (h₅ : ∀ c ∈ s₅, isSpace c = true)
    (h₆ : ∀ c ∈ s₆, isSpace c = true) (h₇ : ∀ c ∈ s₇, isSpace c = true)
    (h₈ : ∀ c ∈ s₈, isSpace c = true) :
    clauseAt (w ++ s₂ ++ '=' :: s₃ ++ host ++ s₄ ++ ')' :: s₅ ++ '(' :: s₆ ++ w' ++ s₇ ++
      '=' :: s₈ ++ digits ++ t) = some ⟨host, digits, t⟩ := by
  have hhost' : ∀ c ∈ host, isSpace c = false := fun c hc => not_isSpace_of_isName (hname c hc)
  have hdigits' : ∀ c ∈ digits, isSpace c = false := fun c hc =>
    not_isSpace_of_isName (isName_of_isDigit (hdigit c hc))
  have hkeyword : ∀ c ∈ w', isSpace c = false := fun c hc =>
    not_isSpace_of_isName (isName_of_lower_eq (by decide) hw' c hc)
  have hne : w' ≠ [] := by
    rintro rfl
    cases hw'
  have hclose (r : List Char) : afterSpaced ')' (s₄ ++ ')' :: (s₅ ++ '(' :: r)) =
      some ('(' :: r) :=
    afterSpaced_append_append (by decide) h₄ h₅ (by simp; decide)
  have hopen (r : List Char) : afterSpaced '(' ([] ++ '(' :: (s₆ ++ (w' ++ r))) =
      some (w' ++ r) :=
    afterSpaced_append_append (by decide) (List.forall_mem_nil _) h₆
      (forall_head?_append_of_ne_nil hne hkeyword r)
  have hafter : ∀ c ∈ (s₄ ++ ')' :: (s₅ ++ '(' :: (s₆ ++ (w' ++ (s₇ ++
      '=' :: (s₈ ++ (digits ++ t))))))).head?, isName c = false :=
    forall_head?_append (fun c hc => not_isName_of_isSpace (h₄ c hc)) (by simp; decide)
  obtain ⟨hword, hassign, hrun⟩ := assignment_append hw h₂ h₃ hhost hname hhost' hafter
  obtain ⟨hword', hassign', hrun'⟩ := assignment_append hw' h₇ h₈ hdigits hdigit hdigits' ht
  simp only [List.nil_append] at hopen
  simp only [List.append_assoc, List.cons_append, clauseAt, Option.bind_eq_bind,
    Option.bind_some, hword, hassign, hrun, hclose, hopen, hword', hassign', hrun']

/-- The clauses of a text are the ones that it mentions. -/
theorem clauses_of_mentions {found : List (List Char × List Char)} (h : Mentions found s) :
    (clauses s).map (fun cl => (cl.host, cl.digits)) = found := by
  induction h with
  | @filler s hs =>
    have hskip := clauses_append_of_not_infix (t := []) hs nofun
    rw [List.append_nil] at hskip
    rw [hskip, clauses]
    rfl
  | @clauses s a gap b t host digits found hs ha hhost hname hgap hb hdigits hdigit _ ih =>
    obtain ⟨hw, h₁, h₂, h₃, h₄⟩ := ha
    obtain ⟨hw', h₅, h₆, h₇, h₈⟩ := hb
    rename_i w s₁ s₂ s₃ s₄ w' s₅ s₆ s₇ s₈
    have hopen : ∀ c ∈ '(' :: s₁, isName c = false := by
      rintro c (_ | ⟨_, hc⟩)
      · decide
      · exact not_isName_of_isSpace (h₁ c hc)
    have hclose : ∀ c ∈ s₈ ++ [')'], isName c = false := by
      intro c hc
      rcases List.mem_append.mp hc with hc | hc
      · exact not_isName_of_isSpace (h₈ c hc)
      · rw [List.mem_singleton.mp hc]
        decide
    have hend : ∀ c ∈ ((s₈ ++ [')']) ++ t).head?, isDigit c = false := fun c hc =>
      not_isDigit_of_not_isName (forall_head?_append_of_ne_nil (by simp) hclose t c hc)
    have hfound := clauseAt_append hw hw' hhost hname hdigits hdigit hend h₂ h₃ h₄ hgap h₅ h₆ h₇
    have htext : s ++ ('(' :: s₁ ++ w ++ s₂ ++ '=' :: s₃ ++ host ++ s₄ ++ [')']) ++ gap ++
        ('(' :: s₅ ++ w' ++ s₆ ++ '=' :: s₇ ++ digits ++ s₈ ++ [')']) ++ t =
          s ++ ('(' :: s₁ ++ (w ++ s₂ ++ '=' :: s₃ ++ host ++ s₄ ++ ')' :: gap ++ '(' :: s₅ ++
            w' ++ s₆ ++ '=' :: s₇ ++ digits ++ (s₈ ++ [')'] ++ t))) := by
      simp only [List.append_assoc, List.cons_append, List.nil_append]
    -- Over the filler and the first parenthesis to the keyword, then over the rest of the match.
    rw [htext, clauses_append_of_not_infix hs (by simp; decide), clauses_append_of_not_isName hopen,
      clauses_of_clauseAt hfound, clauses_append_of_not_isName hclose, List.map_cons, ih]

/-- The search goes over a text where no service keyword begins. -/
theorem service_append
    (h : ∀ i < s.length, ¬ lower serviceWord <+: lower ((s ++ t).drop i)) :
    service (s ++ t) = service t := by
  induction s with
  | nil => rfl
  | cons c s ih =>
    have hhead : serviceAt (c :: (s ++ t)) = none :=
      serviceAt_eq_none (afterWord_eq_none_iff.mpr (h 0 (Nat.succ_pos _)))
    rw [List.cons_append, service, hhead]
    exact ih fun i hi => h (i + 1) (Nat.succ_lt_succ hi)

theorem service_of_serviceAt (h : serviceAt s = some value) : service s = value := by
  cases s with
  | nil => cases h
  | cons c s =>
    rw [service, h]
    rfl

theorem service_of_names (h : Names value s) : service s = value := by
  obtain ⟨hw, h₁, h₂, hvalue, hname, hrest, hfirst⟩ := h
  rename_i before w s₁ s₂ rest
  obtain ⟨hword, hassign, hrun⟩ := assignment_append hw h₁ h₂ hvalue hname
    (fun c hc => not_isSpace_of_isName (hname c hc)) hrest
  simp only [List.append_assoc, List.cons_append] at hfirst ⊢
  rw [service_append hfirst]
  apply service_of_serviceAt
  simp only [serviceAt, Option.bind_eq_bind, Option.bind_some, hword, hassign, hrun]

/-- The host and the number of an address, the number only if it fits 16 bits. -/
theorem Clause.map_address? (cl : Clause) :
    cl.address?.map (fun a => (a.host.toList, a.number.toNat)) =
      if Nat.ofDigitChars 10 cl.digits 0 ≤ 65535 then
        some (cl.host, Nat.ofDigitChars 10 cl.digits 0) else none := by
  rw [Clause.address?, digitsValue]
  simp only [UInt16.size]
  split
  · rename_i hlt
    rw [if_pos (Nat.le_of_lt_succ hlt)]
    simp [Nat.mod_eq_of_lt hlt]
  · rename_i hlt
    rw [if_neg (by omega)]
    rfl

/-- Mining finds the addresses that the text mentions, those with a number of 16 bits, in their
order, and the value of the first service keyword. -/
theorem mined_as_mentioned (description : String) :
    (∀ found, Mentions found description.toList →
      (addressesOf description).map (fun a => (a.host.toList, a.number.toNat)) =
        found.filterMap fun c => if Nat.ofDigitChars 10 c.2 0 ≤ 65535 then
          some (c.1, Nat.ofDigitChars 10 c.2 0) else none) ∧
    (∀ value, Names value description.toList → (serviceOf description).toList = value) := by
  constructor
  · intro found h
    rw [addressesOf, List.map_filterMap, ← clauses_of_mentions h, List.filterMap_map]
    exact List.filterMap_congr fun cl _ => cl.map_address?
  · intro value h
    rw [serviceOf, service_of_names h, String.toList_ofList]

/-- A host that contains its own keyword, zeros in front of a number, and a number that is too large
between two that are not. -/
theorem mined_from_mixed_case :
    let description := "(ADDRESS=(hOsT = ghosts )\t( Port=001521))(HOST=b)(PORT=65536)" ++
      "(HOST=c)(PORT=65535)(Service_Name = pdb.local)"
    (addressesOf description).map (fun a => (a.host.toList, a.number.toNat)) =
      [("ghosts".toList, 1521), ("c".toList, 65535)] ∧
    (serviceOf description).toList = "pdb.local".toList := by
  intro description
  have hplain (word value : List Char) :
      IsClause word value ('(' :: [] ++ word ++ [] ++ '=' :: [] ++ value ++ [] ++ [')']) :=
    .mk rfl nofun nofun nofun nofun
  have hblank : ∀ c ∈ [' '], isSpace c = true := List.all_eq_true.mp rfl
  have hghosts : IsClause hostWord "ghosts".toList
      ('(' :: [] ++ "hOsT".toList ++ [' '] ++ '=' :: [' '] ++ "ghosts".toList ++ [' '] ++ [')']) :=
    .mk rfl nofun hblank hblank hblank
  have hzeros : IsClause numberWord "001521".toList
      ('(' :: [' '] ++ "Port".toList ++ [] ++ '=' :: [] ++ "001521".toList ++ [] ++ [')']) :=
    .mk rfl hblank nofun nofun nofun
  have htab : ∀ c ∈ ['\t'], isSpace c = true := List.all_eq_true.mp rfl
  have hlast := Mentions.clauses (s := []) (by decide +kernel) (hplain hostWord "c".toList)
    (by decide) (List.all_eq_true.mp (by decide)) (List.forall_mem_nil _)
    (hplain numberWord "65535".toList) (by decide) (List.all_eq_true.mp (by decide))
    (.filler (s := "(Service_Name = pdb.local)".toList) (by decide +kernel))
  have hmiddle := Mentions.clauses (s := ")".toList) (by decide +kernel)
    (hplain hostWord "b".toList) (by decide) (List.all_eq_true.mp (by decide))
    (List.forall_mem_nil _) (hplain numberWord "65536".toList) (by decide)
    (List.all_eq_true.mp (by decide)) hlast
  have hmentions := Mentions.clauses (s := "(ADDRESS=".toList) (by decide +kernel) hghosts
    (by decide) (List.all_eq_true.mp (by decide)) htab hzeros (by decide)
    (List.all_eq_true.mp (by decide)) hmiddle
  have hnames : Names "pdb.local".toList
      ("(ADDRESS=(hOsT = ghosts )\t( Port=001521))(HOST=b)(PORT=65536)(HOST=c)(PORT=65535)(".toList
        ++ "Service_Name".toList ++ [' '] ++ '=' :: [' '] ++ "pdb.local".toList ++ [')']) :=
    .mk rfl hblank hblank (by decide) (List.all_eq_true.mp (by decide)) (by simp; decide)
      (by decide +kernel)
  obtain ⟨haddresses, hservice⟩ := mined_as_mentioned description
  constructor
  · refine (haddresses [("ghosts".toList, "001521".toList),
      ("b".toList, "65536".toList), ("c".toList, "65535".toList)] ?_).trans (by decide +kernel)
    convert hmentions using 1
    decide +kernel
  · refine hservice _ ?_
    convert hnames using 1
    decide +kernel

end NetNames.Descriptor
