import NetNames.Proofs.Directory.EntryDn
import NetNames.Proofs.NamesFile.Accepted

/-! Names under a default domain. A qualified name is trimmed and in upper case, so qualifying it once
more leaves it alone unless it does not count as qualified, and then appends the domain again. Of the
names that an alias line can define, only those that begin with a dot never count as qualified. -/
namespace NetNames.Alias

open Text

variable {name domain : String} {s t : List Char}

theorem trimmed_eq_empty_iff : trimmed domain = "" ↔ trim domain.toList = [] := by
  rw [trimmed, ← String.toList_inj, String.toList_ofList, String.toList_empty]

theorem isQualifiedText_iff : isQualifiedText s = true ↔
    ∃ label rest, s = label ++ '.' :: rest ∧ label ≠ [] ∧ ∀ c ∈ label, isWord c = true := by
  rw [isQualifiedText]
  constructor
  · intro h
    split at h
    · rename_i c label rest hlabel hrest
      refine ⟨c :: label, rest, ?_, List.cons_ne_nil c label, fun x hx => ?_⟩
      · rw [← hlabel, ← hrest, List.takeWhile_append_dropWhile]
      · exact List.mem_takeWhile_imp (hlabel ▸ hx)
    · cases h
  · rintro ⟨label, rest, rfl, hne, hword⟩
    have htake : (label ++ '.' :: rest).takeWhile isWord = label := by
      rw [List.takeWhile_append_of_pos hword, List.takeWhile_cons_of_neg (by decide),
        List.append_nil]
    have hdrop : (label ++ '.' :: rest).dropWhile isWord = '.' :: rest := by
      rw [List.dropWhile_append_of_pos hword, List.dropWhile_cons_of_neg (by decide)]
    rw [htake, hdrop]
    cases label with
    | nil => exact absurd rfl hne
    | cons c label => rfl

/-- A name that does not begin with a dot is qualified or is one label. -/
theorem isWord_of_not_isQualifiedText (hname : ∀ c ∈ s, isName c = true)
    (hdot : s.head? ≠ some '.') (h : isQualifiedText s = false) : ∀ c ∈ s, isWord c = true := by
  have hsplit := List.takeWhile_append_dropWhile (p := isWord) (l := s)
  cases hrest : s.dropWhile isWord with
  | nil =>
    rw [hrest, List.append_nil] at hsplit
    exact fun c hc => List.mem_takeWhile_imp (hsplit ▸ hc)
  | cons d rest =>
    have hd : isWord d = false := by
      have hhead := List.head?_dropWhile_not isWord s
      rw [hrest] at hhead
      simpa using hhead
    obtain rfl : d = '.' := by
      have hmem : d ∈ s := hsplit ▸ List.mem_append_right _ (hrest ▸ List.mem_cons_self)
      simpa [isName, hd] using hname d hmem
    rw [hrest] at hsplit
    refine absurd (isQualifiedText_iff.mpr ⟨_, rest, hsplit.symm, fun hnil => ?_, fun c hc => ?_⟩)
      (Bool.eq_false_iff.mp h)
    · rw [hnil] at hsplit
      exact hdot (hsplit ▸ rfl)
    · exact List.mem_takeWhile_imp hc

/-- With a domain appended where it is not qualified, a name is qualified unless it begins with a
dot. -/
theorem isQualifiedText_append_iff (hne : s ≠ []) (hname : ∀ c ∈ s, isName c = true)
    (t : List Char) :
    isQualifiedText (if isQualifiedText s then s else s ++ '.' :: t) = true ↔
      s.head? ≠ some '.' := by
  cases s with
  | nil => exact absurd rfl hne
  | cons c s =>
    by_cases hdot : c = '.'
    · subst hdot
      have hfirst (r : List Char) : isQualifiedText ('.' :: r) = false := rfl
      simp [hfirst]
    · have hdot' : (c :: s).head? ≠ some '.' := by simpa using hdot
      refine iff_of_true ?_ hdot'
      cases hq : isQualifiedText (c :: s) with
      | true => exact hq
      | false =>
        have hword := isWord_of_not_isQualifiedText hname hdot' hq
        exact isQualifiedText_iff.mpr ⟨c :: s, t, rfl, List.cons_ne_nil c s, hword⟩

theorem toList_qualified (name domain : String) : (qualified name domain).toList =
    if (trim domain.toList).isEmpty || isQualifiedText (upper (trim name.toList)) then
      upper (trim name.toList)
    else upper (trim name.toList) ++ '.' :: upper (trim domain.toList) := by
  rw [qualified]
  split <;> exact String.toList_ofList

theorem trim_qualified (name domain : String) :
    trim (qualified name domain).toList = (qualified name domain).toList := by
  have htrim (s : List Char) : trim (upper (trim s)) = upper (trim s) := by
    rw [trim_upper, trim_trim]
  rw [toList_qualified]
  split
  · exact htrim _
  · rw [trim, trimStart_append_cons _ _ (by decide), trimEnd_append_cons _ _ (by decide),
      trimStart_eq_self (htrim _), trimEnd_eq_self (htrim _)]

/-- What a name that is trimmed and in upper case stands for. -/
theorem qualified_of_settled (htrim : trim name.toList = name.toList)
    (hupper : upperCase name = name) (domain : String) : qualified name domain =
      if trimmed domain = "" ∨ isQualified name = true then name
      else name ++ "." ++ upperCase (trimmed domain) := by
  have hsettled : upper name.toList = name.toList := by
    rw [← String.toList_inj, upperCase, String.toList_ofList] at hupper
    exact hupper
  rw [← String.toList_inj, toList_qualified, htrim, hsettled, apply_ite String.toList]
  simp only [Bool.or_eq_true, List.isEmpty_iff, trimmed_eq_empty_iff, isQualified]
  simp [upperCase, trimmed]

/-- Qualified once more, a name stays as it is if it counts as qualified, or if there is no domain. -/
theorem qualified_qualified_iff (name domain : String) :
    qualified (qualified name domain) domain = qualified name domain ↔
      trimmed domain = "" ∨ isQualified (qualified name domain) = true := by
  rw [qualified_of_settled (trim_qualified name domain) (upperCase_qualified name domain)]
  split
  · rename_i h
    exact iff_of_true rfl h
  · rename_i h
    refine iff_of_false (fun heq => ?_) h
    have hlength := congrArg (fun x : String => x.toList.length) heq
    simp at hlength

theorem trim_of_isName (hname : ∀ c ∈ s, isName c = true) : trim s = s :=
  trim_of_full fun c hc => not_isBlank_of_isName (hname c hc)

theorem toUpper_eq_dot_iff {c : Char} (hc : isName c = true) : c.toUpper = '.' ↔ c = '.' := by
  obtain ⟨-, -, hlower⟩ := NamesFile.upperChar_of_isName hc
  constructor
  · intro hdot
    rw [hdot] at hlower
    have hn := toNat_toLower c
    rw [← hlower] at hn
    apply Char.toNat_inj.mp
    simp only [Char.reduceToLower, Char.reduceToNat] at hn ⊢
    split at hn <;> omega
  · rintro rfl
    rfl

/-- A name of an alias line, once it is qualified, counts as qualified unless it begins with a
dot. -/
theorem isQualified_qualified_iff (hne : name ≠ "") (hname : ∀ c ∈ name.toList, isName c = true)
    (hdomain : trimmed domain ≠ "") :
    isQualified (qualified name domain) = true ↔ name.toList.head? ≠ some '.' := by
  have hnonempty : (trim domain.toList).isEmpty = false :=
    List.isEmpty_eq_false_iff.mpr fun hnil => hdomain (trimmed_eq_empty_iff.mpr hnil)
  have hupper := NamesFile.upper_of_isName hname
  have hlabel := NamesFile.isName_of_mem_upper hname
  rw [hupper] at hlabel
  have hnil : name.toList ≠ [] := fun hnil => hne (String.toList_eq_nil_iff.mp hnil)
  rw [isQualified, toList_qualified, trim_of_isName hname, hupper, hnonempty, Bool.false_or,
    isQualifiedText_append_iff (fun h => hnil (List.map_eq_nil_iff.mp h)) hlabel]
  cases hs : name.toList with
  | nil => exact absurd hs hnil
  | cons c s =>
    have hc : isName c = true := hname c (hs ▸ List.mem_cons_self)
    simpa using not_congr (toUpper_eq_dot_iff hc)

/-- The domain is appended once at most: there is none, or the name does not begin with a dot. -/
def Stable (name domain : String) : Prop :=
  trimmed domain = "" ∨ name.toList.head? ≠ some '.'

instance (name domain : String) : Decidable (Stable name domain) := instDecidableOr

/-- What a name that an alias line can define stands for stands for itself, unless the name begins
with a dot and there is a domain. -/
theorem qualified_stable_iff (hne : name ≠ "") (hname : ∀ c ∈ name.toList, isName c = true)
    (domain : String) : qualified (qualified name domain) domain = qualified name domain ↔
      Stable name domain := by
  rw [qualified_qualified_iff, Stable]
  by_cases hdomain : trimmed domain = ""
  · simp [hdomain]
  · rw [isQualified_qualified_iff hne hname hdomain]

theorem qualified_ne_empty (hne : name ≠ "") (hname : ∀ c ∈ name.toList, isName c = true)
    (domain : String) : qualified name domain ≠ "" := by
  rw [ne_eq, ← String.toList_eq_nil_iff] at hne ⊢
  rw [toList_qualified, trim_of_isName hname, NamesFile.upper_of_isName hname]
  split
  · exact fun hnil => hne (List.map_eq_nil_iff.mp hnil)
  · exact fun hnil => List.cons_ne_nil _ _ (List.append_eq_nil_iff.mp hnil).2

/-- A name of an alias line is qualified to one, if the domain is written like one. -/
theorem isName_of_mem_qualified (hname : ∀ c ∈ name.toList, isName c = true)
    (hdomain : ∀ c ∈ (trimmed domain).toList, isName c = true) :
    ∀ c ∈ (qualified name domain).toList, isName c = true := by
  have hlabel := NamesFile.isName_of_mem_upper hname
  rw [trimmed, String.toList_ofList] at hdomain
  rw [toList_qualified, trim_of_isName hname]
  split
  · exact hlabel
  · exact List.forall_mem_append.mpr ⟨hlabel,
      List.forall_mem_cons.mpr ⟨rfl, NamesFile.isName_of_mem_upper hdomain⟩⟩

/-- A qualified name is found where its alias is, in every registry, just if it stands for itself. -/
theorem resolve_qualified_iff (name domain : String) :
    (∀ r, resolve (qualified name domain) r domain = resolve name r domain) ↔
      qualified (qualified name domain) domain = qualified name domain := by
  constructor
  · intro h
    have hfound := h (Registry.empty.insert (.define (qualified name domain) "" ""))
    have hname : upperCase (ServiceEntry.define (qualified name domain) "" "").name =
        qualified name domain := by
      rw [ServiceEntry.define, upperCase_qualified, upperCase_qualified]
    rw [resolve, resolve, Registry.get?_insert, Registry.get?_insert, hname, if_pos rfl] at hfound
    by_contra hne
    rw [if_neg hne] at hfound
    cases hfound
  · intro h r
    rw [resolve, resolve, h]

end NetNames.Alias
