import NetNames.Proofs.Directory.Attributes
import NetNames.Proofs.Directory.EntryDn

/-! The service entries of a directory: what the search of a layout finds, and why an entry that is
added is found again. -/
namespace NetNames
open Text

/-- The attributes that a layout relies on are told apart, an entry is named by a plain attribute,
and the class can be searched for as it is written. -/
structure Schema.Usable (s : Schema) : Prop where
  nameDescriptor : sameIgnoringCase s.nameAttribute s.descriptorAttribute = false
  nameAlias : sameIgnoringCase s.nameAttribute s.aliasAttribute = false
  nameClass : sameIgnoringCase s.nameAttribute "objectClass" = false
  descriptorAlias : sameIgnoringCase s.descriptorAttribute s.aliasAttribute = false
  descriptorClass : sameIgnoringCase s.descriptorAttribute "objectClass" = false
  aliasClass : sameIgnoringCase s.aliasAttribute "objectClass" = false
  plainName : ∀ c ∈ s.nameAttribute.toList, c ∉ [',', '\\', '=']
  plainClass : ∀ c ∈ s.objectClass.toList, c ∉ ['*', '(', ')', '\\', '\x00']

/-- The attributes of a schema, and that of the class, are told apart. -/
structure Schema.Separate (s : Schema) : Prop where
  nameDescriptor : sameIgnoringCase s.nameAttribute s.descriptorAttribute = false
  nameAlias : sameIgnoringCase s.nameAttribute s.aliasAttribute = false
  nameClass : sameIgnoringCase s.nameAttribute "objectClass" = false
  descriptorAlias : sameIgnoringCase s.descriptorAttribute s.aliasAttribute = false
  descriptorClass : sameIgnoringCase s.descriptorAttribute "objectClass" = false
  aliasClass : sameIgnoringCase s.aliasAttribute "objectClass" = false

theorem Schema.Usable.separate {s : Schema} (h : s.Usable) : s.Separate :=
  ⟨h.nameDescriptor, h.nameAlias, h.nameClass, h.descriptorAlias, h.descriptorClass, h.aliasClass⟩

theorem Schema.usable_default : ({} : Schema).Usable where
  nameDescriptor := by decide
  nameAlias := by decide
  nameClass := by decide
  descriptorAlias := by decide
  descriptorClass := by decide
  aliasClass := by decide
  plainName := by
    have h : "cn".toList.all (fun c => !([',', '\\', '='].contains c)) = true := by decide
    exact fun c hc => by simpa using List.all_eq_true.mp h c hc
  plainClass := by
    have h : "orclNetService".toList.all
        (fun c => !(['*', '(', ')', '\\', '\x00'].contains c)) = true := by decide
    exact fun c hc => by simpa using List.all_eq_true.mp h c hc

namespace Layout
variable {l : Layout}

/-- The entry that is added for a service. -/
def newEntry (l : Layout) (name description : String) : DirectoryEntry :=
  ⟨l.entryDn name, Keyed.ofList (l.newAttributes name description)⟩

theorem get?_newEntry (l : Layout) (name description n : String) :
    (l.newEntry name description).attributes.get? n =
      if n = l.schema.descriptorAttribute then some [description]
      else if n = l.schema.nameAttribute then some [name]
      else if n = "objectClass" then some ["top", l.schema.objectClass] else none := by
  rw [newEntry, newAttributes, Keyed.ofList, List.foldl_cons, List.foldl_cons, List.foldl_cons,
    List.foldl_nil, Keyed.get?_insert, Keyed.get?_insert, Keyed.get?_insert, Keyed.get?_empty]

/-- Of the three attributes of a new entry, one at most is of a given name. -/
private theorem only_newEntry (hu : l.schema.Separate) {name description n m : String}
    {v : List String}
    (hn : n ∈ [l.schema.descriptorAttribute, l.schema.nameAttribute, "objectClass"])
    (hs : sameIgnoringCase m n = true)
    (hv : (l.newEntry name description).attributes.get? m = some v) : m = n := by
  have hm : m ∈ [l.schema.descriptorAttribute, l.schema.nameAttribute, "objectClass"] := by
    rw [get?_newEntry] at hv
    simp only [List.mem_cons, List.not_mem_nil, or_false]
    split at hv
    · exact .inl (by assumption)
    · split at hv
      · exact .inr (.inl (by assumption))
      · split at hv
        · exact .inr (.inr (by assumption))
        · cases hv
  have h₁ := hu.nameDescriptor
  have h₂ := hu.nameClass
  have h₃ := hu.descriptorClass
  have h₁' := sameIgnoringCase_comm _ _ ▸ h₁
  have h₂' := sameIgnoringCase_comm _ _ ▸ h₂
  have h₃' := sameIgnoringCase_comm _ _ ▸ h₃
  simp only [List.mem_cons, List.not_mem_nil, or_false] at hm hn
  rcases hm with rfl | rfl | rfl <;> rcases hn with rfl | rfl | rfl <;> simp_all

theorem values?_newEntry_class (hu : l.schema.Separate) (name description : String) :
    (l.newEntry name description).values? "objectClass" =
      some ["top", l.schema.objectClass] := by
  refine DirectoryEntry.values?_of_only (sameIgnoringCase_self _) ?_
    fun m w hs hw => only_newEntry hu (by simp) hs hw
  rw [get?_newEntry, if_neg, if_neg, if_pos rfl]
  · exact fun h => by simpa [h] using hu.nameClass
  · exact fun h => by simpa [h] using hu.descriptorClass

theorem firstValue?_newEntry_name (hu : l.schema.Separate) (name description : String) :
    (l.newEntry name description).firstValue? l.schema.nameAttribute = some name := by
  have hv : (l.newEntry name description).values? l.schema.nameAttribute = some [name] := by
    refine DirectoryEntry.values?_of_only (sameIgnoringCase_self _) ?_
      fun m w hs hw => only_newEntry hu (by simp) hs hw
    rw [get?_newEntry, if_neg, if_pos rfl]
    exact fun h => by simpa [h] using hu.nameDescriptor
  rw [DirectoryEntry.firstValue?, hv]
  rfl

theorem firstValue?_newEntry_descriptor (hu : l.schema.Separate) (name description : String) :
    (l.newEntry name description).firstValue? l.schema.descriptorAttribute = some description := by
  have hv : (l.newEntry name description).values? l.schema.descriptorAttribute =
      some [description] := by
    refine DirectoryEntry.values?_of_only (sameIgnoringCase_self _) ?_
      fun m w hs hw => only_newEntry hu (by simp) hs hw
    rw [get?_newEntry, if_pos rfl]
  rw [DirectoryEntry.firstValue?, hv]
  rfl

theorem firstValue?_newEntry_alias (hu : l.schema.Separate) (name description : String) :
    (l.newEntry name description).firstValue? l.schema.aliasAttribute = none := by
  have hv : (l.newEntry name description).values? l.schema.aliasAttribute = none := by
    refine DirectoryEntry.values?_eq_none fun n hn => ?_
    rw [get?_newEntry, if_neg, if_neg, if_neg]
    · rintro rfl
      rw [sameIgnoringCase_comm, hu.aliasClass] at hn
      cases hn
    · rintro rfl
      rw [hu.nameAlias] at hn
      cases hn
    · rintro rfl
      rw [hu.descriptorAlias] at hn
      cases hn
  rw [DirectoryEntry.firstValue?, hv]
  rfl

/-- A service entry lies one level below the container and is of the class. -/
def isService (l : Layout) (e : DirectoryEntry) : Bool :=
  Scope.oneLevel.reaches l.container e.dn &&
    (⟨"objectClass", some l.schema.objectClass⟩ : Assertion).holds e

theorem isService_newEntry (hu : l.schema.Usable) (name description : String) :
    l.isService (l.newEntry name description) = true := by
  have hr : Scope.oneLevel.reaches l.container (l.entryDn name) = true :=
    l.reaches_entryDn (fun c hc => by
      have hp := hu.plainName c hc
      simp only [List.mem_cons, not_or] at hp
      exact ⟨hp.2.1, hp.1⟩) name
  rw [isService, Bool.and_eq_true]
  refine ⟨hr, ?_⟩
  simp [Assertion.holds, values?_newEntry_class hu.separate]

/-- Being a service does not depend on the descriptor. -/
theorem isService_congr (hu : l.schema.Usable) {a b : DirectoryEntry}
    (h : DirectoryEntry.AgreesOutside l.schema.descriptorAttribute a b) :
    l.isService b = l.isService a := by
  have hv : b.values? "objectClass" = a.values? "objectClass" :=
    h.values? (sameIgnoringCase_comm _ _ ▸ hu.descriptorClass)
  simp only [isService, Assertion.holds, hv, h.dn]

end Layout

private theorem filterEscape_of_plain {s : String}
    (h : ∀ c ∈ s.toList, c ∉ ['*', '(', ')', '\\', '\x00']) : Dn.filterEscape s = s := by
  have key : ∀ t : List Char, (∀ c ∈ t, c ∉ ['*', '(', ')', '\\', '\x00']) →
      Dn.filterEscapeText t = t := by
    intro t
    induction t with
    | nil => exact fun _ => rfl
    | cons c t ih =>
      intro ht
      have hc := ht c List.mem_cons_self
      have hs := ih fun d hd => ht d (List.mem_cons_of_mem c hd)
      simp only [List.mem_cons, List.not_mem_nil, or_false, not_or] at hc
      rw [Dn.filterEscapeText, List.flatMap_cons, ← Dn.filterEscapeText, hs]
      simp [hc]
  rw [Dn.filterEscape, key _ h, String.ofList_toList]

private theorem trim_bracketed (s : List Char) :
    trim ('(' :: (s ++ [')'])) = '(' :: (s ++ [')']) := by
  have ht : trimEnd (s ++ [')']) = s ++ [')'] := trimEnd_append_cons s [] (by decide)
  have hs := trim_split (a := []) (b := s ++ [')']) (x := '(') (by simp) (by decide)
  rwa [ht] at hs

/-- The filter of a layout asserts its class as it is escaped. -/
theorem Layout.parse?_search_eq (l : Layout) : Assertion.parse? l.search.filter =
    some ⟨"objectClass", if (Dn.filterEscape l.schema.objectClass).toList = ['*'] then none
      else some (Dn.filterEscape l.schema.objectClass)⟩ := by
  have hf : l.search.filter.toList =
      '(' :: (("objectClass".toList ++ '=' :: (Dn.filterEscape l.schema.objectClass).toList) ++
        [')']) := by
    simp [search, String.toList_append]
  rw [Assertion.parse?, hf, trim_bracketed]
  simp only [List.reverse_append, List.reverse_singleton, List.singleton_append,
    List.reverse_reverse]
  simp
  decide

/-- The filter of a layout asserts its class. -/
theorem Layout.parse?_search {l : Layout} (hu : l.schema.Usable) :
    Assertion.parse? l.search.filter = some ⟨"objectClass", some l.schema.objectClass⟩ := by
  have hstar : l.schema.objectClass.toList ≠ ['*'] := by
    intro h
    exact hu.plainClass '*' (h ▸ List.mem_singleton_self '*') (by simp)
  rw [l.parse?_search_eq, filterEscape_of_plain hu.plainClass, if_neg hstar]

end NetNames
