import Mathlib.Data.List.Induction
import Mathlib.Data.List.Sort
import NetNames.Registry
import NetNames.Proofs.Text.Capitals

/-! Canonical registries: every entry stands under its own upper-cased name. Whatever is inserted
or merged, a registry stays canonical, so a name found in one is the name it was looked up by. -/
namespace NetNames

theorem Keyed.mem_values_iff {α : Type} {m : Keyed α} {v : α} :
    v ∈ m.values ↔ ∃ k, m.get? k = some v := by
  rw [Keyed.values, List.mem_map]
  constructor
  · rintro ⟨⟨k, w⟩, h, rfl⟩
    exact ⟨k, mem_entries_iff.mp h⟩
  · rintro ⟨k, h⟩
    exact ⟨(k, v), mem_entries_iff.mpr h, rfl⟩

namespace Registry
variable {r s : Registry} {e : ServiceEntry} {name : String}

def Canonical (r : Registry) : Prop :=
  ∀ name e, r.get? name = some e → e.name = name ∧ upperCase name = name

theorem mem_toList_iff : e ∈ r.toList ↔ ∃ name, r.get? name = some e :=
  Keyed.mem_values_iff

theorem contains_iff : r.contains name = true ↔ ∃ e, r.get? name = some e :=
  Option.isSome_iff_exists

theorem mem_names_iff : name ∈ r.names ↔ ∃ e, r.get? name = some e :=
  Keyed.mem_keys_iff.trans Option.isSome_iff_exists

theorem Canonical.mem_toList_iff (hr : r.Canonical) :
    e ∈ r.toList ↔ r.get? e.name = some e := by
  rw [Registry.mem_toList_iff]
  constructor
  · rintro ⟨name, h⟩
    rwa [(hr name e h).1]
  · exact fun h => ⟨e.name, h⟩

theorem canonical_empty : (∅ : Registry).Canonical := by
  intro name e h
  cases h

theorem Canonical.insert (hr : r.Canonical) (e : ServiceEntry) : (r.insert e).Canonical := by
  intro name f h
  rw [get?_insert] at h
  split at h
  · rename_i hn
    cases h
    exact ⟨hn.symm, by rw [hn, upperCase_upperCase]⟩
  · exact hr name f h

theorem Canonical.merge (hr : r.Canonical) (hs : s.Canonical) : (r.merge s).Canonical := by
  intro name e h
  rw [get?_merge, Option.or_eq_some_iff] at h
  rcases h with h | ⟨-, h⟩
  · exact hs name e h
  · exact hr name e h

theorem canonical_ofList (es : List ServiceEntry) : (ofList es).Canonical := by
  have key : ∀ r : Registry, r.Canonical → (es.foldl Registry.insert r).Canonical := by
    induction es with
    | nil => exact fun r hr => hr
    | cons e es ih => exact fun r hr => ih _ (hr.insert e)
  exact key ∅ canonical_empty

theorem Canonical.map_name_toList (hr : r.Canonical) : r.toList.map (·.name) = r.names := by
  rw [toList, Keyed.values, List.map_map]
  exact List.map_congr_left fun p hp => (hr p.1 p.2 (Keyed.mem_entries_iff.mp hp)).1

/-- The names of the entries ascend, whichever of them are taken. -/
theorem Canonical.names_ascending (hr : r.Canonical) (p : ServiceEntry → Bool) :
    ((r.toList.filter p).map (·.name)).Pairwise (· < ·) := by
  refine List.Pairwise.sublist ((List.filter_sublist (p := p)).map _) ?_
  rw [hr.map_name_toList]
  exact r.entries.keys_ascending

/-- A registry is the same as another if it has every entry of it and no other names. -/
theorem Canonical.eq_of_names_subset (hr : r.Canonical) (hnames : ∀ name ∈ s.names, name ∈ r.names)
    (h : ∀ e ∈ r.toList, s.get? e.name = some e) : s = r := by
  refine Registry.ext fun name => ?_
  cases hname : r.get? name with
  | some e =>
    obtain ⟨rfl, -⟩ := hr name e hname
    exact h e (hr.mem_toList_iff.mpr hname)
  | none =>
    refine Option.eq_none_iff_forall_not_mem.mpr fun f hf => ?_
    obtain ⟨e, he⟩ := mem_names_iff.mp (hnames name (mem_names_iff.mpr ⟨f, hf⟩))
    rw [hname] at he
    cases he

theorem ofList_concat (es : List ServiceEntry) (e : ServiceEntry) :
    ofList (es ++ [e]) = (ofList es).insert e :=
  List.foldl_append

/-- Entries of other names make no difference to what is found. -/
theorem get?_ofList_append {es fs : List ServiceEntry} (h : ∀ e ∈ fs, upperCase e.name ≠ name) :
    (ofList (es ++ fs)).get? name = (ofList es).get? name := by
  induction fs using List.reverseRecOn with
  | nil => rw [List.append_nil]
  | append_singleton fs e ih =>
    obtain ⟨hfs, he⟩ := List.forall_mem_append.mp h
    rw [← List.append_assoc, ofList_concat, get?_insert,
      if_neg (Ne.symm (he e (List.mem_singleton_self e))), ih hfs]

/-- Whatever is found was among the entries. -/
theorem exists_of_get?_ofList {es : List ServiceEntry} {f : ServiceEntry}
    (h : (ofList es).get? name = some f) :
    ∃ e ∈ es, upperCase e.name = name ∧ { e with name } = f := by
  induction es using List.reverseRecOn with
  | nil => cases h
  | append_singleton es e ih =>
    rw [ofList_concat, get?_insert] at h
    split at h
    · rename_i hname
      subst hname
      exact ⟨e, by simp, rfl, Option.some.inj h⟩
    · obtain ⟨x, hx, hxf⟩ := ih h
      exact ⟨x, List.mem_append_left _ hx, hxf⟩

/-- Entries with distinct names are all found in what is made of them, and nothing else is. -/
theorem get?_ofList_eq_some_iff {es : List ServiceEntry} {f : ServiceEntry}
    (hes : (es.map fun e => upperCase e.name).Nodup) :
    (ofList es).get? name = some f ↔ ∃ e ∈ es, upperCase e.name = name ∧ { e with name } = f := by
  refine ⟨exists_of_get?_ofList, ?_⟩
  induction es using List.reverseRecOn with
  | nil => simp
  | append_singleton es e ih =>
    rw [List.map_append, List.map_singleton, List.nodup_append] at hes
    obtain ⟨hes, -, hlast⟩ := hes
    rintro ⟨x, hx, rfl, rfl⟩
    rw [ofList_concat, get?_insert]
    rcases List.mem_append.mp hx with hx | hx
    · rw [if_neg (hlast _ (List.mem_map_of_mem hx) _ (List.mem_singleton_self _))]
      exact ih hes ⟨x, hx, rfl, rfl⟩
    · rw [List.mem_singleton.mp hx, if_pos rfl]

/-- Entries with distinct names all get into the registry. -/
theorem perm_names_ofList {es : List ServiceEntry}
    (hes : (es.map fun e => upperCase e.name).Nodup) :
    (ofList es).names.Perm (es.map fun e => upperCase e.name) := by
  have hnodup : (ofList es).names.Nodup := (ofList es).entries.keys_ascending.nodup
  refine (List.perm_ext_iff_of_nodup hnodup hes).mpr fun name => ?_
  rw [mem_names_iff, List.mem_map]
  constructor
  · rintro ⟨f, hf⟩
    obtain ⟨e, he, hname, -⟩ := (get?_ofList_eq_some_iff hes).mp hf
    exact ⟨e, he, hname⟩
  · rintro ⟨e, he, hname⟩
    exact ⟨_, (get?_ofList_eq_some_iff hes).mpr ⟨e, he, hname, rfl⟩⟩

theorem size_ofList {es : List ServiceEntry} (hes : (es.map fun e => upperCase e.name).Nodup) :
    (ofList es).size = es.length := by
  have hlength := (perm_names_ofList hes).length_eq
  rwa [names, Keyed.keys, List.length_map, List.length_map] at hlength

end Registry
end NetNames
