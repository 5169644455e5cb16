import NetNames.Proofs.Directory.Slot
import NetNames.Proofs.Registry.Canonical

/-! What a search finds: the entries in its scope for which its assertion holds, in the order of
their keys and cut to the attributes asked for. When entries are taken out of a directory, the same
search finds the others that it found before. -/
namespace NetNames.DirectoryStore
variable {d d' : DirectoryStore} {r : SearchRequest} {es : List DirectoryEntry}
  {e f : DirectoryEntry}

theorem Filed.mem_toList_iff (hd : d.Filed) :
    e ∈ d.toList ↔ d.entries.get? (Dn.key e.dn) = some e := by
  rw [toList, Keyed.mem_values_iff]
  constructor
  · rintro ⟨k, h⟩
    rwa [hd k e h]
  · exact fun h => ⟨_, h⟩

/-- Filed entries are listed by ascending keys. -/
theorem Filed.map_key_toList (hd : d.Filed) : d.toList.map (Dn.key ·.dn) = d.entries.keys := by
  rw [toList, Keyed.values, Keyed.keys, List.map_map]
  refine List.map_congr_left fun x hx => ?_
  exact hd x.1 x.2 (Keyed.mem_entries_iff.mp hx)

/-- A search succeeds if it is not refused, its base is there and its filter is an assertion. -/
theorem find_ok_iff : d.find r = .ok es ↔
    d.isRefused .search r.base = false ∧ d.contains r.base = true ∧
      ∃ a, Assertion.parse? r.filter = some a ∧
        es = (d.toList.filter fun e => r.scope.reaches r.base e.dn && a.holds e).map
          (·.project r.attributes) := by
  rw [find]
  cases d.isRefused .search r.base with
  | true => simp
  | false =>
    cases d.contains r.base with
    | false => simp
    | true =>
      cases Assertion.parse? r.filter with
      | none => simp
      | some a => simp [eq_comm]

/-- Without its base there is nothing to search. -/
theorem find_eq_error (hr : d.isRefused .search r.base = false) (hc : d.contains r.base = false) :
    d.find r = .error (.noSuchEntry r.base) := by
  rw [find, hr, hc]
  rfl

/-- A search returns entries of the directory that its scope reaches, cut to the attributes asked
for. -/
theorem Filed.exists_of_find (hd : d.Filed) (h : d.find r = .ok es) (hf : f ∈ es) :
    ∃ e, d.entries.get? (Dn.key f.dn) = some e ∧ f = e.project r.attributes ∧
      r.scope.reaches r.base f.dn = true := by
  obtain ⟨-, -, a, -, rfl⟩ := find_ok_iff.mp h
  obtain ⟨e, he, rfl⟩ := List.mem_map.mp hf
  obtain ⟨hmem, hfound⟩ := List.mem_filter.mp he
  rw [Bool.and_eq_true] at hfound
  exact ⟨e, hd.mem_toList_iff.mp hmem, rfl, hfound.1⟩

/-- Entries that a search returns are told apart by their keys. -/
theorem Filed.find_inj (hd : d.Filed) (h : d.find r = .ok es) (he : e ∈ es) (hf : f ∈ es)
    (hk : Dn.key e.dn = Dn.key f.dn) : e = f := by
  obtain ⟨e', hget, rfl, -⟩ := hd.exists_of_find h he
  obtain ⟨f', hget', rfl, -⟩ := hd.exists_of_find h hf
  rw [hk, hget'] at hget
  rw [Option.some.inj hget]

/-- An entry is returned if the scope reaches it and the assertion holds for it. -/
theorem Filed.project_mem_iff (hd : d.Filed) (h : d.find r = .ok es) {a : Assertion}
    (ha : Assertion.parse? r.filter = some a) (he : d.entries.get? (Dn.key e.dn) = some e) :
    e.project r.attributes ∈ es ↔ r.scope.reaches r.base e.dn = true ∧ a.holds e = true := by
  obtain ⟨-, -, a', ha', rfl⟩ := find_ok_iff.mp h
  cases ha.symm.trans ha'
  rw [List.mem_map, ← Bool.and_eq_true]
  constructor
  · rintro ⟨e', hmem, hproject⟩
    obtain ⟨hmem, hfound⟩ := List.mem_filter.mp hmem
    have hdn : e'.dn = e.dn := congrArg (·.dn) hproject
    have hget := hd.mem_toList_iff.mp hmem
    rw [hdn, he] at hget
    cases hget
    exact hfound
  · exact fun hfound => ⟨e, List.mem_filter.mpr ⟨hd.mem_toList_iff.mpr he, hfound⟩, rfl⟩

/-- No two entries that a search returns stand under one key. -/
theorem Filed.pairwise_find (hd : d.Filed) (h : d.find r = .ok es) :
    es.Pairwise fun a b => Dn.key a.dn ≠ Dn.key b.dn := by
  obtain ⟨-, -, a, -, rfl⟩ := find_ok_iff.mp h
  have hkeys : (d.toList.map (Dn.key ·.dn)).Pairwise (· < ·) := by
    rw [hd.map_key_toList]
    exact d.entries.keys_ascending
  refine List.pairwise_map.mpr (((List.pairwise_map.mp hkeys).imp fun {x y} hlt heq => ?_).filter _)
  exact String.lt_irrefl _ (heq ▸ hlt)

section Removed
variable {gone : String → Prop} [DecidablePred gone]

private theorem toList_removed (hd : d.Filed)
    (hget : ∀ k, d'.entries.get? k = if gone k then none else d.entries.get? k) :
    d'.toList = d.toList.filter fun e => ¬ gone (Dn.key e.dn) := by
  have hentries : d'.entries = d.entries.filter fun k _ => ¬ gone k := by
    refine Keyed.ext fun k => ?_
    rw [hget, Keyed.get?_filter]
    by_cases hk : gone k
    · cases d.entries.get? k <;> simp [hk, Option.filter]
    · cases d.entries.get? k <;> simp [hk, Option.filter]
  rw [toList, toList, hentries, Keyed.values, Keyed.values, List.filter_map]
  refine congrArg (List.map _) (List.filter_congr fun x hx => ?_)
  rw [Function.comp_apply, hd x.1 x.2 (Keyed.mem_entries_iff.mp hx)]

/-- What a search finds after entries have been taken out. -/
theorem Filed.find_removed (hd : d.Filed) (h : d.find r = .ok es)
    (hget : ∀ k, d'.entries.get? k = if gone k then none else d.entries.get? k)
    (hrefusals : d'.refusals = d.refusals) (hbase : d'.contains r.base = true) :
    d'.find r = .ok (es.filter fun e => ¬ gone (Dn.key e.dn)) := by
  obtain ⟨hrefused, -, a, ha, rfl⟩ := find_ok_iff.mp h
  refine find_ok_iff.mpr ⟨?_, hbase, a, ha, ?_⟩
  · rw [isRefused, hrefusals]
    exact hrefused
  · rw [toList_removed hd hget, List.filter_map, List.filter_filter, List.filter_filter]
    refine congrArg (List.map _) (List.filter_congr fun e _ => ?_)
    exact Bool.and_comm _ _

end Removed
end NetNames.DirectoryStore
