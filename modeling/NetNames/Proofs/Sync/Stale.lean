import NetNames.Proofs.Sync.Convergence

/-! What is published after a round that skips nothing. Every alias leads to an entry that a local
alias resolves to, or to one that is also published under the name of a local alias: such a name
belongs to the local alias, so its entry is kept even if the local alias resolves to another. -/
namespace NetNames.Sync

open Published

variable {localNames : Registry} {domain : String} {layout : Layout} {d d' : DirectoryStore}
  {es es' : List DirectoryEntry} {e f : DirectoryEntry} {k : String}

/-- Whether a search returns an entry does not depend on its descriptor. -/
theorem mem_found_congr (hs : layout.schema.Separate) (hd : d.Filed) (hd' : d'.Filed)
    (hes : d.find layout.search = .ok es) (hes' : d'.find layout.search = .ok es')
    (he : d.entries.get? (Dn.key e.dn) = some e) (hf : d'.entries.get? (Dn.key f.dn) = some f)
    (h : e.AgreesOutside layout.schema.descriptorAttribute f) :
    f.project layout.search.attributes ∈ es' ↔ e.project layout.search.attributes ∈ es := by
  have ha := layout.parse?_search_eq
  have hclass : f.values? "objectClass" = e.values? "objectClass" :=
    h.values? (Text.sameIgnoringCase_comm _ _ ▸ hs.descriptorClass)
  rw [hd'.project_mem_iff hes' ha hf, hd.project_mem_iff hes ha he, h.dn, Assertion.holds,
    Assertion.holds, hclass]

/-- The job of a round whose search returned these entries. -/
abbrev jobOver (localNames : Registry) (domain : String) (layout : Layout)
    (es : List DirectoryEntry) : Job :=
  ⟨localNames, ofEntries layout.schema es, domain, layout⟩

/-- A round whose search returned entries that are told apart, and what it then left. -/
structure Searched (localNames : Registry) (domain : String) (layout : Layout)
    (d : DirectoryStore) (es es' : List DirectoryEntry) : Prop where
  separate : layout.schema.Separate
  canonical : localNames.Canonical
  filed : d.Filed
  distinct : Distinct layout.schema es
  before : d.find layout.search = .ok es
  after : ((jobOver localNames domain layout es).pass d).directory.find layout.search = .ok es'

namespace Searched
variable (h : Searched localNames domain layout d es es')
include h

theorem told : (jobOver localNames domain layout es).Told es where
  canonical := h.canonical
  published := rfl
  distinct := h.distinct
  keys _ he _ hf := h.filed.find_inj h.before he hf

theorem filed_after : ((jobOver localNames domain layout es).pass d).directory.Filed :=
  (carried_apply _ _ d).filed h.filed

theorem leaves (hf : f ∈ es') : (jobOver localNames domain layout es).Leaves es d f := by
  obtain ⟨g, hg, rfl, -⟩ := h.filed_after.exists_of_find h.after hf
  have hes : ∀ e ∈ es, d.entries.get? (Dn.key e.dn) ≠ none := by
    intro e he hnone
    obtain ⟨e', he', -⟩ := h.filed.exists_of_find h.before he
    cases hnone.symm.trans he'
  rcases turned_pass (j := jobOver localNames domain layout es) h.canonical rfl hes
      (Dn.key g.dn) with ⟨e, g', he, hg', hkeeps⟩ | ⟨a, ha, hnew, -, hadded⟩ | ⟨hnone, -⟩
  · cases hg.symm.trans hg'
    have hdn : g.dn = e.dn := hkeeps.agrees.dn
    have hmem : e.project layout.search.attributes ∈ es :=
      (mem_found_congr h.separate h.filed h.filed_after h.before h.after (hdn ▸ he) hg
        hkeeps.agrees).mp hf
    refine .kept hmem hdn.symm ?_ (hdn ▸ hkeeps.ne (by simp))
    rw [Layout.keysOf_project, Layout.keysOf_project,
      keysOf_of_agreesOutside h.separate hkeeps.agrees]
  · cases hg.symm.trans hadded
    refine .added ha hnew rfl ?_
    rw [Layout.keysOf_project]
    exact keysOf_new h.separate _ _ _
  · cases hg.symm.trans hnone

/-- An entry that is not deleted is found after the round, under the same names. -/
theorem found_kept (he : e ∈ es)
    (hkept : ∀ c ∈ history (Dn.key e.dn) ((jobOver localNames domain layout es).pass d).calls,
      c.operation ≠ .delete) :
    ∃ f ∈ es', f.dn = e.dn ∧ keysOf layout.schema f = keysOf layout.schema e := by
  obtain ⟨e', he', rfl, -⟩ := h.filed.exists_of_find h.before he
  obtain ⟨g, hg, hkeeps⟩ := get?_apply_of_not_deleted he' fun dn hcall hdn =>
    hkept _ (mem_history.mpr ⟨hcall, hdn⟩) rfl
  have hdn : g.dn = e'.dn := hkeeps.agrees.dn
  refine ⟨g.project layout.search.attributes, ?_, hdn, ?_⟩
  · exact (mem_found_congr h.separate h.filed h.filed_after h.before h.after he'
      (by rw [hdn]; exact hg) hkeeps.agrees).mpr he
  · rw [Layout.keysOf_project, Layout.keysOf_project,
      keysOf_of_agreesOutside h.separate hkeeps.agrees]

/-- What is found after the round is told apart, too. -/
theorem told_after : (jobOver localNames domain layout es').Told es' :=
  h.told.after (fun _ hf => h.leaves hf) fun _ hf _ hg => h.filed_after.find_inj h.after hf hg

end Searched

/-- Some local alias resolves to an entry with this source. -/
def Resolved (localNames published : Registry) (domain source : String) : Prop :=
  ∃ a ∈ localNames.toList, ∃ r,
    Alias.resolve a.name published domain = some r ∧ r.source = source

/-- An entry with this source is published under the name of a local alias. -/
def Namesake (localNames published : Registry) (source : String) : Prop :=
  ∃ a ∈ localNames.toList, ∃ r, published.get? a.name = some r ∧ r.source = source

instance (localNames published : Registry) (domain source : String) :
    Decidable (Resolved localNames published domain source) :=
  decidable_of_iff (∃ a ∈ localNames.toList,
    (Alias.resolve a.name published domain).any (·.source = source) = true) (by
      simp [Resolved, Option.any_eq_true])

instance (localNames published : Registry) (source : String) :
    Decidable (Namesake localNames published source) :=
  decidable_of_iff (∃ a ∈ localNames.toList,
    (published.get? a.name).any (·.source = source) = true) (by
      simp [Namesake, Option.any_eq_true])

namespace Job.Told
variable {j : Job}

theorem resolved_iff (h : j.Told es) (he : e ∈ es) :
    Resolved j.localNames j.published j.domain e.dn ↔
      ∃ a ∈ j.localNames.toList, Alias.qualified a.name j.domain ∈ keysOf j.layout.schema e := by
  simp only [h.mem_keysOf_iff he]
  rfl

theorem namesake_iff (h : j.Told es) (he : e ∈ es) :
    Namesake j.localNames j.published e.dn ↔
      ∃ a ∈ j.localNames.toList, a.name ∈ keysOf j.layout.schema e := by
  simp only [h.mem_keysOf_iff he]
  rfl

/-- Every entry that is published under the name of a local alias is one that a local alias resolves
to, just if every alias with such a name leads to one. -/
theorem forall_namesake_iff (h : j.Told es) :
    (∀ e ∈ es, Namesake j.localNames j.published e.dn →
      Resolved j.localNames j.published j.domain e.dn) ↔
    ∀ a ∈ j.localNames.toList, ∀ r, j.published.get? a.name = some r →
      Resolved j.localNames j.published j.domain r.source := by
  constructor
  · intro hall a ha r hr
    obtain ⟨e, he, -, hsource⟩ := h.exists_of_get? hr
    rw [hsource]
    exact hall e he ⟨a, ha, r, hr, hsource⟩
  · rintro hall e - ⟨a, ha, r, hr, hsource⟩
    rw [← hsource]
    exact hall a ha r hr

/-- An entry with a name that is wanted is one that a local alias resolves to, or that is published
under the name of a local alias. -/
theorem of_wanted (h : j.Told es) (he : e ∈ es)
    (hwanted : ∃ m ∈ keysOf j.layout.schema e, Wanted j.localNames j.domain m) :
    Resolved j.localNames j.published j.domain e.dn ∨
      Namesake j.localNames j.published e.dn := by
  obtain ⟨m, hm, hlocal | ⟨a, ha, rfl⟩⟩ := hwanted
  · obtain ⟨a, hget⟩ := Registry.contains_iff.mp hlocal
    obtain ⟨rfl, -⟩ := h.canonical m a hget
    exact .inr ((h.namesake_iff he).mpr ⟨a, h.canonical.mem_toList_iff.mpr hget, hm⟩)
  · exact .inl ((h.resolved_iff he).mpr ⟨a, ha, hm⟩)

end Job.Told

namespace Searched
variable (h : Searched localNames domain layout d es es')
include h

theorem resolved_or_namesake
    (hconverged : ((jobOver localNames domain layout es).pass d).tally.isConverged = true)
    (hf : f ∈ es') (hk : k ∈ keysOf layout.schema f) :
    Resolved localNames (ofEntries layout.schema es') domain f.dn ∨
      Namesake localNames (ofEntries layout.schema es') f.dn :=
  h.told_after.of_wanted hf (h.told.exists_wanted_after hconverged (h.leaves hf) hk)

/-- An entry that is published under the name of a local alias after the round and that none of them
resolves to was published so before. -/
theorem resolved_after (hf : f ∈ es') (hnamesake : Namesake localNames (ofEntries layout.schema es')
    f.dn) (hbefore : ∀ e ∈ es, Namesake localNames (ofEntries layout.schema es) e.dn →
      Resolved localNames (ofEntries layout.schema es) domain e.dn) :
    Resolved localNames (ofEntries layout.schema es') domain f.dn := by
  obtain ⟨a, ha, hk⟩ := (h.told_after.namesake_iff hf).mp hnamesake
  refine (h.told_after.resolved_iff hf).mpr ?_
  cases h.leaves hf with
  | @kept e he _ names =>
    have hresolved := hbefore e he ((h.told.namesake_iff he).mpr ⟨a, ha, names ▸ hk⟩)
    exact names ▸ (h.told.resolved_iff he).mp hresolved
  | added hb _ _ names => exact ⟨_, hb, names ▸ List.mem_singleton_self _⟩

/-- An entry that is published under the name of a local alias stays so, and if a local alias
resolves to it afterwards, one did before. -/
theorem resolved_before (he : e ∈ es) (hnamesake : Namesake localNames (ofEntries layout.schema es)
    e.dn) (hafter : ∀ f ∈ es', Namesake localNames (ofEntries layout.schema es') f.dn →
      Resolved localNames (ofEntries layout.schema es') domain f.dn) :
    Resolved localNames (ofEntries layout.schema es) domain e.dn := by
  obtain ⟨a, ha, hk⟩ := (h.told.namesake_iff he).mp hnamesake
  have hwanted : Wanted localNames domain a.name :=
    .inl (Registry.contains_iff.mpr ⟨a, h.canonical.mem_toList_iff.mp ha⟩)
  obtain ⟨f, hf, -, hkeys⟩ := h.found_kept he fun c hc => h.told.not_deleted he hk hwanted hc
  have hresolved := hafter f hf ((h.told_after.namesake_iff hf).mpr ⟨a, ha, hkeys.symm ▸ hk⟩)
  refine (h.told.resolved_iff he).mpr ?_
  rw [← hkeys]
  exact (h.told_after.resolved_iff hf).mp hresolved

end Searched

/-- What a search finds before a round and after it, seen through the registries. -/
theorem searched_of_round {p : Pass DirectoryStore} {after : Registry}
    (hs : layout.schema.Separate) (hl : localNames.Canonical) (hd : d.Filed)
    (hes : d.find layout.search = .ok es) (hdistinct : Distinct layout.schema es)
    (hround : (round localNames domain layout d).value = .ok p)
    (hafter : (Published.read layout p.directory).value = (.ok after, p.directory)) :
    p = (jobOver localNames domain layout es).pass d ∧
      ∃ es', Searched localNames domain layout d es es' ∧ after = ofEntries layout.schema es' := by
  obtain ⟨es₀, hes₀, rfl⟩ := round_ok_iff.mp hround
  cases hes.symm.trans hes₀
  refine ⟨rfl, ?_⟩
  rw [Published.value_read] at hafter
  cases hes' : ((jobOver localNames domain layout es).pass d).directory.find layout.search with
  | error e =>
    rw [hes'] at hafter
    cases hafter
  | ok es' =>
    rw [hes'] at hafter
    cases hafter
    exact ⟨es', ⟨hs, hl, hd, hdistinct, hes, hes'⟩, rfl⟩

private def branchLayout : Layout := ⟨"dc=x", {}⟩
private def branches : Registry := .ofList [.define "XE" "d" ""]
private def crossing : DirectoryStore :=
  .ofList [⟨"dc=x", ∅⟩, branchLayout.newEntry "XE.LOCAL" "d", branchLayout.newEntry "XE" "old",
    branchLayout.newEntry "DB" "gone"]
private def crossingFound : List DirectoryEntry :=
  (branchLayout.services crossing).map (·.project branchLayout.search.attributes)
private def crossed : Pass DirectoryStore := passOf branches "local" branchLayout crossing

private theorem find_crossing : crossing.find branchLayout.search = .ok crossingFound :=
  Layout.find_search Schema.usable_default (by decide +kernel) (by decide +kernel)

private theorem round_crossing :
    (round branches "local" branchLayout crossing).value = .ok crossed :=
  round_eq_passOf Schema.usable_default (by decide +kernel) (by decide +kernel)

private theorem read_crossed : (Published.read branchLayout crossed.directory).value =
    (.ok (mirror branchLayout crossed.directory), crossed.directory) :=
  value_read_eq_mirror Schema.usable_default (by decide +kernel) (by decide +kernel)

private theorem distinct_crossing : Distinct branchLayout.schema crossingFound := by decide +kernel
private theorem converged_crossed : crossed.tally.isConverged = true := by decide +kernel

private def narrowLayout : Layout := ⟨"dc=x", { descriptorAttribute := "cn" }⟩
private def narrowNames : Registry := .ofList [.define "A" "b" ""]
private def narrow : DirectoryStore := .ofList [⟨"dc=x", ∅⟩]
private def narrowed : Pass DirectoryStore := (jobOver narrowNames "" narrowLayout []).pass narrow

end NetNames.Sync
