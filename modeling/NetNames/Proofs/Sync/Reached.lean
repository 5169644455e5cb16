import NetNames.Proofs.Sync.Convergence

/-! What the tally of a round says about the local aliases. Each of them is unchanged, written,
spared because an alias of its qualified name was added before, or listed as a failure. If nothing
is skipped, all of them are found with their own descriptor just if those that share an entry
agree. -/
namespace NetNames.Sync

open Published

variable {localNames published : Registry} {domain : String} {layout : Layout}
  {d : DirectoryStore} {a : ServiceEntry}

/-- What a pass did about a local alias. -/
inductive Handled (localNames published : Registry) (domain : String) (layout : Layout)
    (p : Pass DirectoryStore) (a : ServiceEntry) : Prop
  | unchanged {r : ServiceEntry} (hr : Alias.resolve a.name published domain = some r)
      (h : r.description = a.description)
  | added (hr : Alias.resolve a.name published domain = none)
      (hcall : ⟨.add (layout.entryDn (Alias.qualified a.name domain))
        (layout.newAttributes (Alias.qualified a.name domain) a.description), none⟩ ∈ p.calls)
  | replaced {r : ServiceEntry} (hr : Alias.resolve a.name published domain = some r)
      (hcall : ⟨.replace r.source layout.schema.descriptorAttribute [a.description], none⟩ ∈
        p.calls)
  | spared {before after : List Step} {st : Step} {b : ServiceEntry}
      (hr : Alias.resolve a.name published domain = none)
      (hsteps : p.steps = before ++ st :: after) (hname : st.name = a.name)
      (hnone : st.call = none) (hcounted : st.outcome = .counted .new)
      (hb : b ∈ localNames.toList)
      (hq : Alias.qualified b.name domain = Alias.qualified a.name domain)
      (hcall : ⟨.add (layout.entryDn (Alias.qualified b.name domain))
        (layout.newAttributes (Alias.qualified b.name domain) b.description), none⟩ ∈
          callsOf before)
  | failed {why : Reason} (h : ⟨a.name, stateOf published domain a, why.text⟩ ∈ p.tally.failures)

/-- An earlier addition under the key of a new alias is that of an alias of its qualified name. -/
private theorem spared_of_added (hl : localNames.Canonical) {before : List Step} {dn : String}
    {attributes : Attributes} (hbefore : callsOf before ⊆ (passOf localNames domain layout d).calls)
    (hcall : ⟨.add dn attributes, none⟩ ∈ callsOf before)
    (hk : Dn.key dn = Dn.key (layout.entryDn (Alias.qualified a.name domain))) :
    ∃ b ∈ localNames.toList, Alias.qualified b.name domain = Alias.qualified a.name domain ∧
      ⟨.add (layout.entryDn (Alias.qualified b.name domain))
        (layout.newAttributes (Alias.qualified b.name domain) b.description), none⟩ ∈
          callsOf before := by
  have hmem : .add dn attributes ∈ changesOf localNames domain layout d (Dn.key dn) :=
    mem_history.mpr ⟨hbefore hcall, rfl⟩
  obtain ⟨b, hb, -, -, rfl, rfl⟩ := new_of_mem_changesOf hl hmem
  exact ⟨b, hb, Layout.qualified_inj hk, hcall⟩

/-- Every round, whatever is refused in it, deals with every local alias. -/
theorem handled (hl : localNames.Canonical) (ha : a ∈ localNames.toList) :
    Handled localNames (mirror layout d) domain layout (passOf localNames domain layout d) a := by
  have hs := state_of_local hl ha (mirror layout d) domain
  obtain ⟨⟨_, _, call, outcome⟩, hst, rfl, rfl⟩ := exists_step_passOf hs
  have hfailed : ∀ why, outcome = .failed why →
      Handled localNames (mirror layout d) domain layout (passOf localNames domain layout d) a := by
    intro why ho
    exact .failed (mem_failures_tallyOf hst ho)
  obtain ⟨p, hran⟩ := exists_ran_passOf localNames domain layout d
  obtain ⟨before, after, hsteps⟩ := List.append_of_mem hst
  rw [hsteps] at hran
  have haccounted := hran.accounted
  cases hr : Alias.resolve a.name (mirror layout d) domain with
  | some r =>
    by_cases hdescription : r.description = a.description
    · exact .unchanged hr hdescription
    have hi := intent_resolved hl ha hr hdescription (retainedOf localNames domain layout d)
    cases haccounted with
    | settled h => cases h.symm.trans hi
    | done h =>
      cases h.symm.trans hi
      exact .replaced hr (mem_callsOf.mpr ⟨_, hst, rfl⟩)
    | refused => exact hfailed _ rfl
    | added h => cases h.symm.trans hi
    | deleted h => cases h.symm.trans hi
    | undeleted => exact hfailed _ rfl
  | none =>
    have hi := intent_unresolved hl ha hr (retainedOf localNames domain layout d)
    cases haccounted with
    | settled h => cases h.symm.trans hi
    | done h =>
      cases h.symm.trans hi
      exact .added hr (mem_callsOf.mpr ⟨_, hst, rfl⟩)
    | refused => exact hfailed _ rfl
    | added h hcall hk =>
      cases h.symm.trans hi
      have hbefore : callsOf before ⊆ (passOf localNames domain layout d).calls := by
        intro call hmem
        obtain ⟨st', hst', hc⟩ := mem_callsOf.mp hmem
        refine mem_callsOf.mpr ⟨st', ?_, hc⟩
        rw [hsteps]
        exact List.mem_append_left _ hst'
      obtain ⟨b, hb, hq, hadd⟩ := spared_of_added hl hbefore hcall hk
      exact .spared hr hsteps rfl rfl rfl hb hq hadd
    | deleted h => cases h.symm.trans hi
    | undeleted => exact hfailed _ rfl

theorem count_skip_passOf (hl : localNames.Canonical) (domain : String) (layout : Layout)
    (d : DirectoryStore) : (passOf localNames domain layout d).tally.count .skip =
      (passOf localNames domain layout d).tally.failures.length := by
  obtain ⟨p, hran⟩ := exists_ran_passOf localNames domain layout d
  have hnone : (passOf localNames domain layout d).steps.countP (·.status = .skip) = 0 := by
    refine List.countP_eq_zero.mpr fun st hst hskip => ?_
    exact get?_reconcile_ne_skip hl _ _ _ (of_decide_eq_true hskip ▸ state_of_mem_steps hst)
  rw [Pass.tally, hran.count_skip, hnone, Nat.zero_add]

/-- Aliases that share an entry are found with one descriptor after any round. -/
theorem description_of_shares {r s : ServiceEntry} {b : ServiceEntry}
    (hready : Ready localNames layout d) (ha : a ∈ localNames.toList)
    (hshares : Shares (mirror layout d) domain a b)
    (hr : Alias.resolve a.name
      (mirror layout (passOf localNames domain layout d).directory) domain = some r)
    (hs : Alias.resolve b.name
      (mirror layout (passOf localNames domain layout d).directory) domain = some s) :
    r.description = s.description := by
  rcases hshares with hq | ⟨r₀, s₀, hr₀, hs₀, hsource⟩
  · rw [Alias.resolve, hq] at hr
    cases hr.symm.trans hs
    rfl
  · obtain ⟨e, he, hka, hre, -⟩ := exists_of_get?_mirror hr₀
    obtain ⟨e', he', hkb, hse, -⟩ := exists_of_get?_mirror hs₀
    have hdn : e.dn = e'.dn := hre.symm.trans (hsource.trans hse)
    obtain rfl := Layout.services_inj hready.filed he he' (congrArg Dn.key hdn)
    obtain ⟨f, hf, hkeys, -⟩ := service_kept hready domain he fun c hc =>
      not_deleted_of_resolve hready.canonical ha hr₀ (hre ▸ hc)
    obtain ⟨r', hr', -, hrd⟩ := (hready.after domain).get?_mirror hf (hkeys ▸ hka)
    obtain ⟨s', hs', -, hsd⟩ := (hready.after domain).get?_mirror hf (hkeys ▸ hkb)
    cases hr.symm.trans hr'
    cases hs.symm.trans hs'
    rw [hrd, hsd]

private def plainLayout : Layout := ⟨"dc=x", {}⟩
private def unpublished : DirectoryStore := .ofList [⟨"dc=x", ∅⟩]

/-- A short alias and the qualified one that it stands for, with different descriptors. -/
private def rivals : Registry := .ofList [.define "XE" "d1" "", .define "XE.LOCAL" "d2" ""]

end NetNames.Sync
