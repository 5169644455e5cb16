import NetNames.Proofs.Sync.Due

/-! How the round after a failed one makes up for it. A round that is refused nothing skips
nothing if no entry is in the way of a new alias, and refusals put none there; so two rounds, the
first of them refused whatever it may, leave what one round leaves that skips nothing. -/
namespace NetNames

/-- The directory with these refusals in place of its own. -/
def DirectoryStore.refusing (d : DirectoryStore) (refusals : List (Operation × String)) :
    DirectoryStore :=
  { d with refusals }

namespace Sync

open Published

variable {localNames : Registry} {domain : String} {layout : Layout} {d m : DirectoryStore}
  {k name : String} {a : ServiceEntry} {e f : DirectoryEntry} {c : Change} {s : Status}
  {st : Step}

/-- Only an obsolete entry is asked to be deleted, in the turn of one of its names. -/
theorem obsolete_of_delete {dn : String} {refusal : Option DirectoryError}
    (hready : Ready localNames layout d) (hst : st ∈ (passOf localNames domain layout d).steps)
    (hcall : st.call = some ⟨.delete dn, refusal⟩) (he : d.entries.get? (Dn.key dn) = some e) :
    st.status = .absentLocally ∧ Obsolete localNames domain layout e ∧
      st.name ∈ keysOf layout.schema e := by
  obtain ⟨p, hran⟩ := exists_ran_passOf localNames domain layout d
  have hs := state_of_mem_steps hst
  have hasks := hran.asks hst hcall
  generalize st.status = s at hasks hs
  have hretired := fun he' hk => retired_of_asks (e := e) hready he' hk hasks
  cases hasks with
  | @delete r hr _ =>
    obtain ⟨hname, -⟩ := (absent_iff hready.canonical layout d domain st.name).mp hs
    obtain ⟨r', hr'⟩ := Registry.mem_names_iff.mp hname
    have hpublished : (jobOf localNames domain layout d).published.get? st.name = some r' := hr'
    rw [hpublished, Option.some_or] at hr
    cases hr
    obtain ⟨e', he', hk, hsource, -⟩ := exists_of_get?_mirror hr'
    obtain ⟨hget, hservice⟩ := (Layout.mem_services hready.filed).mp he'
    rw [← hsource] at hget
    cases he.symm.trans hget
    exact ⟨rfl, ⟨hservice, hretired he' (congrArg Dn.key hsource.symm)⟩, hk⟩

theorem ascending_passOf (localNames : Registry) (domain : String) (layout : Layout)
    (d : DirectoryStore) :
    (passOf localNames domain layout d).steps.Pairwise fun x y => x.name < y.name :=
  ascending_steps _ _ d

/-- A round that skips nothing found the way clear. -/
theorem clear_of_converged (hready : Ready localNames layout d)
    (hconverged : (passOf localNames domain layout d).tally.isConverged = true) :
    Clear localNames domain layout d := by
  intro a ha hnew e he
  have hl := hready.canonical
  obtain ⟨st, hst, hname, hstatus⟩ :=
    exists_step_passOf (state_of_local hl ha (mirror layout d) domain)
  have hi := intent_unresolved hl ha hnew (retainedOf localNames domain layout d)
  rw [← hname, ← hstatus] at hi
  have hcounted := (isConverged_tallyOf _).mp hconverged st hst
  obtain ⟨before, after, hsplit⟩ := List.append_of_mem hst
  have hsteps : (passOf localNames domain layout d).steps = (before ++ [st]) ++ after := by
    simp [hsplit]
  have hascending := ascending_passOf localNames domain layout d
  obtain ⟨p, hran⟩ := exists_ran_passOf localNames domain layout d
  rw [hsteps] at hran hascending
  obtain ⟨q, m, hrun, -⟩ := hran.split_append
  -- The entry is added by then, so the one that was there is deleted by then.
  obtain ⟨c, hc, hadd, hk⟩ := hrun.met (List.mem_append_right _ (List.mem_singleton_self st)) hi
    hcounted
  rw [Change.dn] at hk
  rw [DirectoryStore.get?, ← hname, ← hk] at he
  have hevolves := hrun.carried.evolves (Dn.key c.dn)
  rw [he] at hevolves
  obtain ⟨c', hc', hdelete⟩ := hevolves.deleted_of_added ⟨c, mem_history.mpr ⟨hc, rfl⟩, hadd⟩
  obtain ⟨hcall, hk'⟩ := mem_history.mp hc'
  obtain ⟨st', hst', hcall'⟩ := mem_callsOf.mp hcall
  cases c' with
  | add => cases hdelete
  | replace => cases hdelete
  | delete dn =>
    have hmem : st' ∈ (passOf localNames domain layout d).steps := by
      rw [hsteps]
      exact List.mem_append_left _ hst'
    rw [← hk'] at he
    obtain ⟨habsent, hobsolete, hn⟩ := obsolete_of_delete hready hmem hcall' he
    refine ⟨hobsolete, st'.name, hn, ?_⟩
    rcases List.mem_append.mp hst' with hbefore | hlast
    · rw [← hname]
      obtain ⟨hfirst, -, -⟩ := List.pairwise_append.mp hascending
      exact (List.pairwise_append.mp hfirst).2.2 st' hbefore st (List.mem_singleton_self st)
    · rw [List.mem_singleton.mp hlast, hstatus, stateOf_eq_new_iff.mpr hnew] at habsent
      cases habsent

/-- Whatever a round was refused, it leaves the way clear. -/
theorem Clear.after (hready : Ready localNames layout d) (h : Clear localNames domain layout d) :
    Clear localNames domain layout (passOf localNames domain layout d).directory := by
  intro a ha hnew f hf
  have hnew' := unresolved_of_after hready ha hnew
  cases turned hready.canonical hready.filed domain layout
      (Dn.key (layout.entryDn (Alias.qualified a.name domain))) with
  | kept before after keeps =>
    cases after.symm.trans hf
    obtain ⟨hobsolete, m, hm, hlt⟩ := h a ha hnew' _ before
    refine ⟨(obsolete_congr hready.usable keeps.agrees).mpr hobsolete, m, ?_, hlt⟩
    rw [keysOf_of_agreesOutside hready.usable.separate keeps.agrees]
    exact hm
  | @added b hb _ hk after =>
    have hq : Alias.qualified a.name domain = Alias.qualified b.name domain :=
      Layout.qualified_inj hk
    have hservice : layout.newEntry (Alias.qualified b.name domain) b.description ∈
        layout.services (passOf localNames domain layout d).directory :=
      (Layout.mem_services (filed_passOf hready.filed)).mpr
        ⟨hk ▸ after, Layout.isService_newEntry hready.usable _ _⟩
    have hk' : Alias.qualified a.name domain ∈
        keysOf layout.schema (layout.newEntry (Alias.qualified b.name domain) b.description) := by
      rw [keysOf_new hready.usable.separate, hq]
      exact List.mem_singleton_self _
    exact absurd hk' (((hready.after domain).told domain).not_mem_keysOf_of_new hnew hservice)
  | gone after =>
    cases after.symm.trans hf

/-- What is settled from the start of a round is an unchanged alias or a kept entry. -/
theorem intent_counted {o : Outcome} (hready : Ready localNames layout d)
    (hs : (statesOf localNames domain layout d).get? name = some s)
    (hi : (jobOf localNames domain layout d).intent (retainedOf localNames domain layout d) name s =
      .settled o) : o = .counted .unchanged := by
  have hl := hready.canonical
  by_cases habsent : s = .absentLocally
  · subst habsent
    obtain ⟨hname, -⟩ := (absent_iff hl layout d domain name).mp hs
    obtain ⟨r, hr⟩ := Registry.mem_names_iff.mp hname
    obtain ⟨e, he, hk, -⟩ := exists_of_get?_mirror hr
    rw [(hready.told domain).intent_absent he hk] at hi
    split at hi
    · cases hi
      rfl
    · cases hi
  · obtain ⟨a, hlocal, rfl⟩ := get?_reconcile_of_ne_absent hl hs habsent
    have ha : a ∈ localNames.toList := Registry.mem_toList_iff.mpr ⟨name, hlocal⟩
    rw [← (hl name a hlocal).1] at hi
    cases hr : Alias.resolve a.name (mirror layout d) domain with
    | none => cases hi.symm.trans (intent_unresolved hl ha hr _)
    | some r =>
      by_cases hsame : r.description = a.description
      · rw [stateOf_eq_unchanged_iff.mpr ⟨r, hr, hsame⟩, Job.intent_unchanged] at hi
        cases hi
        rfl
      · cases hi.symm.trans (intent_resolved hl ha hr hsame _)

section Halfway
variable {before after : List Step} {q : Progress}

private theorem history_subset
    (hsteps : (passOf localNames domain layout d).steps = before ++ after)
    (h : c ∈ history k (callsOf before)) : c ∈ changesOf localNames domain layout d k := by
  obtain ⟨hcall, hk⟩ := mem_history.mp h
  refine mem_history.mpr ⟨?_, hk⟩
  rw [Pass.calls, hsteps, callsOf_append]
  exact List.mem_append_left _ hcall

/-- When its turn comes, the entry to be replaced or deleted is still there. -/
private theorem contains_halfway (hready : Ready localNames layout d)
    (hsteps : (passOf localNames domain layout d).steps = before ++ after)
    (hrun : Ran (jobOf localNames domain layout d) (retainedOf localNames domain layout d) {} d
      before q m)
    (hs : (statesOf localNames domain layout d).get? name = some s)
    (hasks : (jobOf localNames domain layout d).Asks (retainedOf localNames domain layout d) name s
      c)
    (hsettle : q.settle c = .ask c) (hadd : c.operation ≠ .add) : m.contains c.dn = true := by
  have hl := hready.canonical
  obtain ⟨_, r, hr, hsource⟩ := hasks.published hadd
  obtain ⟨e, hservice, -, hdn, -⟩ := exists_of_get?_mirror hr
  have he := ((Layout.mem_services hready.filed).mp hservice).1
  rw [← hdn, hsource] at he
  have hkept : ∀ c' ∈ history (Dn.key c.dn) (callsOf before), c'.operation ≠ .delete := by
    intro c' hc' hdelete
    cases c with
    | add => exact hadd rfl
    | replace dn field values =>
      obtain ⟨b, t, hb, hname, ht, rfl, -⟩ := hasks.resolved hl hs
      have hb' : b ∈ localNames.toList := Registry.mem_toList_iff.mpr ⟨_, hb⟩
      exact not_deleted_of_resolve hl hb' (hname ▸ ht) (history_subset hsteps hc') hdelete
    | delete dn =>
      have hfirst := Progress.untried_of_settle hsettle
      obtain ⟨hcall, hk⟩ := mem_history.mp hc'
      cases c' with
      | add => cases hdelete
      | replace => cases hdelete
      | delete dn' =>
        exact (Progress.Records.start.run hrun).tried _ hcall dn' rfl (hk ▸ hfirst)
  have hevolves := hrun.carried.evolves (Dn.key c.dn)
  rw [he] at hevolves
  exact Option.isSome_iff_ne_none.mpr (hevolves.of_not_deleted hkept)

/-- When the turn of a new alias comes whose entry is not added yet, nothing is in the way. -/
private theorem vacant_halfway {dn : String} {attributes : Attributes}
    (hready : Ready localNames layout d) (hclear : Clear localNames domain layout d)
    (hsteps : (passOf localNames domain layout d).steps = before ++ st :: after)
    (hcounted : ∀ x ∈ before, x.countedAs ≠ .skip)
    (hrun : Ran (jobOf localNames domain layout d) (retainedOf localNames domain layout d) {} d
      before q m)
    (hs : (statesOf localNames domain layout d).get? st.name = some st.status)
    (hasks : (jobOf localNames domain layout d).Asks (retainedOf localNames domain layout d) st.name
      st.status (.add dn attributes))
    (hsettle : q.settle (.add dn attributes) = .ask (.add dn attributes)) :
    m.entries.get? (Dn.key dn) = none := by
  have hl := hready.canonical
  have hrecords := Progress.Records.start.run hrun
  have hadd : ∀ c ∈ history (Dn.key dn) (callsOf before), c.operation ≠ .add := by
    intro c hc hoperation
    obtain ⟨hcall, hk⟩ := mem_history.mp hc
    cases c with
    | add dn' attributes' =>
      exact Progress.not_added_of_settle hsettle
        ((hrecords.added (Dn.key dn)).mpr ⟨dn', attributes', hcall, hk⟩)
    | replace => cases hoperation
    | delete => cases hoperation
  refine (hrun.carried.evolves (Dn.key dn)).of_not_added hadd ?_
  cases he : d.entries.get? (Dn.key dn) with
  | none => exact .inl rfl
  | some e =>
    obtain ⟨hnew, -, -, rfl, -⟩ := hasks.adds
    obtain ⟨a, hlocal, hstate⟩ := get?_reconcile_of_ne_absent hl hs (by simp [hnew])
    have ha : a ∈ localNames.toList := Registry.mem_toList_iff.mpr ⟨_, hlocal⟩
    have hname : a.name = st.name := (hl _ a hlocal).1
    obtain ⟨⟨hservice, hretired⟩, n, hn, hlt⟩ := hclear a ha
      (stateOf_eq_new_iff.mp (hstate.symm.trans hnew)) e (hname ▸ he)
    have hk := hready.filed _ e he
    have he' : e ∈ layout.services d :=
      (Layout.mem_services hready.filed).mpr ⟨hk.symm ▸ he, hservice⟩
    -- The obsolete entry is asked to be deleted in the turn of `n`, and that turn is over.
    obtain ⟨r, hr, -⟩ := hready.get?_mirror he' hn
    have habsent := (absent_iff hl layout d domain n).mpr
      ⟨Registry.mem_names_iff.mpr ⟨r, hr⟩, hretired.2 n hn⟩
    obtain ⟨st₀, hst₀, rfl, hstatus⟩ := exists_step_passOf habsent
    have hbefore : st₀ ∈ before := by
      have hascending := ascending_passOf localNames domain layout d
      rw [hsteps] at hst₀ hascending
      rcases List.mem_append.mp hst₀ with hst₀ | hst₀
      · exact hst₀
      rw [hname] at hlt
      rcases List.mem_cons.mp hst₀ with rfl | hst₀
      · exact absurd hlt (String.lt_irrefl _)
      · obtain ⟨-, htail, -⟩ := List.pairwise_append.mp hascending
        have hgt := (List.pairwise_cons.mp htail).1 st₀ hst₀
        exact absurd (String.lt_trans hlt hgt) (String.lt_irrefl _)
    have hretained : ¬ (retainedOf localNames domain layout d).contains (Dn.key e.dn) = true := by
      rw [List.contains_iff_mem, mem_retained_iff hready he']
      rintro ⟨w, hw, hwanted⟩
      exact hretired.2 w hw hwanted
    have hi := (hready.told domain).intent_absent he' hn (retainedOf localNames domain layout d)
    rw [if_neg hretained, ← hstatus] at hi
    obtain ⟨c, hc, hdelete, hkc⟩ := hrun.met hbefore hi (hcounted st₀ hbefore)
    exact .inr ⟨c, mem_history.mpr ⟨hc, hkc.trans hk⟩, hdelete⟩

/-- Where the way is clear and nothing is refused, no step is the first to be skipped. -/
private theorem counted_of_clear (hready : Ready localNames layout d)
    (hclear : Clear localNames domain layout d) (hfree : d.refusals = [])
    (hsteps : (passOf localNames domain layout d).steps = before ++ st :: after)
    (hcounted : ∀ x ∈ before, x.countedAs ≠ .skip) : st.countedAs ≠ .skip := by
  have hst : st ∈ (passOf localNames domain layout d).steps := by simp [hsteps]
  have hs : (statesOf localNames domain layout d).get? st.name = some st.status :=
    state_of_mem_steps hst
  obtain ⟨p, hran⟩ := exists_ran_passOf localNames domain layout d
  rw [hsteps] at hran
  have haccounted := hran.accounted
  obtain ⟨q, m, hrun, hrest⟩ := hran.split_append
  cases hrest with
  | cons hstep _ =>
    cases hstep with
    | settled hi =>
      rw [intent_counted hready hs hi]
      exact fun hskip => by cases hskip
    | spared hi _ =>
      cases haccounted with
      | settled hi' => cases hi.symm.trans hi'
      | added => exact fun hskip => by cases hskip
      | deleted => exact fun hskip => by cases hskip
      | undeleted _ hcall =>
        obtain ⟨x, hx, hxcall⟩ := mem_callsOf.mp hcall
        exact absurd (hrun.skip_of_refused hx hxcall) (hcounted x hx)
    | @done name s =>
      rintro (rfl : s = .skip)
      exact get?_reconcile_ne_skip hready.canonical _ _ _ hs
    | @refused name s c e d' hi hsettle hd =>
      have hasks := Job.asks_of_intent hi
      rw [DirectoryStore.value_perform] at hd
      have hunrefused : m.isRefused c.operation c.dn = false := by
        rw [DirectoryStore.isRefused, hrun.carried.refusals, hfree]
        rfl
      have hcontains := DirectoryStore.contains_of_perform_error hunrefused (by rw [hd])
      by_cases hadd : c.operation = .add
      · cases c with
        | add dn attributes =>
          have hnone := vacant_halfway hready hclear hsteps hcounted hrun hs hasks hsettle
          have hsome := hcontains.mpr hadd
          rw [DirectoryStore.contains, Keyed.contains, Change.dn, hnone] at hsome
          cases hsome
        | replace => cases hadd
        | delete => cases hadd
      · exact absurd (hcontains.mp (contains_halfway hready hsteps hrun hs hasks hsettle hadd)) hadd

end Halfway

/-- Where the way is clear, a round that is refused nothing skips nothing. -/
theorem converged_of_clear (hready : Ready localNames layout d)
    (hclear : Clear localNames domain layout d) (hfree : d.refusals = []) :
    (passOf localNames domain layout d).tally.isConverged = true := by
  have key : ∀ before after, (passOf localNames domain layout d).steps = before ++ after →
      ∀ x ∈ before, x.countedAs ≠ .skip := by
    intro before
    induction before using List.reverseRecOn with
    | nil => simp
    | append_singleton before st ih =>
      intro after hsteps x hx
      have hsplit : (passOf localNames domain layout d).steps = before ++ st :: after := by
        simp [hsteps]
      have hcounted := ih (st :: after) hsplit
      rcases List.mem_append.mp hx with hx | hx
      · exact hcounted x hx
      · cases List.mem_singleton.mp hx
        exact counted_of_clear hready hclear hfree hsplit hcounted
  exact (isConverged_tallyOf _).mpr (key _ [] (List.append_nil _).symm)

/-- What is due does not depend on what is refused. -/
theorem Due.of_refusing {refusals : List (Operation × String)} {t : Option DirectoryEntry}
    (h : Due localNames domain layout (d.refusing refusals) k t) :
    Due localNames domain layout d k t := by
  cases h with
  | kept he hkept hsame => exact .kept he hkept hsame
  | written he ha hr hk hne => exact .written he ha hr hk hne
  | added ha hnew hk => exact .added ha hnew hk
  | gone hold hnone => exact .gone hold hnone

theorem Ready.refusing (h : Ready localNames layout d) (refusals : List (Operation × String)) :
    Ready localNames layout (d.refusing refusals) :=
  ⟨h.usable, h.canonical, h.filed, h.distinct⟩

private def depotLayout : Layout := ⟨"dc=x", {}⟩
private def depotNames : Registry := .ofList [.define "XE" "new" "", .define "DB" "new" ""]
private def depot : DirectoryStore :=
  .ofList [⟨"dc=x", ∅⟩, depotLayout.newEntry "XE" "old", depotLayout.newEntry "OLD" "o"]
private def depotRefusals : List (Operation × String) :=
  [(.modify, Dn.key "cn=XE,dc=x"), (.add, Dn.key "cn=DB,dc=x")]

private def baselessLayout : Layout := ⟨"", {}⟩
private def baselessNames : Registry := .ofList [.define "A" "d" ""]
private def baseless : DirectoryStore :=
  .ofList [⟨"", .ofList [("objectClass", ["orclNetService"]), ("cn", ["ROOT"])]⟩]
private def baselessRefusals : List (Operation × String) := [(.add, Dn.key "cn=A,")]

end Sync
end NetNames
