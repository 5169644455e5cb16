import NetNames.Proofs.Sync.Convergence

/-! A round after a round that skipped nothing asks for nothing. Local aliases that agree where they
share an entry are found unchanged, and a published name that none of them resolves to belongs to
an entry that another name keeps. -/
namespace NetNames.Sync

open Published

section Idle
variable {σ : Type} [Directory σ] {j : Job} {retained : List String} {p p' : Progress} {d d' : σ}
  {steps : List Step}

/-- Steps whose intents are all settled end as these say and leave the directory alone. -/
theorem Ran.idle (h : Ran j retained p d steps p' d')
    (hi : ∀ st ∈ steps, ∃ o, j.intent retained st.name st.status = .settled o) :
    callsOf steps = [] ∧ d' = d ∧
      ∀ st ∈ steps, j.intent retained st.name st.status = .settled st.outcome := by
  induction h with
  | nil => exact ⟨rfl, rfl, by simp⟩
  | cons hs _ ih =>
    obtain ⟨hcalls, hd, hall⟩ := ih fun st hst => hi st (List.mem_cons_of_mem _ hst)
    obtain ⟨o, hfirst⟩ := hi _ List.mem_cons_self
    cases hs with
    | settled h => exact ⟨hcalls, hd, List.forall_mem_cons.mpr ⟨h, hall⟩⟩
    | spared h => cases h.symm.trans hfirst
    | done h => cases h.symm.trans hfirst
    | refused h => cases h.symm.trans hfirst

end Idle

/-- A pass that asked for nothing, changed nothing and counted every alias as unchanged. -/
structure Quiet (d : DirectoryStore) (p : Pass DirectoryStore) : Prop where
  calls : p.calls = []
  directory : p.directory = d
  counts : ∀ s, p.tally.count s = if s = .unchanged then p.steps.length else 0
  failures : p.tally.failures = []

theorem quiet_of_settled {j : Job} {c : Classification} {d : DirectoryStore}
    (h : ∀ name s, c.get? name = some s →
      j.intent (j.retained c) name s = .settled (.counted .unchanged)) :
    Quiet d (apply j c d).value := by
  obtain ⟨p, hran, -⟩ := exists_ran_apply j c d
  have hi : ∀ st ∈ (apply j c d).value.steps,
      j.intent (j.retained c) st.name st.status = .settled (.counted .unchanged) :=
    fun st hst => h _ _ (state_of_mem_steps hst)
  obtain ⟨hcalls, hd, houtcomes⟩ := hran.idle fun st hst => ⟨_, hi st hst⟩
  have hall : ∀ st ∈ (apply j c d).value.steps, st.outcome = .counted .unchanged :=
    fun st hst => Decision.settled.inj ((houtcomes st hst).symm.trans (hi st hst))
  refine ⟨hcalls, hd, fun s => ?_, ?_⟩
  · rw [Pass.tally, count_tallyOf]
    split
    · rename_i hs
      refine List.countP_eq_length.mpr fun st hst => ?_
      rw [Step.countedAs, hall st hst, hs]
      exact decide_eq_true rfl
    · rename_i hs
      refine List.countP_eq_zero.mpr fun st hst => ?_
      rw [Step.countedAs, hall st hst, decide_eq_true_eq]
      exact Ne.symm hs
  · rw [Pass.tally, failures_tallyOf, List.filterMap_eq_nil_iff]
    intro st hst
    rw [Step.failure?, hall st hst]

variable {localNames : Registry} {domain : String} {layout : Layout} {d : DirectoryStore}
  {k name : String} {a : ServiceEntry} {e f : DirectoryEntry}

/-- What a comparison with a directory finds absent is published but not wanted. -/
theorem absent_iff (hl : localNames.Canonical) (layout : Layout) (d : DirectoryStore)
    (domain name : String) :
    (statesOf localNames domain layout d).get? name = some .absentLocally ↔
      name ∈ (mirror layout d).names ∧ ¬ Wanted localNames domain name :=
  Job.absent_iff (j := jobOf localNames domain layout d) hl (canonical_mirror layout d)

/-- An entry is retained if one of its names is wanted. -/
theorem mem_retained_iff (hready : Ready localNames layout d) (he : e ∈ layout.services d) :
    Dn.key e.dn ∈ retainedOf localNames domain layout d ↔
      ∃ m ∈ keysOf layout.schema e, Wanted localNames domain m :=
  (hready.told domain).mem_retained_iff he

/-- An entry is retired if it is published and none of its names is wanted. -/
def Retired (localNames : Registry) (domain : String) (schema : Schema) (e : DirectoryEntry) :
    Prop :=
  keysOf schema e ≠ [] ∧ ∀ m ∈ keysOf schema e, ¬ Wanted localNames domain m

/-- Only a retired entry is asked to be deleted. -/
theorem retired_of_asks {dn : String} {s : Status} (hready : Ready localNames layout d)
    (he : e ∈ layout.services d) (hk : Dn.key e.dn = Dn.key dn)
    (hasks : (jobOf localNames domain layout d).Asks (retainedOf localNames domain layout d) name s
      (.delete dn)) : Retired localNames domain layout.schema e := by
  obtain ⟨m, r, hr, hsource⟩ := hasks.published (by simp [Change.operation])
  obtain ⟨e', he', hm, hdn, -⟩ := exists_of_get?_mirror hr
  rw [hdn, Change.dn] at hsource
  obtain rfl := Layout.services_inj hready.filed he' he (by rw [hsource, hk])
  refine ⟨List.ne_nil_of_mem hm, fun m' hm' hwanted => ?_⟩
  exact (hready.told domain).not_asked he hm' hwanted hasks hk

theorem retired_of_deleted {c : Change} (hready : Ready localNames layout d)
    (he : e ∈ layout.services d) (hc : c ∈ changesOf localNames domain layout d (Dn.key e.dn))
    (hdelete : c.operation = .delete) :
    Retired localNames domain layout.schema e := by
  obtain ⟨⟨name, s, -, hasks⟩, hk⟩ := asks_of_mem_changesOf hc
  cases c with
  | add => cases hdelete
  | replace => cases hdelete
  | delete dn => exact retired_of_asks hready he hk.symm hasks

/-- A round that skips nothing deletes just the retired entries. -/
theorem deleted_iff_retired (hready : Ready localNames layout d)
    (hconverged : (passOf localNames domain layout d).tally.isConverged = true)
    (he : e ∈ layout.services d) :
    (∃ c ∈ changesOf localNames domain layout d (Dn.key e.dn), c.operation = .delete) ↔
      Retired localNames domain layout.schema e := by
  constructor
  · rintro ⟨c, hc, hdelete⟩
    exact retired_of_deleted hready he hc hdelete
  · rintro ⟨hne, hretired⟩
    obtain ⟨name, hk⟩ := List.exists_mem_of_ne_nil _ hne
    refine Classical.byContradiction fun hkept => ?_
    obtain ⟨m, hm, hwanted⟩ := (hready.told domain).exists_wanted hconverged he hk
      fun c hc hdelete => hkept ⟨c, hc, hdelete⟩
    exact hretired m hm hwanted

/-- The container is lost just if it is itself a retired entry, and so has a blank name. -/
theorem contains_container_iff (hready : Ready localNames layout d)
    (hconverged : (passOf localNames domain layout d).tally.isConverged = true)
    (hc : d.contains layout.container = true) :
    (passOf localNames domain layout d).directory.contains layout.container = true ↔
      ¬ ∃ e ∈ layout.services d, Dn.key e.dn = Dn.key layout.container ∧
        Retired localNames domain layout.schema e := by
  constructor
  · rintro hafter ⟨e, he, hk, hretired⟩
    obtain ⟨c, hchange, hdelete⟩ := (deleted_iff_retired hready hconverged he).mpr hretired
    obtain ⟨f, hf⟩ := Option.isSome_iff_exists.mp hafter
    rw [← hk] at hf
    cases turned hready.canonical hready.filed domain layout (Dn.key e.dn) with
    | kept _ _ keeps => exact keeps.ne (by simp) c hchange hdelete
    | @added a _ _ hkey _ =>
      have hreaches := ((Layout.mem_services hready.filed).mp he).2
      rw [Layout.isService, Bool.and_eq_true] at hreaches
      have hblank := hk.trans (Scope.key_eq_empty_of_reaches hreaches.1 hk)
      exact Layout.key_entryDn_ne_empty layout _ (hkey.symm.trans hblank)
    | gone hnone =>
      rw [hf] at hnone
      cases hnone
  · intro hnone
    obtain ⟨e, he⟩ := Option.isSome_iff_exists.mp hc
    have hkept : ∀ c ∈ changesOf localNames domain layout d (Dn.key layout.container),
        c.operation ≠ .delete := by
      intro c hchange hdelete
      obtain ⟨f, hf, hget⟩ := exists_of_mem_changesOf hready.filed hchange (by simp [hdelete])
      have hk := hready.filed _ f hget
      exact hnone ⟨f, hf, hk, (deleted_iff_retired hready hconverged hf).mp
        ⟨c, hk ▸ hchange, hdelete⟩⟩
    obtain ⟨f, hf, -⟩ := kept_of_not_deleted he hkept
    exact Option.isSome_iff_exists.mpr ⟨f, hf⟩

/-- The intents of the next round are settled, whatever the state of the name. -/
theorem intent_after {s : Status} (hready : Ready localNames layout d)
    (hconverged : (passOf localNames domain layout d).tally.isConverged = true)
    (hagree : Agreeing localNames (mirror layout d) domain)
    (hs : (statesOf localNames domain layout
      (passOf localNames domain layout d).directory).get? name = some s) :
    (jobOf localNames domain layout (passOf localNames domain layout d).directory).intent
      (retainedOf localNames domain layout (passOf localNames domain layout d).directory) name s =
      .settled (.counted .unchanged) := by
  have hl := hready.canonical
  by_cases habsent : s = .absentLocally
  · subst habsent
    obtain ⟨hname, hunwanted⟩ := (absent_iff hl _ _ _ _).mp hs
    obtain ⟨r, hr⟩ := Registry.mem_names_iff.mp hname
    obtain ⟨f, hf, hk, -⟩ := exists_of_get?_mirror hr
    have hretained : ∃ m ∈ keysOf layout.schema f, Wanted localNames domain m :=
      (hready.told domain).exists_wanted_after hconverged (hready.leaves hf) hk
    rw [((hready.after domain).told domain).intent_absent hf hk, if_pos]
    exact List.contains_iff_mem.mpr ((mem_retained_iff (hready.after domain) hf).mpr hretained)
  · obtain ⟨a, hlocal, rfl⟩ := get?_reconcile_of_ne_absent hl hs habsent
    have ha : a ∈ localNames.toList := Registry.mem_toList_iff.mpr ⟨name, hlocal⟩
    obtain ⟨r, hr, b, hb, hshares, hdescription⟩ := exists_reached hready hconverged ha
    have hstate : stateOf (mirror layout (passOf localNames domain layout d).directory) domain a =
        .unchanged := by
      simp only [stateOf, hr]
      rw [if_pos (hdescription.trans (hagree a ha b hb hshares).symm)]
    rw [hstate]
    exact Job.intent_unchanged

private def salesLayout : Layout := ⟨"dc=x", {}⟩
private def sales : Registry := .ofList [.define "XE" "new" ""]
private def stale : DirectoryStore :=
  .ofList [⟨"dc=x", ∅⟩, salesLayout.newEntry "XE" "old", salesLayout.newEntry "OLD" "d"]

private def rootLayout : Layout := ⟨"", {}⟩
private def rootService : DirectoryStore :=
  .ofList [⟨"", .ofList [("objectClass", ["orclNetService"]), ("cn", ["ROOT"])]⟩,
    ⟨"cn=A", .ofList [("objectClass", ["orclNetService"]), ("cn", ["A"]),
      ("orclNetDescString", ["d"])]⟩]
private def rootNames : Registry := .ofList [.define "A" "d" ""]

end NetNames.Sync
