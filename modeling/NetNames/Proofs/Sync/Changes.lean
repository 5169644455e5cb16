import NetNames.Proofs.Sync.Idempotence

/-! What a plan reports and what a pass then asks for. An absent alias whose entry backs an alias
that is kept is reported as a change but asks for nothing; with that exception the changes of a plan
are what the directory is asked about. -/
namespace NetNames.Sync

namespace Plan

def job (p : Plan) (layout : Layout) : Job := ⟨p.localNames, p.published, p.domain, layout⟩

/-- A plan whose states compare its registries. -/
structure Compares (p : Plan) : Prop where
  canonical : p.localNames.Canonical
  states : p.states = reconcile p.localNames p.published p.domain

/-- A published alias whose entry also backs an alias that is not absent. -/
def Backed (p : Plan) (name : String) : Prop :=
  ∃ r, p.published.get? name = some r ∧ ∃ s ∈ p.published.toList,
    p.states.get? s.name ≠ some .absentLocally ∧ Dn.key s.source = Dn.key r.source

theorem mem_changes_iff {p : Plan} {name : String} {s : Status} :
    (name, s) ∈ p.changes ↔ p.states.get? name = some s ∧ s ≠ .unchanged := by
  rw [changes, List.mem_filter, bne_iff_ne]
  exact and_congr_left fun _ => Keyed.mem_entries_iff

end Plan

variable {σ : Type} [Directory σ]

section NoCalls
variable {j : Job} {retained : List String} {p : Progress} {d d' : σ} {steps : List Step}

/-- In a run without calls every step is settled from the start. -/
theorem Ran.settled_of_no_calls (h : Ran j retained {} d steps p d') (hcalls : callsOf steps = [])
    {st : Step} (hst : st ∈ steps) : ∃ o, j.intent retained st.name st.status = .settled o := by
  have hnone : ∀ {call}, st.call = some call → False := by
    intro call hcall
    have hmem := mem_callsOf.mpr ⟨st, hst, hcall⟩
    rw [hcalls] at hmem
    cases hmem
  obtain ⟨before, after, rfl⟩ := List.append_of_mem hst
  have hbefore : callsOf before = [] := by
    rw [callsOf_append] at hcalls
    exact (List.append_eq_nil_iff.mp hcalls).1
  cases h.accounted with
  | settled h' => exact ⟨_, h'⟩
  | done => exact (hnone rfl).elim
  | refused => exact (hnone rfl).elim
  | added _ hc =>
    rw [hbefore] at hc
    cases hc
  | deleted _ hc =>
    rw [hbefore] at hc
    cases hc
  | undeleted _ hc =>
    rw [hbefore] at hc
    cases hc

end NoCalls

theorem Carried.eq_of_nil {d d' : σ} (h : Carried d [] d') : d' = d := by
  cases h
  rfl

/-- A pass that makes no call leaves its directory as it is. -/
theorem directory_of_no_calls {j : Job} {c : Classification} {d : σ}
    (h : (apply j c d).value.calls = []) : (apply j c d).value.directory = d :=
  (h ▸ carried_apply j c d : Carried d [] _).eq_of_nil

namespace Plan
variable {p : Plan} {layout : Layout} {name : String} {s : Status}

theorem mem_retained_iff {r : ServiceEntry} (layout : Layout)
    (hr : p.published.get? name = some r) :
    Dn.key r.source ∈ (p.job layout).retained p.states ↔ p.Backed name := by
  rw [Job.mem_retained_iff, Backed]
  constructor
  · exact fun hkept => ⟨r, hr, hkept⟩
  · rintro ⟨r', hr', hkept⟩
    cases hr.symm.trans hr'
    exact hkept

/-- A change asks for nothing by itself if the entry of the alias backs another one that is kept,
else it asks for a call. -/
theorem Compares.settled_iff (h : p.Compares) (hs : p.states.get? name = some s)
    (hchange : s ≠ .unchanged) :
    (∃ o, (p.job layout).intent ((p.job layout).retained p.states) name s = .settled o) ↔
      s = .absentLocally ∧ p.Backed name := by
  have hl := h.canonical
  have hstate := hs
  rw [h.states] at hstate
  cases s with
  | unchanged => exact absurd rfl hchange
  | new =>
    obtain ⟨e, he, -⟩ := get?_reconcile_of_ne_absent hl hstate (by simp)
    rw [Job.intent_new (j := p.job layout) he]
    simp
  | modified =>
    obtain ⟨e, he, hjudged⟩ := get?_reconcile_of_ne_absent hl hstate (by simp)
    obtain ⟨r, hr, -⟩ := stateOf_eq_modified_iff.mp hjudged.symm
    rw [(hl name e he).1] at hr
    rw [Job.intent_modified (j := p.job layout) he hr]
    simp
  | skip => exact absurd hstate (get?_reconcile_ne_skip hl _ _ _)
  | absentLocally =>
    obtain ⟨r, hr⟩ := Registry.mem_names_iff.mp ((get?_reconcile_absent hl).mp hstate).2.2
    rw [Job.intent_absent (j := p.job layout) hr, ← mem_retained_iff layout hr]
    split
    · rename_i hcontains
      simpa using hcontains
    · rename_i hcontains
      simpa using hcontains

end Plan

/-- A pass makes no call if and only if every change of its plan is an absent alias whose entry
backs another one. -/
theorem Plan.Compares.calls_eq_nil_iff {p : Plan} (h : p.Compares) (layout : Layout) (d : σ) :
    (apply (p.job layout) p.states d).value.calls = [] ↔
      ∀ name s, (name, s) ∈ p.changes → s = .absentLocally ∧ p.Backed name := by
  obtain ⟨q, hran, -⟩ := exists_ran_apply (p.job layout) p.states d
  constructor
  · intro hcalls name s hmem
    obtain ⟨hs, hchange⟩ := Plan.mem_changes_iff.mp hmem
    obtain ⟨st, hst, rfl, rfl⟩ := exists_step_of_state (j := p.job layout) (d := d) hs
    exact (h.settled_iff hs hchange).mp (hran.settled_of_no_calls hcalls hst)
  · intro hbacked
    refine (hran.idle fun st hst => ?_).1
    have hs := state_of_mem_steps hst
    by_cases hchange : st.status = .unchanged
    · rw [hchange]
      exact ⟨_, Job.intent_unchanged⟩
    · exact (h.settled_iff hs hchange).mpr (hbacked _ _ (Plan.mem_changes_iff.mpr ⟨hs, hchange⟩))

theorem compares_of_plan {t : FileTree} {settings : Settings} {d d' : σ} {p : Plan}
    (h : (plan t settings d).value = (.ok p, d')) : p.Compares := by
  obtain ⟨domain, localNames, published, -, hlocal, -, rfl⟩ := plan_ok_iff.mp h
  exact ⟨canonical_loadLocal hlocal, rfl⟩

-- The names file holds the text P=p.
private def chartTree : FileTree := ⟨["w"], [(["w", "names"], .file [80, 61, 112])]⟩
private def chartSettings : Settings :=
  { names := { file := "names", defaultDomain := some "" }
    server := { url := "ldap://h", baseDn := "dc=x", context := "" } }
private def charts : DirectoryStore :=
  .ofList [⟨"dc=x", ∅⟩, ⟨"cn=P,dc=x", .ofList [("objectClass", ["orclNetService"]), ("cn", ["P"]),
    ("orclNetDescString", ["p"]), ("aliasedObjectName", ["cn=OLD,dc=x"])]⟩]
private def chartsFound : List DirectoryEntry :=
  (chartSettings.layout.services charts).map (·.project chartSettings.layout.search.attributes)
private def chartNames : Registry := .ofList [.define "P" "p" "names"]
private def chartsPublished : Registry := Published.ofEntries {} chartsFound
private def chartPlan : Plan :=
  ⟨chartNames, chartsPublished, "", reconcile chartNames chartsPublished ""⟩

private theorem value_read_charts :
    (Published.read chartSettings.layout charts).value = (.ok chartsPublished, charts) := by
  have hfind : charts.find chartSettings.layout.search = .ok chartsFound :=
    Layout.find_search Schema.usable_default (by decide +kernel) (by decide +kernel)
  rw [Published.value_read, hfind]
  rfl

end NetNames.Sync
