import NetNames.Proofs.Sync.Deletion
import NetNames.Proofs.Sync.Isolation

/-! A pass over a comparison carries out what the comparison says. No alias of it lacks an entry, so
each asks for the change of its status unless an earlier call has made the change or tried it, and
every failure goes back to a call on the entry of its own alias that was refused. -/
namespace NetNames.Sync
variable {σ : Type} [Directory σ] {j : Job} {c : Classification} {retained : List String}
  {calls : List Call} {p p' : Progress} {d d' : σ} {st : Step} {change : Change}

/-- Some entry of this name was added. -/
def Added (calls : List Call) (dn : String) : Prop :=
  ∃ dn' attributes, ⟨.add dn' attributes, none⟩ ∈ calls ∧ Dn.key dn' = Dn.key dn

/-- The deletion of this name was tried. -/
def Tried (calls : List Call) (dn : String) : Prop :=
  ∃ dn' refusal, ⟨.delete dn', refusal⟩ ∈ calls ∧ Dn.key dn' = Dn.key dn

/-- The name backs a published alias that is not absent. -/
def Job.Keeps (j : Job) (c : Classification) (dn : String) : Prop :=
  ∃ e ∈ j.published.toList, c.get? e.name ≠ some .absentLocally ∧ Dn.key e.source = Dn.key dn

/-- How an alias ends whose change was asked for. -/
def Call.outcome (s : Status) (call : Call) : Outcome :=
  match call.refusal with
  | none => .counted s
  | some e => .failed (.refused e)

/-- How an absent alias ends whose entry an earlier call tried to delete. -/
def sharedOutcome : Option DirectoryError → Outcome
  | none => .counted .absentLocally
  | some _ => .failed .sharedDeleteFailed

/-- What the step of an alias does after some calls, as the status of the alias has it. -/
inductive Fulfilled (j : Job) (c : Classification) (calls : List Call) : Step → Prop
  | unchanged (name : String) :
      Fulfilled j c calls ⟨name, .unchanged, none, .counted .unchanged⟩
  | add {name : String} {e : ServiceEntry} {call : Call} (he : j.localNames.get? name = some e)
      (hnot : ¬ Added calls (j.layout.entryDn (Alias.qualified name j.domain)))
      (hcall : call.change = .add (j.layout.entryDn (Alias.qualified name j.domain))
        (j.layout.newAttributes (Alias.qualified name j.domain) e.description)) :
      Fulfilled j c calls ⟨name, .new, some call, call.outcome .new⟩
  | added {name : String} {e : ServiceEntry} (he : j.localNames.get? name = some e)
      (hadded : Added calls (j.layout.entryDn (Alias.qualified name j.domain))) :
      Fulfilled j c calls ⟨name, .new, none, .counted .new⟩
  | replace {name : String} {e r : ServiceEntry} {call : Call}
      (he : j.localNames.get? name = some e)
      (hr : Alias.resolve name j.published j.domain = some r)
      (hcall : call.change =
        .replace r.source j.layout.schema.descriptorAttribute [e.description]) :
      Fulfilled j c calls ⟨name, .modified, some call, call.outcome .modified⟩
  | kept {name : String} {r : ServiceEntry} (hr : j.published.get? name = some r)
      (hkept : j.Keeps c r.source) :
      Fulfilled j c calls ⟨name, .absentLocally, none, .counted .unchanged⟩
  | delete {name : String} {r : ServiceEntry} {call : Call}
      (hr : j.published.get? name = some r) (hkept : ¬ j.Keeps c r.source)
      (hnot : ¬ Tried calls r.source) (hcall : call.change = .delete r.source) :
      Fulfilled j c calls ⟨name, .absentLocally, some call, call.outcome .absentLocally⟩
  | tried {name dn : String} {r : ServiceEntry} {refusal : Option DirectoryError}
      (hr : j.published.get? name = some r) (hkept : ¬ j.Keeps c r.source)
      (hcall : ⟨.delete dn, refusal⟩ ∈ calls) (hk : Dn.key dn = Dn.key r.source) :
      Fulfilled j c calls ⟨name, .absentLocally, none, sharedOutcome refusal⟩

namespace Progress.Records

theorem not_added (h : p.Records calls) {dn : String} {attributes : Attributes}
    (hp : p.settle (.add dn attributes) = .ask change) : ¬ Added calls dn :=
  fun hadded => Progress.not_added_of_settle hp ((h.added _).mpr hadded)

theorem added_of_settled (h : p.Records calls) {dn : String} {attributes : Attributes}
    {o : Outcome} (hp : p.settle (.add dn attributes) = .settled o) :
    Added calls dn ∧ o = .counted .new := by
  rw [Progress.settle] at hp
  split at hp
  · rename_i hk
    cases hp
    exact ⟨(h.added _).mp (List.contains_iff_mem.mp hk), rfl⟩
  · cases hp

theorem not_tried (h : p.Records calls) {dn : String}
    (hp : p.settle (.delete dn) = .ask change) : ¬ Tried calls dn := by
  rintro ⟨dn', refusal, hcall, hk⟩
  refine h.tried _ hcall dn' rfl ?_
  rw [hk]
  exact Progress.untried_of_settle hp

theorem tried_of_settled (h : p.Records calls) {dn : String} {o : Outcome}
    (hp : p.settle (.delete dn) = .settled o) :
    ∃ dn' refusal, ⟨.delete dn', refusal⟩ ∈ calls ∧ Dn.key dn' = Dn.key dn ∧
      o = sharedOutcome refusal := by
  rw [Progress.settle] at hp
  split at hp
  · rename_i hk
    obtain ⟨dn', refusal, hcall, hkey, hnone⟩ := h.deleted _ _ hk
    cases Option.isNone_iff_eq_none.mp hnone
    cases hp
    exact ⟨dn', none, hcall, hkey, rfl⟩
  · rename_i hk
    obtain ⟨dn', refusal, hcall, hkey, hsome⟩ := h.deleted _ _ hk
    cases hp
    cases refusal with
    | none => cases hsome
    | some e => exact ⟨dn', some e, hcall, hkey, rfl⟩
  · cases hp

end Progress.Records

/-- A step whose alias asks for a change makes the call or is spared it by the progress. -/
theorem Stepped.of_ask (h : Stepped j retained p d st p' d')
    (hi : j.intent retained st.name st.status = .ask change) :
    (∃ o, p.settle change = .settled o ∧ st = ⟨st.name, st.status, none, o⟩) ∨
    ∃ call : Call, call.change = change ∧ p.settle change = .ask change ∧
      st = ⟨st.name, st.status, some call, call.outcome st.status⟩ := by
  cases h with
  | settled h =>
    rw [h] at hi
    cases hi
  | spared h hp =>
    cases h.symm.trans hi
    exact .inl ⟨_, hp, rfl⟩
  | done h hp =>
    cases h.symm.trans hi
    exact .inr ⟨_, rfl, hp, rfl⟩
  | refused h hp =>
    cases h.symm.trans hi
    exact .inr ⟨_, rfl, hp, rfl⟩

theorem Stepped.of_settled {o : Outcome} (h : Stepped j retained p d st p' d')
    (hi : j.intent retained st.name st.status = .settled o) :
    st = ⟨st.name, st.status, none, o⟩ := by
  cases h with
  | settled h =>
    cases h.symm.trans hi
    rfl
  | spared h =>
    rw [h] at hi
    cases hi
  | done h =>
    rw [h] at hi
    cases hi
  | refused h =>
    rw [h] at hi
    cases hi

/-- After a comparison every step does what the status of its alias says. -/
theorem Stepped.fulfilled (hl : j.localNames.Canonical)
    (hc : c = reconcile j.localNames j.published j.domain)
    (h : Stepped j (j.retained c) p d st p' d') (hs : c.get? st.name = some st.status)
    (hp : p.Records calls) : Fulfilled j c calls st := by
  obtain ⟨name, s, call, o⟩ := st
  have hstate := hc ▸ hs
  dsimp only at hs hstate
  cases s with
  | unchanged =>
    rw [h.of_settled Job.intent_unchanged]
    exact .unchanged name
  | skip => exact absurd hstate (get?_reconcile_ne_skip hl _ _ _)
  | new =>
    obtain ⟨e, he, -⟩ := get?_reconcile_of_ne_absent hl hstate (by simp)
    rcases h.of_ask (Job.intent_new he) with ⟨o, hsettle, hst⟩ | ⟨call, hcall, hsettle, hst⟩
    · obtain ⟨hadded, rfl⟩ := hp.added_of_settled hsettle
      rw [hst]
      exact .added he hadded
    · rw [hst]
      exact .add he (hp.not_added hsettle) hcall
  | modified =>
    obtain ⟨e, he, hjudged⟩ := get?_reconcile_of_ne_absent hl hstate (by simp)
    obtain ⟨r, hr, -⟩ := stateOf_eq_modified_iff.mp hjudged.symm
    rw [(hl name e he).1] at hr
    rcases h.of_ask (Job.intent_modified he hr) with ⟨o, hsettle, -⟩ | ⟨call, hcall, -, hst⟩
    · cases hsettle
    · rw [hst]
      exact .replace he hr hcall
  | absentLocally =>
    obtain ⟨r, hr⟩ := Registry.mem_names_iff.mp ((get?_reconcile_absent hl).mp hstate).2.2
    have hkeeps : (j.retained c).contains (Dn.key r.source) = true ↔ j.Keeps c r.source :=
      List.contains_iff_mem.trans Job.mem_retained_iff
    by_cases hkept : j.Keeps c r.source
    · have hi : j.intent (j.retained c) name .absentLocally = .settled (.counted .unchanged) := by
        rw [Job.intent_absent hr, if_pos (hkeeps.mpr hkept)]
      rw [h.of_settled hi]
      exact .kept hr hkept
    · have hi : j.intent (j.retained c) name .absentLocally = .ask (.delete r.source) := by
        rw [Job.intent_absent hr, if_neg fun hcontains => hkept (hkeeps.mp hcontains)]
      rcases h.of_ask hi with ⟨o, hsettle, hst⟩ | ⟨call, hcall, hsettle, hst⟩
      · obtain ⟨dn, refusal, hmem, hk, rfl⟩ := hp.tried_of_settled hsettle
        rw [hst]
        exact .tried hr hkept hmem hk
      · rw [hst]
        exact .delete hr hkept (hp.not_tried hsettle) hcall

namespace Fulfilled

theorem found (h : Fulfilled j c calls st) :
    st.outcome ≠ .failed .noLocalEntry ∧ st.outcome ≠ .failed .missingOnOneSide ∧
      st.outcome ≠ .failed .noDirectoryEntry := by
  have called : ∀ (s : Status) (call : Call), call.outcome s ≠ .failed .noLocalEntry ∧
      call.outcome s ≠ .failed .missingOnOneSide ∧ call.outcome s ≠ .failed .noDirectoryEntry := by
    rintro s ⟨change, _ | e⟩ <;> simp [Call.outcome]
  cases h with
  | unchanged => simp
  | add => exact called _ _
  | added => simp
  | replace => exact called _ _
  | kept => simp
  | delete => exact called _ _
  | @tried _ _ _ refusal => cases refusal <;> simp [sharedOutcome]

/-- A failure has a target, and a call on the target was refused: the one that the alias made, or
the deletion of the entry that it shares. -/
theorem refused (h : Fulfilled j c calls st) {why : Reason} (ho : st.outcome = .failed why) :
    ∃ dn call e, j.target? st.name st.status = some dn ∧ call ∈ calls ++ st.call.toList ∧
      call.refusal = some e ∧ Dn.key call.change.dn = Dn.key dn ∧
      (st.call = some call ∧ call.change.dn = dn ∧ why = .refused e ∨
        st.status = .absentLocally ∧ call.change.operation = .delete ∧
          why = .sharedDeleteFailed) := by
  have called : ∀ {s : Status} {call : Call}, call.outcome s = .failed why →
      ∃ e, call.refusal = some e ∧ why = .refused e := by
    rintro s ⟨change, _ | e⟩ ho
    · cases ho
    · cases ho
      exact ⟨e, rfl, rfl⟩
  cases h with
  | unchanged => cases ho
  | @add _ _ call he _ hcall =>
    obtain ⟨e, hrefusal, rfl⟩ := called ho
    exact ⟨_, call, e, by rw [hcall]; rfl, by simp, hrefusal, rfl, .inl ⟨rfl, rfl, rfl⟩⟩
  | added => cases ho
  | @replace name _ r call he hr hcall =>
    obtain ⟨e, hrefusal, rfl⟩ := called ho
    refine ⟨_, call, e, ?_, by simp, hrefusal, rfl, .inl ⟨rfl, rfl, rfl⟩⟩
    rw [Job.target?, hr, hcall]
    rfl
  | kept => cases ho
  | @delete name r call hr _ _ hcall =>
    obtain ⟨e, hrefusal, rfl⟩ := called ho
    refine ⟨_, call, e, ?_, by simp, hrefusal, rfl, .inl ⟨rfl, rfl, rfl⟩⟩
    rw [Job.target?, hr, hcall]
    rfl
  | @tried name dn r refusal hr _ hcall hk =>
    cases refusal with
    | none => cases ho
    | some e =>
      cases ho
      refine ⟨r.source, _, e, ?_, List.mem_append_left _ hcall, rfl, hk, .inr ⟨rfl, rfl, rfl⟩⟩
      rw [Job.target?, hr]
      rfl

end Fulfilled

/-- The steps of a pass over a comparison, each after the calls of the steps before it. -/
theorem fulfilled_apply (hl : j.localNames.Canonical)
    (hc : c = reconcile j.localNames j.published j.domain) (d : σ) {before after : List Step}
    (hsteps : (apply j c d).value.steps = before ++ st :: after) :
    Fulfilled j c (callsOf before) st := by
  obtain ⟨p, hran, -⟩ := exists_ran_apply j c d
  have hmem : st ∈ (apply j c d).value.steps := hsteps ▸ List.mem_append_cons_self
  rw [hsteps] at hran
  obtain ⟨q, m, hbefore, hafter⟩ := hran.split_append
  cases hafter with
  | cons hs _ =>
    exact hs.fulfilled hl hc (state_of_mem_steps hmem) (Progress.Records.start.run hbefore)

private def ferryJob : Job :=
  ⟨.ofList [.define "XE" "new" "", .define "DB" "d" "", .define "DB.LOCAL" "d" ""],
    .ofList [.define "XE.LOCAL" "old" "cn=XE.LOCAL,dc=x", .define "BYNAME" "old" "cn=XE.LOCAL,dc=x",
      .define "OLD" "o" "cn=OLD,dc=x", .define "OLDER" "o" "cn=OLD,dc=x"], "local", ⟨"dc=x", {}⟩⟩
private def ferries : DirectoryStore :=
  (DirectoryStore.ofList [⟨"cn=XE.LOCAL,dc=x", ∅⟩, ⟨"cn=OLD,dc=x", ∅⟩]).refuse .delete "cn=OLD,dc=x"

end NetNames.Sync
