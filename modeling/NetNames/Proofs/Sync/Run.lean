import NetNames.Sync.Pass
import NetNames.Proofs.Registry.Canonical

/-! What a pass does, step by step. An alias has an intent of its own; the progress of the pass only
decides whether an added or deleted name is asked for again. Every later statement about a pass
goes by the three things that a step can do, and by the calls that a run carries out. -/
namespace NetNames.Sync
variable {σ : Type} [Directory σ]

/-- Whether a change is still to be asked for: an entry is added once, and its deletion is tried
once. -/
def Progress.settle (p : Progress) (c : Change) : Decision :=
  match c with
  | .add dn _ => if p.added.contains (Dn.key dn) then .settled (.counted .new) else .ask c
  | .replace _ _ _ => .ask c
  | .delete dn =>
    match p.deleted.lookup (Dn.key dn) with
    | some true => .settled (.counted .absentLocally)
    | some false => .settled (.failed .sharedDeleteFailed)
    | none => .ask c

namespace Job
variable {j : Job} {retained : List String} {name : String} {s : Status} {c : Change}

/-- What an alias asks for by itself, as if no other had been handled before it. -/
def intent (j : Job) (retained : List String) (name : String) (s : Status) : Decision :=
  (j.decision retained {} name s).value

theorem intent_unchanged : j.intent retained name .unchanged = .settled (.counted .unchanged) := rfl

theorem value_decideNew (j : Job) (p : Progress) (name : String) :
    (j.decideNew p name).value = match (j.localEntry name).value with
      | none => .settled (.failed .noLocalEntry)
      | some e => p.settle (.add (j.layout.entryDn (Alias.qualified name j.domain))
          (j.layout.newAttributes (Alias.qualified name j.domain) e.description)) := by
  rw [decideNew, Logged.value_bind]
  cases (j.localEntry name).value with
  | none => rfl
  | some e =>
    dsimp only [Progress.settle]
    split <;> rfl

theorem value_decideModified (j : Job) (name : String) :
    (j.decideModified name).value =
      match (Alias.resolve name j.published j.domain).or (j.published.get? name),
        (j.localEntry name).value with
      | some t, some e =>
        .ask (.replace t.source j.layout.schema.descriptorAttribute [e.description])
      | _, _ => .settled (.failed .missingOnOneSide) := by
  rw [decideModified, Logged.value_bind, Alias.value_resolveLogged, Logged.value_bind]
  cases (Alias.resolve name j.published j.domain).or (j.published.get? name) with
  | none => rfl
  | some t => cases (j.localEntry name).value <;> rfl

theorem value_decideAbsent (j : Job) (retained : List String) (p : Progress) (name : String) :
    (j.decideAbsent retained p name).value =
      match (j.published.get? name).or (Alias.resolve name j.published j.domain) with
      | none => .settled (.failed .noDirectoryEntry)
      | some e =>
        if retained.contains (Dn.key e.source) then .settled (.counted .unchanged)
        else p.settle (.delete e.source) := by
  rw [decideAbsent]
  cases j.published.get? name with
  | some e =>
    rw [Option.some_or, Logged.value_bind, Logged.value_pure]
    dsimp only [Progress.settle]
    split
    · rfl
    · rcases p.deleted.lookup (Dn.key e.source) with _ | _ | _ <;> rfl
  | none =>
    rw [Option.none_or, Logged.value_bind, Alias.value_resolveLogged]
    cases Alias.resolve name j.published j.domain with
    | none => rfl
    | some e =>
      dsimp only [Progress.settle]
      split
      · rfl
      · rcases p.deleted.lookup (Dn.key e.source) with _ | _ | _ <;> rfl

theorem value_decision (j : Job) (retained : List String) (p : Progress) (name : String)
    (s : Status) : (j.decision retained p name s).value =
      match j.intent retained name s with
      | .settled o => .settled o
      | .ask c => p.settle c := by
  cases s with
  | unchanged => rfl
  | skip => rfl
  | new =>
    simp only [intent, decision, value_decideNew]
    cases (j.localEntry name).value <;> rfl
  | modified =>
    simp only [intent, decision, value_decideModified]
    cases (Alias.resolve name j.published j.domain).or (j.published.get? name) with
    | none => rfl
    | some t => cases (j.localEntry name).value <;> rfl
  | absentLocally =>
    simp only [intent, decision, value_decideAbsent]
    cases (j.published.get? name).or (Alias.resolve name j.published j.domain) with
    | none => rfl
    | some e =>
      dsimp only
      split <;> rfl

theorem intent_new {e : ServiceEntry} (h : j.localNames.get? name = some e) :
    j.intent retained name .new = .ask (.add (j.layout.entryDn (Alias.qualified name j.domain))
      (j.layout.newAttributes (Alias.qualified name j.domain) e.description)) := by
  simp only [intent, decision, value_decideNew, localEntry, h]
  rfl

theorem intent_modified {e r : ServiceEntry} (h : j.localNames.get? name = some e)
    (hr : Alias.resolve name j.published j.domain = some r) :
    j.intent retained name .modified =
      .ask (.replace r.source j.layout.schema.descriptorAttribute [e.description]) := by
  simp only [intent, decision, value_decideModified, localEntry, h, hr]
  rfl

theorem intent_absent {r : ServiceEntry} (h : j.published.get? name = some r) :
    j.intent retained name .absentLocally =
      if retained.contains (Dn.key r.source) then .settled (.counted .unchanged)
      else .ask (.delete r.source) := by
  simp only [intent, decision, value_decideAbsent, h]
  rfl

/-- What an alias of some status can ask for. -/
inductive Asks (j : Job) (retained : List String) (name : String) : Status → Change → Prop
  | add {e : ServiceEntry} (h : (j.localEntry name).value = some e) :
      Asks j retained name .new (.add (j.layout.entryDn (Alias.qualified name j.domain))
        (j.layout.newAttributes (Alias.qualified name j.domain) e.description))
  | replace {t e : ServiceEntry}
      (ht : (Alias.resolve name j.published j.domain).or (j.published.get? name) = some t)
      (he : (j.localEntry name).value = some e) :
      Asks j retained name .modified
        (.replace t.source j.layout.schema.descriptorAttribute [e.description])
  | delete {e : ServiceEntry}
      (h : (j.published.get? name).or (Alias.resolve name j.published j.domain) = some e)
      (hr : Dn.key e.source ∉ retained) : Asks j retained name .absentLocally (.delete e.source)

theorem asks_of_intent (h : j.intent retained name s = .ask c) : j.Asks retained name s c := by
  cases s with
  | unchanged => cases h
  | skip => cases h
  | new =>
    simp only [intent, decision, value_decideNew] at h
    split at h
    · cases h
    · rename_i e he
      cases h
      exact .add he
  | modified =>
    simp only [intent, decision, value_decideModified] at h
    split at h
    · rename_i t e ht he
      cases h
      exact .replace ht he
    · cases h
  | absentLocally =>
    simp only [intent, decision, value_decideAbsent] at h
    split at h
    · cases h
    · rename_i e he
      split at h
      · cases h
      · rename_i hr
        cases h
        exact .delete he (by simpa using hr)

end Job

theorem Progress.settle_ask {p : Progress} {c c' : Change} (h : p.settle c = .ask c') :
    c' = c := by
  cases c with
  | add dn attributes =>
    rw [settle] at h
    split at h
    · cases h
    · cases h
      rfl
  | replace dn name values =>
    cases h
    rfl
  | delete dn =>
    rw [settle] at h
    split at h
    · cases h
    · cases h
    · cases h
      rfl

theorem Progress.not_added_of_settle {p : Progress} {c : Change} {dn : String}
    {attributes : Attributes}
    (h : p.settle (.add dn attributes) = .ask c) : Dn.key dn ∉ p.added := by
  intro hadded
  rw [settle, if_pos (List.contains_iff_mem.mpr hadded)] at h
  cases h

theorem Progress.untried_of_settle {p : Progress} {c : Change} {dn : String}
    (h : p.settle (.delete dn) = .ask c) : p.deleted.lookup (Dn.key dn) = none := by
  rw [settle] at h
  split at h
  · cases h
  · cases h
  · assumption

/-- What one step can do: its intent is settled already, it is spared by the steps before, or its
change is asked for and is done or refused. -/
inductive Stepped (j : Job) (retained : List String) (p : Progress) (d : σ) :
    Step → Progress → σ → Prop
  | settled {name : String} {s : Status} {o : Outcome}
      (h : j.intent retained name s = .settled o) : Stepped j retained p d ⟨name, s, none, o⟩ p d
  | spared {name : String} {s : Status} {c : Change} {o : Outcome}
      (h : j.intent retained name s = .ask c) (hp : p.settle c = .settled o) :
      Stepped j retained p d ⟨name, s, none, o⟩ p d
  | done {name : String} {s : Status} {c : Change} {d' : σ}
      (h : j.intent retained name s = .ask c) (hp : p.settle c = .ask c)
      (hd : (Directory.perform c d).value = (.ok (), d')) :
      Stepped j retained p d ⟨name, s, some ⟨c, none⟩, .counted s⟩ (p.note c true) d'
  | refused {name : String} {s : Status} {c : Change} {e : DirectoryError} {d' : σ}
      (h : j.intent retained name s = .ask c) (hp : p.settle c = .ask c)
      (hd : (Directory.perform c d).value = (.error e, d')) :
      Stepped j retained p d ⟨name, s, some ⟨c, some e⟩, .failed (.refused e)⟩ (p.note c false) d'

/-- A step by its intent, the progress so far and the reply of the directory. -/
theorem value_step (j : Job) (retained : List String) (p : Progress) (d : σ) (name : String)
    (s : Status) : (step j retained p d name s).value =
      match j.intent retained name s with
      | .settled o => (⟨name, s, none, o⟩, p, d)
      | .ask c =>
        match p.settle c with
        | .settled o => (⟨name, s, none, o⟩, p, d)
        | .ask _ =>
          match (Directory.perform c d).value with
          | (.ok _, d') => (⟨name, s, some ⟨c, none⟩, .counted s⟩, p.note c true, d')
          | (.error e, d') =>
            (⟨name, s, some ⟨c, some e⟩, .failed (.refused e)⟩, p.note c false, d') := by
  rw [step, Logged.value_bind, j.value_decision]
  cases j.intent retained name s with
  | settled o => rfl
  | ask c =>
    dsimp only
    cases hp : p.settle c with
    | settled o => rfl
    | ask c' =>
      cases Progress.settle_ask hp
      dsimp only
      rw [Logged.value_bind]
      rcases (Directory.perform c d).value with ⟨_ | _, d'⟩ <;> rfl

theorem stepped_step (j : Job) (retained : List String) (p : Progress) (d : σ) (name : String)
    (s : Status) : ∃ st p' d', (step j retained p d name s).value = (st, p', d') ∧
      st.name = name ∧ st.status = s ∧ Stepped j retained p d st p' d' := by
  rw [value_step]
  cases hi : j.intent retained name s with
  | settled o => exact ⟨_, _, _, rfl, rfl, rfl, .settled hi⟩
  | ask c =>
    dsimp only
    cases hp : p.settle c with
    | settled o => exact ⟨_, _, _, rfl, rfl, rfl, .spared hi hp⟩
    | ask c' =>
      cases Progress.settle_ask hp
      rcases hd : (Directory.perform c d).value with ⟨_ | _, d'⟩
      · exact ⟨_, _, _, rfl, rfl, rfl, .refused hi hp hd⟩
      · exact ⟨_, _, _, rfl, rfl, rfl, .done hi hp hd⟩

/-- A run of steps from some progress and directory to others. -/
inductive Ran (j : Job) (retained : List String) :
    Progress → σ → List Step → Progress → σ → Prop
  | nil {p : Progress} {d : σ} : Ran j retained p d [] p d
  | cons {p p' p'' : Progress} {d d' d'' : σ} {st : Step} {rest : List Step}
      (h : Stepped j retained p d st p' d') (hr : Ran j retained p' d' rest p'' d'') :
      Ran j retained p d (st :: rest) p'' d''

theorem ran_stepAll (j : Job) (retained : List String) (states : List (String × Status))
    (p : Progress) (d : σ) : ∃ steps p' d', (stepAll j retained p d states).value = (steps, d') ∧
      steps.map (fun s => (s.name, s.status)) = states ∧ Ran j retained p d steps p' d' := by
  induction states generalizing p d with
  | nil => exact ⟨[], p, d, rfl, rfl, .nil⟩
  | cons x rest ih =>
    obtain ⟨name, s⟩ := x
    obtain ⟨st, p', d', hstep, hname, hstatus, hst⟩ := stepped_step j retained p d name s
    obtain ⟨more, p'', d'', hmore, hmap, hran⟩ := ih p' d'
    refine ⟨st :: more, p'', d'', ?_, ?_, .cons hst hran⟩
    · rw [stepAll, Logged.value_bind, hstep]
      dsimp only
      rw [Logged.value_bind, hmore]
      rfl
    · rw [List.map_cons, hmap, hname, hstatus]

/-- The calls that a directory answers one after another, each with the refusal that it got. -/
inductive Carried : σ → List Call → σ → Prop
  | nil {d : σ} : Carried d [] d
  | done {d d' d'' : σ} {c : Change} {calls : List Call}
      (h : (Directory.perform c d).value = (.ok (), d')) (hr : Carried d' calls d'') :
      Carried d (⟨c, none⟩ :: calls) d''
  | refused {d d' d'' : σ} {c : Change} {e : DirectoryError} {calls : List Call}
      (h : (Directory.perform c d).value = (.error e, d')) (hr : Carried d' calls d'') :
      Carried d (⟨c, some e⟩ :: calls) d''

theorem mem_callsOf {steps : List Step} {call : Call} :
    call ∈ callsOf steps ↔ ∃ st ∈ steps, st.call = some call :=
  List.mem_filterMap

theorem callsOf_cons (st : Step) (rest : List Step) :
    callsOf (st :: rest) = st.call.toList ++ callsOf rest := by
  rw [callsOf, callsOf, List.filterMap_cons]
  cases st.call <;> rfl

theorem callsOf_append (before after : List Step) :
    callsOf (before ++ after) = callsOf before ++ callsOf after :=
  List.filterMap_append

namespace Ran
variable {j : Job} {retained : List String} {p p' : Progress} {d d' : σ} {steps : List Step}

theorem split_append {before after : List Step} (h : Ran j retained p d (before ++ after) p' d') :
    ∃ q m, Ran j retained p d before q m ∧ Ran j retained q m after p' d' := by
  induction before generalizing p d with
  | nil => exact ⟨p, d, .nil, h⟩
  | cons st before ih =>
    cases h with
    | cons hst hr =>
      obtain ⟨q, m, hbefore, hafter⟩ := ih hr
      exact ⟨q, m, .cons hst hbefore, hafter⟩

theorem carried (h : Ran j retained p d steps p' d') : Carried d (callsOf steps) d' := by
  induction h with
  | nil => exact .nil
  | cons hst _ ih =>
    rw [callsOf_cons]
    cases hst with
    | settled => exact ih
    | spared => exact ih
    | done _ _ hd => exact .done hd ih
    | refused _ _ hd => exact .refused hd ih

/-- Every call of a run is what its alias asks for. -/
theorem asks (h : Ran j retained p d steps p' d') {st : Step} (hst : st ∈ steps) {call : Call}
    (hcall : st.call = some call) : j.Asks retained st.name st.status call.change := by
  obtain ⟨before, after, rfl⟩ := List.append_of_mem hst
  obtain ⟨q, m, -, hr⟩ := h.split_append
  cases hr with
  | cons hs _ =>
    cases hs with
    | settled => cases hcall
    | spared => cases hcall
    | done hi =>
      cases hcall
      exact Job.asks_of_intent hi
    | refused hi =>
      cases hcall
      exact Job.asks_of_intent hi

end Ran

/-- A whole pass runs over the states of its classification. -/
theorem exists_ran_apply (j : Job) (c : Classification) (d : σ) :
    ∃ p, Ran j (j.retained c) {} d (apply j c d).value.steps p (apply j c d).value.directory ∧
      (apply j c d).value.steps.map (fun s => (s.name, s.status)) = c.toList := by
  obtain ⟨steps, p, d', hall, hmap, hran⟩ := ran_stepAll j (j.retained c) c.toList {} d
  have hvalue : (apply j c d).value = ⟨steps, d'⟩ := by
    rw [apply, Logged.value_bind, hall]
    rfl
  rw [hvalue]
  exact ⟨p, hran, hmap⟩

/-- Every alias of the classification has a step of its own. -/
theorem exists_step_of_state {j : Job} {c : Classification} {d : σ} {name : String} {s : Status}
    (h : c.get? name = some s) :
    ∃ st ∈ (apply j c d).value.steps, st.name = name ∧ st.status = s := by
  obtain ⟨p, -, hmap⟩ := exists_ran_apply j c d
  have hmem : (name, s) ∈ c.toList := Keyed.mem_entries_iff.mpr h
  rw [← hmap] at hmem
  obtain ⟨st, hst, heq⟩ := List.mem_map.mp hmem
  cases heq
  exact ⟨st, hst, rfl, rfl⟩

theorem state_of_mem_steps {j : Job} {c : Classification} {d : σ} {st : Step}
    (h : st ∈ (apply j c d).value.steps) : c.get? st.name = some st.status := by
  obtain ⟨p, -, hmap⟩ := exists_ran_apply j c d
  have hmem : (st.name, st.status) ∈ c.toList :=
    hmap ▸ List.mem_map_of_mem (f := fun s : Step => (s.name, s.status)) h
  exact Keyed.mem_entries_iff.mp hmem

/-- The aliases are handled in the order of their names. -/
theorem ascending_steps (j : Job) (c : Classification) (d : σ) :
    (apply j c d).value.steps.Pairwise fun a b => a.name < b.name := by
  obtain ⟨p, -, hmap⟩ := exists_ran_apply j c d
  have hascending : c.toList.Pairwise fun a b => a.1 < b.1 := c.states.ascending
  rw [← hmap] at hascending
  exact (List.pairwise_map.mp hascending).imp fun h => h

theorem carried_apply (j : Job) (c : Classification) (d : σ) :
    Carried d (apply j c d).value.calls (apply j c d).value.directory := by
  obtain ⟨p, hran, -⟩ := exists_ran_apply j c d
  exact hran.carried

/-- A call of a pass is what an alias asks for in the state that the classification gives it. -/
theorem asks_of_mem_calls {j : Job} {c : Classification} {d : σ} {call : Call}
    (h : call ∈ (apply j c d).value.calls) :
    ∃ name s, c.get? name = some s ∧ j.Asks (j.retained c) name s call.change := by
  obtain ⟨p, hran, -⟩ := exists_ran_apply j c d
  obtain ⟨st, hst, hcall⟩ := mem_callsOf.mp h
  exact ⟨st.name, st.status, state_of_mem_steps hst, hran.asks hst hcall⟩

end NetNames.Sync
