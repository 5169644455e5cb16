import NetNames.Proofs.Directory.Services
import NetNames.Proofs.Sync.History
import NetNames.Sync.Reconcile

/-! What happens to one entry depends on that entry alone. Two directories that hold the same under
a key, and refuse the same operations on it, go through a pass alike wherever it concerns that key;
what they hold or refuse elsewhere has no part in it. -/
namespace NetNames

namespace DirectoryStore
variable {k : String} {d d' d'' : DirectoryStore} {c : Change}

/-- Two directories that hold the same under a key and refuse the same operations on it. -/
structure AgreesAt (k : String) (d d' : DirectoryStore) : Prop where
  entry : d'.entries.get? k = d.entries.get? k
  refusals : ∀ operation, (operation, k) ∈ d'.refusals ↔ (operation, k) ∈ d.refusals

namespace AgreesAt

theorem refl (k : String) (d : DirectoryStore) : AgreesAt k d d := ⟨rfl, fun _ => .rfl⟩

theorem trans (h : AgreesAt k d d') (h' : AgreesAt k d' d'') : AgreesAt k d d'' :=
  ⟨h'.entry.trans h.entry, fun operation => (h'.refusals operation).trans (h.refusals operation)⟩

theorem symm (h : AgreesAt k d d') : AgreesAt k d' d :=
  ⟨h.entry.symm, fun operation => (h.refusals operation).symm⟩

theorem of_perform (d : DirectoryStore) (hk : Dn.key c.dn ≠ k) : AgreesAt k d (d.perform c).2 :=
  ⟨get?_perform_of_ne (Ne.symm hk), fun _ => by rw [refusals_perform]⟩

private theorem changed (h : AgreesAt (Dn.key c.dn) d d') :
    (d'.changed c).map (·.get? (Dn.key c.dn)) = (d.changed c).map (·.get? (Dn.key c.dn)) := by
  have hget : d'.get? c.dn = d.get? c.dn := h.entry
  have hcontains : d'.contains c.dn = d.contains c.dn := congrArg Option.isSome h.entry
  cases c with
  | add dn attributes =>
    rw [Change.dn] at hcontains
    simp only [DirectoryStore.changed, hcontains]
    split
    · rfl
    · simp only [Except.map, Change.dn, Keyed.get?_insert_self]
  | replace dn name values =>
    rw [Change.dn] at hget
    simp only [DirectoryStore.changed, hget]
    cases d.get? dn with
    | none => rfl
    | some e => simp only [Except.map, Change.dn, Keyed.get?_insert_self]
  | delete dn =>
    rw [Change.dn] at hcontains
    simp only [DirectoryStore.changed, hcontains]
    split
    · simp only [Except.map, Change.dn, Keyed.get?_erase, if_true]
    · rfl

/-- Directories that agree at the key of a change answer it alike and still agree after it. -/
theorem perform (h : AgreesAt (Dn.key c.dn) d d') :
    (d'.perform c).1 = (d.perform c).1 ∧
      AgreesAt (Dn.key c.dn) (d.perform c).2 (d'.perform c).2 := by
  have hrefused : d'.isRefused c.operation c.dn = d.isRefused c.operation c.dn := by
    rw [Bool.eq_iff_iff, isRefused, isRefused, List.contains_iff_mem, List.contains_iff_mem]
    exact h.refusals c.operation
  have key : Prod.map id (·.get? (Dn.key c.dn)) ((d'.perform c).1, (d'.perform c).2.entries) =
      Prod.map id (·.get? (Dn.key c.dn)) ((d.perform c).1, (d.perform c).2.entries) := by
    have hchanged := h.changed
    rw [perform_eq, perform_eq, hrefused]
    split
    · exact congrArg (Prod.mk _) h.entry
    · cases hd : d.changed c with
      | error e =>
        cases hd' : d'.changed c with
        | error e' =>
          rw [hd, hd'] at hchanged
          cases hchanged
          exact Prod.ext rfl h.entry
        | ok entries' =>
          rw [hd, hd'] at hchanged
          cases hchanged
      | ok entries =>
        cases hd' : d'.changed c with
        | error e' =>
          rw [hd, hd'] at hchanged
          cases hchanged
        | ok entries' =>
          rw [hd, hd'] at hchanged
          exact Prod.ext rfl (Except.ok.inj hchanged)
  obtain ⟨hreply, hentry⟩ := Prod.ext_iff.mp key
  exact ⟨hreply, hentry, fun operation => by
    rw [refusals_perform, refusals_perform, h.refusals operation]⟩

end AgreesAt
end DirectoryStore
namespace Sync

/-- Progress that knows the same of a key. -/
structure Progress.AgreesAt (k : String) (p p' : Progress) : Prop where
  added : k ∈ p'.added ↔ k ∈ p.added
  deleted : p'.deleted.lookup k = p.deleted.lookup k

namespace Progress.AgreesAt
variable {k : String} {p p' p'' : Progress} {c : Change}

theorem refl (k : String) (p : Progress) : AgreesAt k p p := ⟨.rfl, rfl⟩

theorem symm (h : AgreesAt k p p') : AgreesAt k p' p := ⟨h.added.symm, h.deleted.symm⟩

theorem trans (h : AgreesAt k p p') (h' : AgreesAt k p' p'') : AgreesAt k p p'' :=
  ⟨h'.added.trans h.added, h'.deleted.trans h.deleted⟩

theorem settle (h : AgreesAt (Dn.key c.dn) p p') : p'.settle c = p.settle c := by
  cases c with
  | add dn attributes =>
    have hadded : p'.added.contains (Dn.key dn) = p.added.contains (Dn.key dn) := by
      rw [Bool.eq_iff_iff, List.contains_iff_mem, List.contains_iff_mem]
      exact h.added
    rw [Progress.settle, Progress.settle, hadded]
  | replace => rfl
  | delete dn =>
    have hdeleted : p'.deleted.lookup (Dn.key dn) = p.deleted.lookup (Dn.key dn) := h.deleted
    rw [Progress.settle, Progress.settle, hdeleted]

theorem of_note (p : Progress) (succeeded : Bool) (hk : Dn.key c.dn ≠ k) :
    AgreesAt k p (p.note c succeeded) := by
  cases c with
  | add dn attributes =>
    rw [Change.dn] at hk
    rw [Progress.note]
    split
    · refine ⟨?_, rfl⟩
      rw [List.mem_cons, or_iff_right (Ne.symm hk)]
    · exact .refl k p
  | replace => exact .refl k p
  | delete dn =>
    rw [Change.dn] at hk
    refine ⟨.rfl, ?_⟩
    rw [Progress.note, List.lookup_cons, beq_eq_false_iff_ne.mpr (Ne.symm hk)]

theorem note (h : AgreesAt k p p') (c : Change) (succeeded : Bool) :
    AgreesAt k (p.note c succeeded) (p'.note c succeeded) := by
  cases c with
  | add dn attributes =>
    rw [Progress.note, Progress.note]
    split
    · refine ⟨?_, h.deleted⟩
      rw [List.mem_cons, List.mem_cons, h.added]
    · exact h
  | replace => exact h
  | delete dn =>
    refine ⟨h.added, ?_⟩
    rw [Progress.note, Progress.note, List.lookup_cons, List.lookup_cons, h.deleted]

end Progress.AgreesAt

/-- The name of the entry that an alias is about; an alias that asks for nothing is about none. -/
def Job.target? (j : Job) (name : String) : Status → Option String
  | .unchanged | .skip => none
  | .new => some (j.layout.entryDn (Alias.qualified name j.domain))
  | .modified =>
    ((Alias.resolve name j.published j.domain).or (j.published.get? name)).map (·.source)
  | .absentLocally =>
    ((j.published.get? name).or (Alias.resolve name j.published j.domain)).map (·.source)

/-- Whether an alias is about no entry but that of a key. -/
def Job.concerns (j : Job) (k name : String) (s : Status) : Bool :=
  (j.target? name s).all (Dn.key · == k)

variable {j : Job} {retained : List String} {name k : String} {s : Status} {c : Change}

theorem Job.Asks.target? (h : j.Asks retained name s c) : j.target? name s = some c.dn := by
  cases h with
  | add => rfl
  | replace ht => rw [Job.target?, ht]; rfl
  | delete he => rw [Job.target?, he]; rfl

theorem Job.Asks.concerns (h : j.Asks retained name s c) (k : String) :
    j.concerns k name s = (Dn.key c.dn == k) := by
  rw [Job.concerns, h.target?, Option.all_some]

variable {p p' : Progress} {d d' : DirectoryStore}

/-- A step that does not concern a key changes nothing under it. -/
theorem step_elsewhere (retained : List String) (p : Progress) (d : DirectoryStore)
    (hk : j.concerns k name s = false) :
    p.AgreesAt k (step j retained p d name s).value.2.1 ∧
      d.AgreesAt k (step j retained p d name s).value.2.2 := by
  rw [value_step]
  cases hi : j.intent retained name s with
  | settled o => exact ⟨.refl k p, .refl k d⟩
  | ask c =>
    rw [(Job.asks_of_intent hi).concerns, beq_eq_false_iff_ne] at hk
    have hd := DirectoryStore.AgreesAt.of_perform d hk
    dsimp only
    rw [DirectoryStore.value_perform]
    cases p.settle c with
    | settled o => exact ⟨.refl k p, .refl k d⟩
    | ask _ =>
      rcases hr : d.perform c with ⟨_ | _, after⟩
      · rw [hr] at hd
        exact ⟨.of_note p false hk, hd⟩
      · rw [hr] at hd
        exact ⟨.of_note p true hk, hd⟩

/-- A step that concerns a key is the same step wherever the key is known alike. -/
theorem step_together (retained : List String) (hk : j.concerns k name s = true)
    (hp : p.AgreesAt k p') (hd : d.AgreesAt k d') :
    (step j retained p' d' name s).value.1 = (step j retained p d name s).value.1 ∧
      (step j retained p d name s).value.2.1.AgreesAt k
        (step j retained p' d' name s).value.2.1 ∧
      (step j retained p d name s).value.2.2.AgreesAt k
        (step j retained p' d' name s).value.2.2 := by
  rw [value_step, value_step]
  cases hi : j.intent retained name s with
  | settled o => exact ⟨rfl, hp, hd⟩
  | ask c =>
    rw [(Job.asks_of_intent hi).concerns, beq_iff_eq] at hk
    subst hk
    obtain ⟨hreply, hafter⟩ := hd.perform
    dsimp only
    rw [hp.settle, DirectoryStore.value_perform, DirectoryStore.value_perform]
    cases p.settle c with
    | settled o => exact ⟨rfl, hp, hd⟩
    | ask _ =>
      rcases hr : d.perform c with ⟨reply, after⟩
      rcases hr' : d'.perform c with ⟨reply', after'⟩
      rw [hr, hr'] at hreply hafter
      dsimp only at hreply hafter
      subst hreply
      cases reply' with
      | ok => exact ⟨rfl, hp.note c true, hafter⟩
      | error e => exact ⟨rfl, hp.note c false, hafter⟩

/-- What a run does about a key follows from what the progress and the directory know of it. -/
theorem stepAll_together (retained : List String) (states : List (String × Status))
    (hp : p.AgreesAt k p') (hd : d.AgreesAt k d') :
    (stepAll j retained p' d' states).value.1.filter (fun st => j.concerns k st.name st.status) =
      (stepAll j retained p d states).value.1.filter (fun st => j.concerns k st.name st.status) ∧
    (stepAll j retained p d states).value.2.AgreesAt k
      (stepAll j retained p' d' states).value.2 := by
  induction states generalizing p p' d d' with
  | nil => exact ⟨rfl, hd⟩
  | cons x rest ih =>
    obtain ⟨name, s⟩ := x
    obtain ⟨st, q, m, hstep, rfl, rfl, -⟩ := stepped_step j retained p d name s
    obtain ⟨st', q', m', hstep', hname, hstatus, -⟩ :=
      stepped_step j retained p' d' st.name st.status
    simp only [stepAll, Logged.value_bind, hstep, hstep', Logged.value_pure, List.filter_cons,
      hname, hstatus]
    cases hk : j.concerns k st.name st.status with
    | true =>
      obtain ⟨hst, hq, hm⟩ := step_together retained hk hp hd
      rw [hstep, hstep'] at hst hq hm
      obtain ⟨hrest, hafter⟩ := ih hq hm
      exact ⟨List.cons_eq_cons.mpr ⟨hst, hrest⟩, hafter⟩
    | false =>
      obtain ⟨hq, hm⟩ := step_elsewhere retained p d hk
      obtain ⟨hq', hm'⟩ := step_elsewhere retained p' d' hk
      rw [hstep] at hq hm
      rw [hstep'] at hq' hm'
      exact ih ((hq.symm.trans hp).trans hq') ((hm.symm.trans hd).trans hm')

/-- The calls on a key are made by the steps that concern it. -/
theorem callsOf_concerns {steps : List Step}
    (h : ∀ st ∈ steps, ∀ call, st.call = some call →
      j.concerns k st.name st.status = (Dn.key call.change.dn == k)) :
    (callsOf (steps.filter fun st => j.concerns k st.name st.status)).filter
        (Dn.key ·.change.dn == k) = (callsOf steps).filter (Dn.key ·.change.dn == k) := by
  induction steps with
  | nil => rfl
  | cons st rest ih =>
    have hrest := ih fun x hx => h x (List.mem_cons_of_mem _ hx)
    have hfirst := h st List.mem_cons_self
    rw [List.filter_cons, callsOf_cons, List.filter_append, ← hrest]
    cases hk : j.concerns k st.name st.status with
    | true => rw [if_pos rfl, callsOf_cons, List.filter_append]
    | false =>
      rw [hk] at hfirst
      cases hcall : st.call with
      | none => simp
      | some call => simp [← hfirst call hcall]

/-- The steps of a pass that concern a key. -/
def Pass.about (j : Job) (k : String) (p : Pass DirectoryStore) : List Step :=
  p.steps.filter fun st => j.concerns k st.name st.status

theorem about_apply (j : Job) (c : Classification) (h : d.AgreesAt k d') :
    (apply j c d').value.about j k = (apply j c d).value.about j k ∧
      (apply j c d).value.directory.AgreesAt k (apply j c d').value.directory :=
  stepAll_together (j.retained c) c.toList (.refl k {}) h

/-- What a pass writes down about a key is what the steps that concern it asked for. -/
theorem exists_attempts_apply (j : Job) (c : Classification) (d : DirectoryStore) (k : String) :
    ∃ log, (apply j c d).value.directory.attempts = d.attempts ++ log ∧
      log.filter (Dn.key ·.2 == k) =
        ((callsOf ((apply j c d).value.about j k)).filter (Dn.key ·.change.dn == k)).map
          fun call => (call.change.operation, call.change.dn) := by
  obtain ⟨p, hran, -⟩ := exists_ran_apply j c d
  refine ⟨_, (carried_apply j c d).attempts, ?_⟩
  rw [Pass.about, callsOf_concerns fun st hst call hcall => (hran.asks hst hcall).concerns k,
    List.filter_map]
  rfl

theorem failures_about (j : Job) (k : String) (p : Pass DirectoryStore) :
    p.tally.failures.filter (fun f => j.concerns k f.name f.intended) =
      (p.about j k).filterMap Step.failure? := by
  rw [Pass.tally, failures_tallyOf, Pass.about, List.filter_filterMap, List.filterMap_filter]
  congr 1
  funext st
  rw [Step.failure?]
  cases st.outcome with
  | counted s => simp
  | failed why => simp [Option.filter]

/-- A failure elsewhere cannot be noticed at a key. Whatever else two directories hold or refuse, if
they agree at the key then a pass leaves the same entry there, attempts the same operations on it,
and comes to the same outcome and the same failures for every alias that concerns it. -/
theorem apply_isolated (j : Job) (c : Classification) (k : String) (d d' : DirectoryStore)
    (hentry : d'.entries.get? k = d.entries.get? k)
    (hrefusals : ∀ operation, (operation, k) ∈ d'.refusals ↔ (operation, k) ∈ d.refusals) :
    let p := (apply j c d).value
    let p' := (apply j c d').value
    p'.directory.entries.get? k = p.directory.entries.get? k ∧
    (∃ log log', p.directory.attempts = d.attempts ++ log ∧
      p'.directory.attempts = d'.attempts ++ log' ∧
      log'.filter (Dn.key ·.2 == k) = log.filter (Dn.key ·.2 == k)) ∧
    p.steps.map (fun st => (st.name, st.status)) = c.toList ∧
    p'.steps.map (fun st => (st.name, st.status)) = c.toList ∧
    p'.about j k = p.about j k ∧
    p'.tally.failures.filter (fun f => j.concerns k f.name f.intended) =
      p.tally.failures.filter (fun f => j.concerns k f.name f.intended) := by
  intro p p'
  obtain ⟨habout, hafter⟩ := about_apply j c ⟨hentry, hrefusals⟩
  obtain ⟨log, hlog, hcalls⟩ := exists_attempts_apply j c d k
  obtain ⟨log', hlog', hcalls'⟩ := exists_attempts_apply j c d' k
  obtain ⟨-, -, hnames⟩ := exists_ran_apply j c d
  obtain ⟨-, -, hnames'⟩ := exists_ran_apply j c d'
  refine ⟨hafter.entry, ⟨log, log', hlog, hlog', ?_⟩, hnames, hnames', habout, ?_⟩
  · rw [hcalls, hcalls', habout]
  · rw [failures_about, failures_about, habout]

private def yardLayout : Layout := ⟨"dc=x", {}⟩
private def yard : DirectoryStore :=
  .ofList [⟨"dc=x", ∅⟩, yardLayout.newEntry "XE" "old", yardLayout.newEntry "DB" "old"]
private def yardJob : Job :=
  ⟨.ofList [.define "XE" "new" "", .define "DB" "new" ""],
    .ofList [.define "XE" "old" "cn=XE,dc=x", .define "DB" "old" "cn=DB,dc=x"], "", yardLayout⟩
private def yardStates : Classification :=
  reconcile yardJob.localNames yardJob.published yardJob.domain

/-- A pass that is refused one entry writes the other as a pass that is refused nothing does. -/
theorem xe_written_beside_refusal :
    let p := (apply yardJob yardStates yard).value
    let p' := (apply yardJob yardStates (yard.refuse .modify "cn=DB,dc=x")).value
    p.tally.isConverged = true ∧ p'.tally.isConverged = false ∧
      p'.directory.get? "cn=XE,dc=x" = p.directory.get? "cn=XE,dc=x" ∧
      (p'.directory.get? "cn=XE,dc=x").bind (·.firstValue? "orclNetDescString") = some "new" ∧
      (p'.about yardJob (Dn.key "cn=XE,dc=x")).map (·.outcome) = [.counted .modified] := by
  intro p p'
  obtain ⟨hentry, -, -, -, habout, -⟩ := apply_isolated yardJob yardStates (Dn.key "cn=XE,dc=x")
    yard (yard.refuse .modify "cn=DB,dc=x") rfl
    (by rintro (_ | _ | _ | _) <;> decide +kernel)
  have hget : p'.directory.get? "cn=XE,dc=x" = p.directory.get? "cn=XE,dc=x" := hentry
  refine ⟨by decide +kernel, by decide +kernel, hget, ?_, ?_⟩
  · rw [hget]
    decide +kernel
  · rw [habout]
    decide +kernel

end Sync
end NetNames
