import Mathlib.Data.List.Forall2
import NetNames.Proofs.Sync.Account

/-! What a clearance does, entry by entry. The deletion of a name is tried once, and every entry
under that name is counted by how the one attempt went. -/
namespace NetNames.Sync
variable {σ : Type} [Directory σ]

/-- How an entry is counted once the deletion of its name has been tried. -/
def clearedAs (succeeded : Bool) : Outcome :=
  if succeeded then .counted .absentLocally else .failed .deleteFailed

/-- What a clearance does about one entry: nothing if the deletion of its name was tried before,
else it tries the deletion. -/
inductive ClearStep (p : Progress) (d : σ) (e : ServiceEntry) : Step → Progress → σ → Prop
  | tried {succeeded : Bool} (h : p.deleted.lookup (Dn.key e.source) = some succeeded) :
      ClearStep p d e ⟨e.name, .absentLocally, none, clearedAs succeeded⟩ p d
  | done {d' : σ} (h : p.deleted.lookup (Dn.key e.source) = none)
      (hd : (Directory.perform (.delete e.source) d).value = (.ok (), d')) :
      ClearStep p d e ⟨e.name, .absentLocally, some ⟨.delete e.source, none⟩, clearedAs true⟩
        (p.note (.delete e.source) true) d'
  | refused {err : DirectoryError} {d' : σ} (h : p.deleted.lookup (Dn.key e.source) = none)
      (hd : (Directory.perform (.delete e.source) d).value = (.error err, d')) :
      ClearStep p d e
        ⟨e.name, .absentLocally, some ⟨.delete e.source, some err⟩, clearedAs false⟩
        (p.note (.delete e.source) false) d'

/-- A clearance of some entries, from some progress and directory to others. -/
inductive Cleared : Progress → σ → List ServiceEntry → List Step → Progress → σ → Prop
  | nil {p : Progress} {d : σ} : Cleared p d [] [] p d
  | cons {p p' p'' : Progress} {d d' d'' : σ} {e : ServiceEntry} {st : Step}
      {es : List ServiceEntry} {steps : List Step} (h : ClearStep p d e st p' d')
      (hr : Cleared p' d' es steps p'' d'') : Cleared p d (e :: es) (st :: steps) p'' d''

theorem cleared_clearAll (es : List ServiceEntry) (p : Progress) (d : σ) :
    ∃ steps p' d', (clearAll p.deleted d es).value = (steps, d') ∧
      Cleared p d es steps p' d' := by
  induction es generalizing p d with
  | nil => exact ⟨[], p, d, rfl, .nil⟩
  | cons e es ih =>
    rw [clearAll]
    cases hl : p.deleted.lookup (Dn.key e.source) with
    | some succeeded =>
      obtain ⟨steps, p', d', hall, hcleared⟩ := ih p d
      refine ⟨_, p', d', ?_, .cons (.tried hl) hcleared⟩
      rw [Logged.value_bind, hall]
      rfl
    | none =>
      dsimp only
      rw [Logged.value_bind]
      rcases hd : (Directory.perform (.delete e.source) d).value with ⟨err | _, d₁⟩
      · obtain ⟨steps, p', d', hall, hcleared⟩ := ih (p.note (.delete e.source) false) d₁
        refine ⟨_, p', d', ?_, .cons (.refused hl hd) hcleared⟩
        dsimp only
        rw [Logged.value_bind, Logged.value_bind]
        exact congrArg (fun x => (_ :: x.1, x.2)) hall
      · obtain ⟨steps, p', d', hall, hcleared⟩ := ih (p.note (.delete e.source) true) d₁
        refine ⟨_, p', d', ?_, .cons (.done hl hd) hcleared⟩
        dsimp only
        rw [Logged.value_bind]
        exact congrArg (fun x => (_ :: x.1, x.2)) hall

/-- A whole clearance goes over the published entries in the order of their names. -/
theorem exists_cleared_clear (published : Registry) (d : σ) :
    ∃ p, Cleared {} d published.toList (clear published d).value.steps p
      (clear published d).value.directory := by
  obtain ⟨steps, p, d', hall, hcleared⟩ := cleared_clearAll published.toList {} d
  have hvalue : (clear published d).value = ⟨steps, d'⟩ := by
    rw [clear, Logged.value_bind]
    exact congrArg (fun x => (⟨x.1, x.2⟩ : Pass σ)) hall
  rw [hvalue]
  exact ⟨p, hcleared⟩

namespace Cleared
variable {p p' : Progress} {d d' : σ} {es : List ServiceEntry} {steps : List Step}

theorem names (h : Cleared p d es steps p' d') :
    steps.map (fun st => (st.name, st.status)) = es.map fun e => (e.name, .absentLocally) := by
  induction h with
  | nil => rfl
  | cons hs _ ih =>
    rw [List.map_cons, List.map_cons, ih]
    cases hs <;> rfl

theorem carried (h : Cleared p d es steps p' d') : Carried d (callsOf steps) d' := by
  induction h with
  | nil => exact .nil
  | cons hs _ ih =>
    rw [callsOf_cons]
    cases hs with
    | tried => exact ih
    | done _ hd => exact .done hd ih
    | refused _ hd => exact .refused hd ih

/-- Every call tries to delete the source of an entry. -/
theorem deletes (h : Cleared p d es steps p' d') {call : Call} (hcall : call ∈ callsOf steps) :
    ∃ e ∈ es, call.change = .delete e.source := by
  induction h with
  | nil => cases hcall
  | @cons _ _ _ _ _ _ e _ _ _ hs _ ih =>
    rw [callsOf_cons, List.mem_append] at hcall
    rcases hcall with hfirst | hrest
    · refine ⟨e, List.mem_cons_self, ?_⟩
      cases hs with
      | tried => cases hfirst
      | done => rw [List.mem_singleton.mp hfirst]
      | refused => rw [List.mem_singleton.mp hfirst]
    · obtain ⟨e', he', hchange⟩ := ih hrest
      exact ⟨e', List.mem_cons_of_mem _ he', hchange⟩

theorem records {calls : List Call} (h : Cleared p d es steps p' d') (hp : p.Records calls) :
    p'.Records (calls ++ callsOf steps) := by
  induction h generalizing calls with
  | nil => simpa [callsOf] using hp
  | @cons _ _ _ _ _ _ e _ _ _ hs _ ih =>
    rw [callsOf_cons, ← List.append_assoc]
    apply ih
    cases hs with
    | tried => simpa using hp
    | done h => exact hp.note (by rw [Progress.settle, h]) none
    | refused h => exact hp.note (by rw [Progress.settle, h]) (some _)

/-- How the deletion of a name went is not forgotten. -/
theorem lookup_of_lookup (h : Cleared p d es steps p' d') {k : String} {succeeded : Bool}
    (hk : p.deleted.lookup k = some succeeded) : p'.deleted.lookup k = some succeeded := by
  have note : ∀ {q : Progress} {dn : String} {b : Bool}, q.deleted.lookup (Dn.key dn) = none →
      q.deleted.lookup k = some succeeded →
        (q.note (.delete dn) b).deleted.lookup k = some succeeded := by
    intro q dn b hnone hsome
    have hne : (k == Dn.key dn) = false := by
      refine beq_eq_false_iff_ne.mpr ?_
      rintro rfl
      cases hnone.symm.trans hsome
    rw [Progress.note, List.lookup_cons, hne]
    exact hsome
  induction h with
  | nil => exact hk
  | cons hs _ ih =>
    apply ih
    cases hs with
    | tried => exact hk
    | done h => exact note h hk
    | refused h => exact note h hk

/-- Every entry is counted by how the deletion of its name went. -/
theorem outcomes (h : Cleared p d es steps p' d') :
    List.Forall₂ (fun e st => ∃ succeeded,
      p'.deleted.lookup (Dn.key e.source) = some succeeded ∧ st.outcome = clearedAs succeeded)
      es steps := by
  induction h with
  | nil => exact .nil
  | cons hs hr ih =>
    refine .cons ?_ ih
    cases hs with
    | tried h => exact ⟨_, hr.lookup_of_lookup h, rfl⟩
    | done => exact ⟨true, hr.lookup_of_lookup (by simp [Progress.note]), rfl⟩
    | refused => exact ⟨false, hr.lookup_of_lookup (by simp [Progress.note]), rfl⟩

end Cleared
end NetNames.Sync
