import NetNames.Proofs.Sync.Run

/-! How the steps of a pass account for what was done. The progress of a pass stands for the calls
made so far, so a step that asks for nothing points to an earlier call that did its work or
failed. The tally counts the steps, and a failure is the only way to a skip. -/
namespace NetNames.Sync
variable {σ : Type} [Directory σ] {j : Job} {retained : List String}

/-- No two of the calls try to delete the same name. -/
def DeletesOnce (calls : List Call) : Prop :=
  calls.Pairwise fun a b =>
    ∀ x y, a.change = .delete x → b.change = .delete y → Dn.key x ≠ Dn.key y

/-- One call at most tries to delete a name. -/
theorem DeletesOnce.eq {calls : List Call} {a b : Call} {x y : String} (h : DeletesOnce calls)
    (ha : a ∈ calls) (hb : b ∈ calls) (hx : a.change = .delete x) (hy : b.change = .delete y)
    (hk : Dn.key x = Dn.key y) : a = b := by
  induction calls with
  | nil => cases ha
  | cons c calls ih =>
    obtain ⟨hfirst, hrest⟩ := List.pairwise_cons.mp h
    rcases List.mem_cons.mp ha with rfl | ha'
    · rcases List.mem_cons.mp hb with rfl | hb'
      · rfl
      · exact absurd hk (hfirst b hb' x y hx hy)
    · rcases List.mem_cons.mp hb with rfl | hb'
      · exact absurd hk.symm (hfirst a ha' y x hy hx)
      · exact ih hrest ha' hb'

/-- Progress that records the calls made so far. -/
structure Progress.Records (p : Progress) (calls : List Call) : Prop where
  added : ∀ k, k ∈ p.added ↔ ∃ dn attributes, ⟨.add dn attributes, none⟩ ∈ calls ∧ Dn.key dn = k
  deleted : ∀ k succeeded, p.deleted.lookup k = some succeeded → ∃ dn refusal,
    ⟨.delete dn, refusal⟩ ∈ calls ∧ Dn.key dn = k ∧ refusal.isNone = succeeded
  tried : ∀ call ∈ calls, ∀ dn, call.change = .delete dn → p.deleted.lookup (Dn.key dn) ≠ none
  once : DeletesOnce calls

namespace Progress.Records
variable {p : Progress} {calls : List Call} {c : Change}

theorem start : ({} : Progress).Records [] where
  added := by simp
  deleted := by simp
  tried := by simp
  once := .nil

/-- A call that tries no deletion leaves what is known of deletions. -/
private theorem keep (h : p.Records calls) {call : Call} (hc : ∀ dn, call.change ≠ .delete dn)
    {p' : Progress} (hp : p'.deleted = p.deleted)
    (hadded : ∀ k, k ∈ p'.added ↔ ∃ dn attributes,
      ⟨.add dn attributes, none⟩ ∈ calls ++ [call] ∧ Dn.key dn = k) :
    p'.Records (calls ++ [call]) where
  added := hadded
  deleted := by
    intro k succeeded hk
    obtain ⟨dn, refusal, hdn, hkey⟩ := h.deleted k succeeded (hp ▸ hk)
    exact ⟨dn, refusal, List.mem_append_left _ hdn, hkey⟩
  tried := by
    intro call' hcall' dn hdn
    rcases List.mem_append.mp hcall' with hcall' | hcall'
    · exact hp ▸ h.tried call' hcall' dn hdn
    · exact absurd (List.mem_singleton.mp hcall' ▸ hdn) (hc dn)
  once := by
    refine List.pairwise_append.mpr ⟨h.once, List.pairwise_singleton _ _, ?_⟩
    intro a _ b hb x y _ hy
    exact absurd (List.mem_singleton.mp hb ▸ hy) (hc y)

/-- A call that the progress does not spare is recorded. -/
theorem note (h : p.Records calls) (hp : p.settle c = .ask c) (refusal : Option DirectoryError) :
    (p.note c refusal.isNone).Records (calls ++ [⟨c, refusal⟩]) := by
  have hadded (hc : ∀ dn attributes, (⟨.add dn attributes, none⟩ : Call) ≠ ⟨c, refusal⟩) (k) :
      k ∈ p.added ↔ ∃ dn attributes,
        ⟨.add dn attributes, none⟩ ∈ calls ++ [⟨c, refusal⟩] ∧ Dn.key dn = k := by
    simp only [h.added, List.mem_append, List.mem_singleton, hc, or_false]
  cases c with
  | add dn attributes =>
    refine h.keep (by simp) ?_ ?_
    · cases refusal <;> rfl
    · cases refusal with
      | some e => exact hadded (by simp)
      | none =>
        intro k
        have hnote : (p.note (.add dn attributes) true).added = Dn.key dn :: p.added := rfl
        rw [Option.isNone_none, hnote, List.mem_cons, h.added]
        constructor
        · rintro (rfl | ⟨dn', attributes', hcall, hkey⟩)
          · exact ⟨dn, attributes, by simp, rfl⟩
          · exact ⟨dn', attributes', List.mem_append_left _ hcall, hkey⟩
        · rintro ⟨dn', attributes', hcall, rfl⟩
          rcases List.mem_append.mp hcall with hcall | hcall
          · exact .inr ⟨dn', attributes', hcall, rfl⟩
          · cases List.mem_singleton.mp hcall
            exact .inl rfl
  | replace dn name values => exact h.keep (by simp) rfl (hadded (by simp))
  | delete dn =>
    have hnew := untried_of_settle hp
    have hlookup : ∀ k, (p.note (.delete dn) refusal.isNone).deleted.lookup k =
        if k = Dn.key dn then some refusal.isNone else p.deleted.lookup k := by
      intro k
      rw [Progress.note, List.lookup_cons]
      split <;> simp_all
    refine ⟨hadded (by simp), ?_, ?_, ?_⟩
    · intro k succeeded hk
      rw [hlookup] at hk
      split at hk
      · rename_i hkey
        exact ⟨dn, refusal, by simp, hkey.symm, Option.some.inj hk⟩
      · obtain ⟨dn', refusal', hdn, hkey⟩ := h.deleted k succeeded hk
        exact ⟨dn', refusal', List.mem_append_left _ hdn, hkey⟩
    · intro call hcall dn' hdn'
      rw [hlookup]
      split
      · simp
      · rename_i hne
        rcases List.mem_append.mp hcall with hcall | hcall
        · exact h.tried call hcall dn' hdn'
        · cases List.mem_singleton.mp hcall
          cases hdn'
          exact absurd rfl hne
    · refine List.pairwise_append.mpr ⟨h.once, List.pairwise_singleton _ _, ?_⟩
      intro a ha b hb x y hx hy hxy
      cases List.mem_singleton.mp hb
      cases hy
      exact h.tried a ha x hx (hxy ▸ hnew)

theorem step (h : p.Records calls) {d d' : σ} {st : Step} {p' : Progress}
    (hs : Stepped j retained p d st p' d') : p'.Records (calls ++ st.call.toList) := by
  cases hs with
  | settled => simpa using h
  | spared => simpa using h
  | done _ hp => exact h.note hp none
  | refused _ hp => exact h.note hp (some _)

theorem run (h : p.Records calls) {d d' : σ} {steps : List Step} {p' : Progress}
    (hr : Ran j retained p d steps p' d') : p'.Records (calls ++ callsOf steps) := by
  induction hr generalizing calls with
  | nil => simpa [callsOf] using h
  | cons hs _ ih =>
    rw [callsOf_cons, ← List.append_assoc]
    exact ih (h.step hs)

/-- What is recorded of a deletion is how the one call went that tried it. -/
theorem succeeded_iff (h : p.Records calls) {k : String} {succeeded : Bool}
    (hk : p.deleted.lookup k = some succeeded) :
    succeeded = true ↔ ∃ dn, ⟨.delete dn, none⟩ ∈ calls ∧ Dn.key dn = k := by
  obtain ⟨dn, refusal, hcall, hdn, hnone⟩ := h.deleted k succeeded hk
  constructor
  · rintro rfl
    cases Option.isNone_iff_eq_none.mp hnone
    exact ⟨dn, hcall, hdn⟩
  · rintro ⟨dn', hcall', hdn'⟩
    cases h.once.eq hcall' hcall rfl rfl (hdn'.trans hdn.symm)
    exact hnone.symm

end Progress.Records

/-- A step after some calls: settled from the start, done, refused, or spared because an earlier
call added the entry, deleted it or failed to delete it. -/
inductive Accounted (j : Job) (retained : List String) (calls : List Call) : Step → Prop
  | settled {name : String} {s : Status} {o : Outcome}
      (h : j.intent retained name s = .settled o) : Accounted j retained calls ⟨name, s, none, o⟩
  | done {name : String} {s : Status} {c : Change} (h : j.intent retained name s = .ask c) :
      Accounted j retained calls ⟨name, s, some ⟨c, none⟩, .counted s⟩
  | refused {name : String} {s : Status} {c : Change} {e : DirectoryError}
      (h : j.intent retained name s = .ask c) :
      Accounted j retained calls ⟨name, s, some ⟨c, some e⟩, .failed (.refused e)⟩
  | added {name dn dn' : String} {s : Status} {attributes attributes' : Attributes}
      (h : j.intent retained name s = .ask (.add dn attributes))
      (hc : ⟨.add dn' attributes', none⟩ ∈ calls) (hk : Dn.key dn' = Dn.key dn) :
      Accounted j retained calls ⟨name, s, none, .counted .new⟩
  | deleted {name dn dn' : String} {s : Status}
      (h : j.intent retained name s = .ask (.delete dn))
      (hc : ⟨.delete dn', none⟩ ∈ calls) (hk : Dn.key dn' = Dn.key dn) :
      Accounted j retained calls ⟨name, s, none, .counted .absentLocally⟩
  | undeleted {name dn dn' : String} {s : Status} {e : DirectoryError}
      (h : j.intent retained name s = .ask (.delete dn)) (hc : ⟨.delete dn', some e⟩ ∈ calls) :
      Accounted j retained calls ⟨name, s, none, .failed .sharedDeleteFailed⟩

theorem Stepped.accounted {p p' : Progress} {d d' : σ} {st : Step} {calls : List Call}
    (h : Stepped j retained p d st p' d') (hp : p.Records calls) :
    Accounted j retained calls st := by
  cases h with
  | settled h => exact .settled h
  | done h => exact .done h
  | refused h => exact .refused h
  | @spared _ _ c _ h hs =>
    cases c with
    | add dn attributes =>
      rw [Progress.settle] at hs
      split at hs
      · rename_i hk
        obtain ⟨dn', attributes', hc, hkey⟩ := (hp.added _).mp (List.contains_iff_mem.mp hk)
        cases hs
        exact .added h hc hkey
      · cases hs
    | replace dn name values => cases hs
    | delete dn =>
      rw [Progress.settle] at hs
      split at hs
      · rename_i hk
        obtain ⟨dn', refusal, hc, hkey, hnone⟩ := hp.deleted _ _ hk
        cases Option.isNone_iff_eq_none.mp hnone
        cases hs
        exact .deleted h hc hkey
      · rename_i hk
        obtain ⟨dn', refusal, hc, -, hsome⟩ := hp.deleted _ _ hk
        cases hs
        cases refusal with
        | none => cases hsome
        | some e => exact .undeleted h hc
      · cases hs

/-- Every step of a run from the start is accounted for by the calls before it. -/
theorem Ran.accounted {p : Progress} {d d' : σ} {before after : List Step} {st : Step}
    (h : Ran j retained {} d (before ++ st :: after) p d') :
    Accounted j retained (callsOf before) st := by
  obtain ⟨q, m, hbefore, hafter⟩ := h.split_append
  cases hafter with
  | cons hs _ => exact hs.accounted (Progress.Records.start.run hbefore)

theorem Ran.deletesOnce {p : Progress} {d d' : σ} {steps : List Step}
    (h : Ran j retained {} d steps p d') : DeletesOnce (callsOf steps) :=
  (Progress.Records.start.run h).once

theorem deletesOnce_apply (j : Job) (c : Classification) (d : σ) :
    DeletesOnce (apply j c d).value.calls := by
  obtain ⟨p, hran, -⟩ := exists_ran_apply j c d
  exact hran.deletesOnce

/-- The status under which a step is counted. -/
def Step.countedAs (st : Step) : Status :=
  match st.outcome with
  | .counted s => s
  | .failed _ => .skip

def Step.failure? (st : Step) : Option Failure :=
  match st.outcome with
  | .counted _ => none
  | .failed why => some ⟨st.name, st.status, why.text⟩

theorem count_tallyOf (steps : List Step) (s : Status) :
    (tallyOf steps).count s = steps.countP (·.countedAs = s) := by
  have key : ∀ t : Tally, (steps.foldl tallyStep t).count s =
      t.count s + steps.countP (·.countedAs = s) := by
    induction steps with
    | nil => simp
    | cons st rest ih =>
      intro t
      have hstep : (tallyStep t st).count s =
          t.count s + if st.countedAs = s then 1 else 0 := by
        rw [tallyStep, Step.countedAs]
        cases st.outcome with
        | counted x => simp [eq_comm]
        | failed why => simp [eq_comm]
      rw [List.foldl_cons, ih, hstep, List.countP_cons]
      simp only [decide_eq_true_eq]
      omega
  exact (key ∅).trans (Nat.zero_add _)

theorem failures_tallyOf (steps : List Step) :
    (tallyOf steps).failures = steps.filterMap Step.failure? := by
  have key : ∀ t : Tally, (steps.foldl tallyStep t).failures =
      t.failures ++ steps.filterMap Step.failure? := by
    induction steps with
    | nil => simp
    | cons st rest ih =>
      intro t
      rw [List.foldl_cons, ih, List.filterMap_cons, tallyStep, Step.failure?]
      cases st.outcome with
      | counted x => rfl
      | failed why => simp [Tally.recordFailure]
  exact key ∅

theorem isConverged_tallyOf (steps : List Step) :
    (tallyOf steps).isConverged = true ↔ ∀ st ∈ steps, st.countedAs ≠ .skip := by
  rw [Tally.isConverged, beq_iff_eq, count_tallyOf, List.countP_eq_zero]
  simp only [decide_eq_true_eq, ne_eq]

/-- A step whose call is refused is counted as skipped. -/
theorem Ran.skip_of_refused {p p' : Progress} {d d' : σ} {steps : List Step} {st : Step}
    {c : Change} {e : DirectoryError} (h : Ran j retained p d steps p' d') (hst : st ∈ steps)
    (hcall : st.call = some ⟨c, some e⟩) : st.countedAs = .skip := by
  obtain ⟨before, after, rfl⟩ := List.append_of_mem hst
  obtain ⟨q, m, -, hr⟩ := h.split_append
  cases hr with
  | cons hs _ =>
    cases hs with
    | settled => cases hcall
    | spared => cases hcall
    | done => cases hcall
    | refused => rfl

/-- What a step asks for that is not skipped goes through, by its own call or by an earlier one. -/
theorem Ran.met {p : Progress} {d d' : σ} {steps : List Step} {st : Step} {c : Change}
    (h : Ran j retained {} d steps p d') (hst : st ∈ steps)
    (hi : j.intent retained st.name st.status = .ask c) (hc : st.countedAs ≠ .skip) :
    ∃ c', ⟨c', none⟩ ∈ callsOf steps ∧ c'.operation = c.operation ∧
      Dn.key c'.dn = Dn.key c.dn := by
  obtain ⟨before, after, rfl⟩ := List.append_of_mem hst
  have early : ∀ {call}, call ∈ callsOf before → call ∈ callsOf (before ++ st :: after) := by
    intro call hcall
    rw [callsOf_append]
    exact List.mem_append_left _ hcall
  cases h.accounted with
  | settled h' =>
    rw [h'] at hi
    cases hi
  | @done name s c' h' =>
    cases h'.symm.trans hi
    exact ⟨c, mem_callsOf.mpr ⟨_, hst, rfl⟩, rfl, rfl⟩
  | refused => exact absurd rfl hc
  | added h' hcall hk =>
    cases h'.symm.trans hi
    exact ⟨_, early hcall, rfl, hk⟩
  | deleted h' hcall hk =>
    cases h'.symm.trans hi
    exact ⟨_, early hcall, rfl, hk⟩
  | undeleted => exact absurd rfl hc

theorem mem_failures_tallyOf {steps : List Step} {st : Step} {why : Reason} (hst : st ∈ steps)
    (h : st.outcome = .failed why) :
    ⟨st.name, st.status, why.text⟩ ∈ (tallyOf steps).failures := by
  rw [failures_tallyOf]
  refine List.mem_filterMap.mpr ⟨st, hst, ?_⟩
  rw [Step.failure?, h]

/-- How a step can end: counted as its status says, as unchanged because its entry is kept, or
failed. -/
inductive Ended : Status → Outcome → Prop
  | counted (s : Status) : Ended s (.counted s)
  | kept : Ended .absentLocally (.counted .unchanged)
  | failed {s : Status} (why : Reason) (hunchanged : s ≠ .unchanged) (hskip : s ≠ .skip) :
      Ended s (.failed why)

theorem Job.ended_of_intent {name : String} {s : Status} {o : Outcome}
    (h : j.intent retained name s = .settled o) : Ended s o := by
  cases s with
  | unchanged =>
    cases h
    exact .counted _
  | skip =>
    cases h
    exact .counted _
  | new =>
    simp only [Job.intent, Job.decision, Job.value_decideNew, Progress.settle] at h
    split at h
    · cases h
      exact .failed _ (by simp) (by simp)
    · cases h
  | modified =>
    simp only [Job.intent, Job.decision, Job.value_decideModified] at h
    split at h
    · cases h
    · cases h
      exact .failed _ (by simp) (by simp)
  | absentLocally =>
    simp only [Job.intent, Job.decision, Job.value_decideAbsent] at h
    split at h
    · cases h
      exact .failed _ (by simp) (by simp)
    · split at h
      · cases h
        exact .kept
      · cases h

theorem Stepped.ended {p p' : Progress} {d d' : σ} {st : Step}
    (h : Stepped j retained p d st p' d') : Ended st.status st.outcome := by
  cases h with
  | settled h => exact Job.ended_of_intent h
  | done => exact .counted _
  | refused h =>
    cases Job.asks_of_intent h with
    | add => exact .failed _ (by simp) (by simp)
    | replace => exact .failed _ (by simp) (by simp)
    | delete => exact .failed _ (by simp) (by simp)
  | spared h hp =>
    cases Job.asks_of_intent h with
    | add =>
      rw [Progress.settle] at hp
      split at hp
      · cases hp
        exact .counted _
      · cases hp
    | replace => cases hp
    | delete =>
      rw [Progress.settle] at hp
      split at hp
      · cases hp
        exact .counted _
      · cases hp
        exact .failed _ (by simp) (by simp)
      · cases hp

theorem Ran.ended {p p' : Progress} {d d' : σ} {steps : List Step}
    (h : Ran j retained p d steps p' d') : ∀ st ∈ steps, Ended st.status st.outcome := by
  induction h with
  | nil => simp
  | cons hs _ ih => exact List.forall_mem_cons.mpr ⟨hs.ended, ih⟩

/-- Tests of which one holds where a third one does are counted together with it. -/
theorem countP_add_countP {α : Type} {l : List α} {f g h : α → Bool}
    (hl : ∀ a ∈ l, (f a).toNat + (g a).toNat = (h a).toNat) :
    l.countP f + l.countP g = l.countP h := by
  induction l with
  | nil => rfl
  | cons a l ih =>
    obtain ⟨ha, hl⟩ := List.forall_mem_cons.mp hl
    have hrest := ih hl
    simp only [List.countP_cons]
    cases hf : f a <;> cases hg : g a <;> cases hh : h a <;> simp [hf, hg, hh] at ha ⊢ <;> omega

theorem length_failures_tallyOf (steps : List Step) :
    (tallyOf steps).failures.length = steps.countP (·.failure?.isSome) := by
  rw [failures_tallyOf, List.length_filterMap_eq_countP]

/-- The skips are the aliases that were to be skipped and the failures. -/
theorem Ran.count_skip {p p' : Progress} {d d' : σ} {steps : List Step}
    (h : Ran j retained p d steps p' d') : (tallyOf steps).count .skip =
      steps.countP (·.status = .skip) + (tallyOf steps).failures.length := by
  rw [count_tallyOf, length_failures_tallyOf]
  refine (countP_add_countP fun st hst => ?_).symm
  obtain ⟨name, s, call, o⟩ := st
  have hended : Ended s o := h.ended _ hst
  cases hended with
  | counted => cases s <;> rfl
  | kept => rfl
  | failed why _ hskip => simp [Step.countedAs, Step.failure?, hskip]

end NetNames.Sync
