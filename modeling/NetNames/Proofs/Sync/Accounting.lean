import NetNames.Directory.Store
import NetNames.Sync.Reconcile
import NetNames.Proofs.Sync.Clearance

/-! What the tally of a pass says about its aliases. Each of them is counted once: as its status
says, or as unchanged because its entry is kept, or as a skip that is listed as a failure. A
clearance counts each entry by the one attempt to delete its name. -/
namespace NetNames.Sync
variable {σ : Type} [Directory σ] {j : Job} {retained : List String} {p p' : Progress} {d d' : σ}
  {steps : List Step}

/-- A step fails if it is counted as a skip although its alias was not to be skipped. -/
theorem Ended.isSome_failure? {st : Step} (h : Ended st.status st.outcome) :
    st.failure?.isSome = true ↔ st.countedAs = .skip ∧ st.status ≠ .skip := by
  obtain ⟨name, s, call, o⟩ := st
  have ho : Ended s o := h
  cases ho with
  | counted => simp [Step.failure?, Step.countedAs]
  | kept => simp [Step.failure?, Step.countedAs]
  | failed why _ hskip => simpa [Step.failure?, Step.countedAs] using hskip

theorem map_failures (steps : List Step) :
    (tallyOf steps).failures.map (fun f => (f.name, f.intended)) =
      (steps.filter (·.failure?.isSome)).map fun st => (st.name, st.status) := by
  rw [failures_tallyOf]
  induction steps with
  | nil => rfl
  | cons st steps ih =>
    obtain ⟨name, s, call, o⟩ := st
    cases o with
    | counted => exact ih
    | failed why => exact congrArg ((name, s) :: ·) ih

/-- The failures are the aliases that are counted as skips and were not to be skipped. -/
theorem Ran.failures (h : Ran j retained p d steps p' d') :
    (tallyOf steps).failures.map (fun f => (f.name, f.intended)) =
      (steps.filter fun st => st.countedAs = .skip ∧ st.status ≠ .skip).map
        fun st => (st.name, st.status) := by
  rw [map_failures]
  refine congrArg (List.map _) (List.filter_congr fun st hst => ?_)
  rw [Bool.eq_iff_iff, decide_eq_true_eq]
  exact (h.ended st hst).isSome_failure?

theorem countP_failures (steps : List Step) (s : Status) :
    (tallyOf steps).failures.countP (·.intended = s) =
      steps.countP fun st => st.failure?.any (·.intended = s) := by
  rw [failures_tallyOf, List.countP_filterMap]
  refine List.countP_congr fun st _ => ?_
  cases st.failure? <;> simp

/-- Additions and replacements are counted as such or fail. -/
theorem Ran.count_change (h : Ran j retained p d steps p' d') {s : Status}
    (hs : s = .new ∨ s = .modified) :
    (tallyOf steps).count s + (tallyOf steps).failures.countP (·.intended = s) =
      steps.countP (·.status = s) := by
  rw [count_tallyOf, countP_failures]
  refine countP_add_countP fun st hst => ?_
  obtain ⟨name, t, call, o⟩ := st
  have hended : Ended t o := h.ended _ hst
  cases hended with
  | counted => rcases hs with rfl | rfl <;> cases t <;> rfl
  | kept => rcases hs with rfl | rfl <;> rfl
  | failed => rcases hs with rfl | rfl <;> cases t <;> rfl

/-- What is unchanged or absent is counted as one or the other, or its deletion fails. -/
theorem Ran.count_rest (h : Ran j retained p d steps p' d') :
    (tallyOf steps).count .unchanged + (tallyOf steps).count .absentLocally +
        (tallyOf steps).failures.countP (·.intended = .absentLocally) =
      steps.countP (·.status = .unchanged) + steps.countP (·.status = .absentLocally) := by
  have hcounted : steps.countP (·.countedAs = .unchanged) +
      steps.countP (·.countedAs = .absentLocally) =
        steps.countP (fun st => st.countedAs = .unchanged ∨ st.countedAs = .absentLocally) := by
    refine countP_add_countP fun st _ => ?_
    cases st.countedAs <;> rfl
  have hstatus : steps.countP (·.status = .unchanged) + steps.countP (·.status = .absentLocally) =
      steps.countP (fun st => st.status = .unchanged ∨ st.status = .absentLocally) := by
    refine countP_add_countP fun st _ => ?_
    cases st.status <;> rfl
  rw [count_tallyOf, count_tallyOf, countP_failures, hcounted, hstatus]
  refine countP_add_countP fun st hst => ?_
  obtain ⟨name, s, call, o⟩ := st
  have hended : Ended s o := h.ended _ hst
  cases hended with
  | counted => cases s <;> rfl
  | kept => rfl
  | failed _ hunchanged _ =>
    cases s with
    | unchanged => exact absurd rfl hunchanged
    | new => rfl
    | modified => rfl
    | absentLocally => rfl
    | skip => rfl

/-- The aliases of a status, as the steps of a pass have them. -/
theorem count_eq_countP {c : Classification}
    (h : steps.map (fun st => (st.name, st.status)) = c.toList) (s : Status) :
    c.count s = steps.countP (·.status = s) := by
  rw [Classification.count, Keyed.values, ← Classification.toList, ← h, List.map_map,
    List.countP_map]
  refine List.countP_congr fun st _ => ?_
  simp

namespace Cleared
variable {es : List ServiceEntry}

/-- An entry is counted as deleted just if the deletion of its name succeeded. -/
theorem countedAs_iff (h : Cleared {} d es steps p' d') :
    List.Forall₂ (fun e st => st.countedAs = .absentLocally ↔
      ∃ dn, ⟨.delete dn, none⟩ ∈ callsOf steps ∧ Dn.key dn = Dn.key e.source) es steps := by
  have hrecords := h.records Progress.Records.start
  rw [List.nil_append] at hrecords
  refine h.outcomes.imp ?_
  rintro e st ⟨succeeded, hlookup, houtcome⟩
  rw [← hrecords.succeeded_iff hlookup, Step.countedAs, houtcome]
  cases succeeded <;> simp [clearedAs]

/-- The names whose deletion is tried are those of the entries, each tried once. -/
theorem keys_calls (h : Cleared {} d es steps p' d') :
    ((callsOf steps).map (Dn.key ·.change.dn)).Nodup ∧
      ∀ k, k ∈ (callsOf steps).map (Dn.key ·.change.dn) ↔ k ∈ es.map (Dn.key ·.source) := by
  have hrecords := h.records Progress.Records.start
  rw [List.nil_append] at hrecords
  refine ⟨List.pairwise_map.mpr ?_, fun k => ⟨?_, ?_⟩⟩
  · refine hrecords.once.imp_of_mem fun {a b} ha hb hab => ?_
    obtain ⟨e, -, hea⟩ := h.deletes ha
    obtain ⟨f, -, hfb⟩ := h.deletes hb
    rw [hea, hfb]
    exact hab _ _ hea hfb
  · intro hk
    obtain ⟨call, hcall, rfl⟩ := List.mem_map.mp hk
    obtain ⟨e, he, hchange⟩ := h.deletes hcall
    exact List.mem_map.mpr ⟨e, he, by rw [hchange]; rfl⟩
  · intro hk
    obtain ⟨e, he, rfl⟩ := List.mem_map.mp hk
    obtain ⟨i, hi, rfl⟩ := List.getElem_of_mem he
    obtain ⟨succeeded, hlookup, -⟩ := h.outcomes.get hi (h.outcomes.length_eq ▸ hi)
    obtain ⟨dn, refusal, hcall, hdn, -⟩ := hrecords.deleted _ _ hlookup
    exact List.mem_map.mpr ⟨_, hcall, hdn⟩

end Cleared

theorem total_tallyStep (t : Tally) (st : Step) : (tallyStep t st).total = t.total + 1 := by
  rw [tallyStep]
  split
  · exact Tally.total_record _ _
  · exact Tally.total_recordFailure _ _

theorem total_tallyOf (steps : List Step) : (tallyOf steps).total = steps.length := by
  have key : ∀ t : Tally, (steps.foldl tallyStep t).total = t.total + steps.length := by
    induction steps with
    | nil => exact fun t => rfl
    | cons st steps ih =>
      intro t
      rw [List.foldl_cons, ih, total_tallyStep, List.length_cons]
      omega
  exact (key ∅).trans (Nat.zero_add _)

theorem total_apply (j : Job) (c : Classification) (d : σ) :
    (apply j c d).value.tally.total = c.size := by
  obtain ⟨-, -, hsteps⟩ := exists_ran_apply j c d
  calc (apply j c d).value.tally.total
      = (apply j c d).value.steps.length := total_tallyOf _
    _ = c.toList.length := by rw [← hsteps, List.length_map]
    _ = c.size := rfl

/-- The failures of a pass are listed in the order of the classification, each alias once. -/
theorem ascending_failures (j : Job) (c : Classification) (d : σ) :
    ((apply j c d).value.tally.failures.map (·.name)).Pairwise (· < ·) := by
  obtain ⟨p, hran, -⟩ := exists_ran_apply j c d
  have hnames : (apply j c d).value.tally.failures.map (·.name) =
      ((apply j c d).value.steps.filter fun st =>
        st.countedAs = .skip ∧ st.status ≠ .skip).map (·.name) := by
    have hmap := congrArg (List.map Prod.fst) hran.failures
    rwa [List.map_map, List.map_map] at hmap
  rw [hnames]
  exact List.pairwise_map.mpr ((ascending_steps j c d).filter _)

theorem total_clear (published : Registry) (d : σ) :
    (clear published d).value.tally.total = published.size := by
  obtain ⟨p, hcleared⟩ := exists_cleared_clear published d
  calc (clear published d).value.tally.total
      = (clear published d).value.steps.length := total_tallyOf _
    _ = published.toList.length := hcleared.outcomes.length_eq.symm
    _ = published.size := List.length_map _

/-- The tally of a pass accounts for every alias of its classification once, whatever the directory
answers. The failures are the aliases counted as skips that were not to be skipped, in the order of
the classification, and whatever did not fail is counted as its status says, but for absent aliases
whose entry is kept. A clearance tries to delete each name once and counts an entry as deleted just
if that succeeded. -/
theorem tally_accounts :
    (∀ (j : Job) (c : Classification) (d : σ),
      let p := (apply j c d).value
      let t := p.tally
      p.steps.map (fun st => (st.name, st.status)) = c.toList ∧
      t.total = c.size ∧
      (∀ s, t.count s = p.steps.countP (·.countedAs = s)) ∧
      t.failures.map (fun f => (f.name, f.intended)) =
        (p.steps.filter fun st => st.countedAs = .skip ∧ st.status ≠ .skip).map
          (fun st => (st.name, st.status)) ∧
      (t.failures.map (·.name)).Pairwise (· < ·) ∧
      t.count .skip = c.count .skip + t.failures.length ∧
      (∀ s, s = .new ∨ s = .modified →
        t.count s + t.failures.countP (·.intended = s) = c.count s) ∧
      t.count .unchanged + t.count .absentLocally +
          t.failures.countP (·.intended = .absentLocally) =
        c.count .unchanged + c.count .absentLocally) ∧
    ∀ (published : Registry) (d : σ),
      let p := (clear published d).value
      p.steps.map (·.name) = published.toList.map (·.name) ∧
      p.tally.total = published.size ∧
      (∀ s, p.tally.count s = p.steps.countP (·.countedAs = s)) ∧
      Carried d p.calls p.directory ∧
      (∀ call ∈ p.calls, call.change.operation = .delete) ∧
      (p.calls.map (Dn.key ·.change.dn)).Nodup ∧
      (∀ k, k ∈ p.calls.map (Dn.key ·.change.dn) ↔ k ∈ published.toList.map (Dn.key ·.source)) ∧
      List.Forall₂ (fun e st => st.countedAs = .absentLocally ↔
        ∃ dn, ⟨.delete dn, none⟩ ∈ p.calls ∧ Dn.key dn = Dn.key e.source)
        published.toList p.steps := by
  constructor
  · intro j c d p t
    obtain ⟨q, hran, hsteps⟩ := exists_ran_apply j c d
    have hcount := count_eq_countP hsteps
    refine ⟨hsteps, total_apply j c d, count_tallyOf p.steps, hran.failures,
      ascending_failures j c d, ?_, ?_, ?_⟩
    · rw [hcount]
      exact hran.count_skip
    · intro s hs
      rw [hcount]
      exact hran.count_change hs
    · rw [hcount, hcount]
      exact hran.count_rest
  · intro published d p
    obtain ⟨q, hcleared⟩ := exists_cleared_clear published d
    obtain ⟨honce, hkeys⟩ := hcleared.keys_calls
    have hnames := congrArg (List.map Prod.fst) hcleared.names
    simp only [List.map_map, Function.comp_def] at hnames
    refine ⟨hnames, total_clear published d, count_tallyOf p.steps, hcleared.carried, ?_, honce,
      hkeys, hcleared.countedAs_iff⟩
    intro call hcall
    obtain ⟨e, -, hchange⟩ := hcleared.deletes hcall
    rw [hchange]
    rfl

private def tollJob : Job :=
  ⟨.ofList [.define "A" "new" "", .define "C" "c" ""],
    .ofList [.define "A" "old" "cn=A,dc=x", .define "B" "b" "cn=B,dc=x",
      .define "OLD" "b" "cn=B,dc=x"], "", ⟨"dc=x", {}⟩⟩
private def tollStates : Classification :=
  reconcile tollJob.localNames tollJob.published tollJob.domain
private def tolls : DirectoryStore :=
  (DirectoryStore.ofList [⟨"cn=A,dc=x", ∅⟩, ⟨"cn=B,dc=x", ∅⟩]).refuse .add "cn=C,dc=x"
    |>.refuse .delete "cn=B,dc=x"

/-- A refused addition and a refused deletion of an entry with two aliases are three failures, beside
one alias that is modified. A clearance that is refused the same deletion skips the two aliases. -/
theorem tolls_accounted :
    let t := (apply tollJob tollStates tolls).value.tally
    let p := (clear tollJob.published tolls).value
    t.failures.map (fun f => (f.name, f.intended)) =
        [("B", .absentLocally), ("C", .new), ("OLD", .absentLocally)] ∧
      t.total = 4 ∧ t.count .skip = 3 ∧ t.count .new = 0 ∧ t.count .modified = 1 ∧
      p.tally.total = 3 ∧ (p.calls.map (Dn.key ·.change.dn)).Nodup ∧
      p.steps.map (·.countedAs) = [.absentLocally, .skip, .skip] := by
  intro t p
  obtain ⟨happly, hclear⟩ := @tally_accounts DirectoryStore _
  obtain ⟨-, htotal, -, -, -, hskip, hchange, -⟩ := happly tollJob tollStates tolls
  obtain ⟨-, hcleared, -, -, -, honce, -⟩ := hclear tollJob.published tolls
  have hfailures : t.failures.map (fun f => (f.name, f.intended)) =
      [("B", .absentLocally), ("C", .new), ("OLD", .absentLocally)] := by decide +kernel
  refine ⟨hfailures, htotal.trans (by decide +kernel), ?_, ?_, ?_,
    hcleared.trans (by decide +kernel), honce, by decide +kernel⟩
  · have hlength := congrArg List.length hfailures
    rw [List.length_map] at hlength
    exact hskip.trans (by rw [hlength]; decide +kernel)
  · have hnew := hchange .new (.inl rfl)
    rw [show t.failures.countP (·.intended = .new) = 1 by decide +kernel,
      show tollStates.count .new = 1 by decide +kernel] at hnew
    exact Nat.succ.inj hnew
  · have hmodified := hchange .modified (.inr rfl)
    rw [show t.failures.countP (·.intended = .modified) = 0 by decide +kernel,
      show tollStates.count .modified = 1 by decide +kernel] at hmodified
    exact hmodified

end NetNames.Sync
