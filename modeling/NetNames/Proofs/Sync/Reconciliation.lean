import NetNames.Sync.Reconcile
import NetNames.Proofs.Registry.Canonical

/-! What a comparison says of each name. A local alias is judged by what it resolves to; a published
name that no local alias resolves to is absent locally, and no other name has a state. The order in
which the local aliases are visited does not matter. -/
namespace NetNames.Sync
variable {localNames published : Registry} {domain name : String} {e r : ServiceEntry} {s : Status}

/-- Whether a local alias resolves to the published entry of this name. -/
def claimed (localNames published : Registry) (domain name : String) : Bool :=
  localNames.toList.any fun e => (Alias.resolve e.name published domain).any (·.name == name)

theorem claimed_iff : claimed localNames published domain name = true ↔
    ∃ e ∈ localNames.toList, ∃ r,
      Alias.resolve e.name published domain = some r ∧ r.name = name := by
  rw [claimed, List.any_eq_true]
  simp only [Option.any_eq_true, beq_iff_eq]

theorem get?_seeds (published : Registry) (name : String) : (seeds published).get? name =
    if name ∈ published.names then some .absentLocally else none := by
  have key : ∀ (names : List String) (c : Classification),
      (names.foldl (fun c name => c.insert name .absentLocally) c).get? name =
        if name ∈ names then some .absentLocally else c.get? name := by
    intro names
    induction names with
    | nil => simp
    | cons n names ih =>
      intro c
      rw [List.foldl_cons, ih, Classification.get?_insert]
      by_cases h : name = n <;> simp [h]
  exact key published.names ∅

theorem get?_claim (c : Classification) (e : ServiceEntry) :
    (claim localNames published domain c e).get? name =
      if name = e.name then some (stateOf published domain e)
      else if (Alias.resolve e.name published domain).any (·.name == name) &&
        !localNames.contains name then none else c.get? name := by
  rw [claim, Classification.get?_insert]
  split
  · rfl
  · cases Alias.resolve e.name published domain with
    | none => rfl
    | some r =>
      dsimp only [Option.any_some]
      by_cases hr : r.name = name
      · subst hr
        cases localNames.contains r.name <;> simp [Classification.get?_erase]
      · split
        · simp [hr]
        · rw [Classification.get?_erase, if_neg (Ne.symm hr)]
          simp [hr]

/-- A local alias keeps the state that it is given, whoever claims its name. -/
private theorem get?_foldl_claim_local (hl : localNames.Canonical)
    (h : localNames.get? name = some e) {es : List ServiceEntry} (hes : es ⊆ localNames.toList)
    (c : Classification) (hc : e ∈ es ∨ c.get? name = some (stateOf published domain e)) :
    (es.foldl (claim localNames published domain) c).get? name =
      some (stateOf published domain e) := by
  induction es generalizing c with
  | nil => exact hc.resolve_left List.not_mem_nil
  | cons f es ih =>
    refine ih (fun x hx => hes (List.mem_cons_of_mem f hx)) _ ?_
    have hin : localNames.contains name = true := Registry.contains_iff.mpr ⟨e, h⟩
    by_cases hf : name = f.name
    · have hf' : localNames.get? f.name = some f :=
        hl.mem_toList_iff.mp (hes List.mem_cons_self)
      rw [← hf, h] at hf'
      cases hf'
      right
      rw [get?_claim, if_pos hf]
    · rcases hc with hc | hc
      · rcases List.mem_cons.mp hc with rfl | hc
        · exact absurd (hl name e h).1.symm hf
        · exact .inl hc
      · right
        rw [get?_claim, if_neg hf, hin]
        simpa using hc

private theorem get?_foldl_claim_foreign (h : localNames.contains name = false)
    {es : List ServiceEntry} (hes : ∀ f ∈ es, name ≠ f.name) (c : Classification) :
    (es.foldl (claim localNames published domain) c).get? name =
      if es.any fun f => (Alias.resolve f.name published domain).any (·.name == name) then none
      else c.get? name := by
  induction es generalizing c with
  | nil => rfl
  | cons f es ih =>
    rw [List.foldl_cons, ih fun x hx => hes x (List.mem_cons_of_mem f hx), get?_claim,
      if_neg (hes f List.mem_cons_self), h, List.any_cons]
    cases (Alias.resolve f.name published domain).any (·.name == name) <;> simp

/-- The state of a name once every local entry has been visited, in whatever order and however
often. -/
theorem get?_foldl_claim (hl : localNames.Canonical) {es : List ServiceEntry}
    (hes : ∀ f, f ∈ es ↔ f ∈ localNames.toList) (c : Classification) :
    (es.foldl (claim localNames published domain) c).get? name =
      match localNames.get? name with
      | some e => some (stateOf published domain e)
      | none => if claimed localNames published domain name then none else c.get? name := by
  cases h : localNames.get? name with
  | some e =>
    refine get?_foldl_claim_local hl h (fun f hf => (hes f).mp hf) _ (.inl ?_)
    rw [hes, hl.mem_toList_iff, (hl name e h).1, h]
  | none =>
    have hout : localNames.contains name = false := by
      rw [Registry.contains, Keyed.contains, ← Registry.get?, h, Option.isSome_none]
    have hne : ∀ f ∈ es, name ≠ f.name := by
      rintro f hf rfl
      rw [hl.mem_toList_iff.mp ((hes f).mp hf)] at h
      cases h
    have hclaimed : (es.any fun f =>
        (Alias.resolve f.name published domain).any (·.name == name)) =
          claimed localNames published domain name := by
      rw [Bool.eq_iff_iff, claimed, List.any_eq_true, List.any_eq_true]
      simp only [hes]
    rw [get?_foldl_claim_foreign hout hne, hclaimed]

theorem get?_reconcile (hl : localNames.Canonical) (published : Registry) (domain name : String) :
    (reconcile localNames published domain).get? name =
      match localNames.get? name with
      | some e => some (stateOf published domain e)
      | none =>
        if claimed localNames published domain name then none
        else if name ∈ published.names then some .absentLocally else none := by
  rw [reconcile, get?_foldl_claim hl (fun _ => Iff.rfl), get?_seeds]

/-- Only a name that is published and neither local nor claimed is absent locally. -/
theorem get?_reconcile_absent (hl : localNames.Canonical) :
    (reconcile localNames published domain).get? name = some .absentLocally ↔
      localNames.get? name = none ∧ claimed localNames published domain name = false ∧
        name ∈ published.names := by
  rw [get?_reconcile hl]
  cases localNames.get? name with
  | some e =>
    simp only [reduceCtorEq, false_and, iff_false, Option.some.injEq, stateOf]
    split
    · split <;> simp
    · simp
  | none =>
    cases claimed localNames published domain name <;> simp

/-- Every other state is the judgement of a local alias. -/
theorem get?_reconcile_of_ne_absent (hl : localNames.Canonical)
    (h : (reconcile localNames published domain).get? name = some s) (hs : s ≠ .absentLocally) :
    ∃ e, localNames.get? name = some e ∧ s = stateOf published domain e := by
  rw [get?_reconcile hl] at h
  cases he : localNames.get? name with
  | some e =>
    rw [he] at h
    cases h
    exact ⟨e, rfl, rfl⟩
  | none =>
    rw [he] at h
    dsimp only at h
    split at h
    · cases h
    · split at h
      · cases h
        exact absurd rfl hs
      · cases h

theorem stateOf_eq_new_iff : stateOf published domain e = .new ↔
    Alias.resolve e.name published domain = none := by
  rw [stateOf]
  cases Alias.resolve e.name published domain with
  | none => simp
  | some r =>
    dsimp only
    split <;> simp

theorem stateOf_eq_unchanged_iff : stateOf published domain e = .unchanged ↔
    ∃ r, Alias.resolve e.name published domain = some r ∧ r.description = e.description := by
  rw [stateOf]
  cases Alias.resolve e.name published domain with
  | none => simp
  | some r =>
    dsimp only
    split <;> simp [*]

theorem stateOf_eq_modified_iff : stateOf published domain e = .modified ↔
    ∃ r, Alias.resolve e.name published domain = some r ∧ r.description ≠ e.description := by
  rw [stateOf]
  cases Alias.resolve e.name published domain with
  | none => simp
  | some r =>
    dsimp only
    split <;> simp [*]

theorem stateOf_ne_skip (published : Registry) (domain : String) (e : ServiceEntry) :
    stateOf published domain e ≠ .skip := by
  rw [stateOf]
  split
  · split <;> simp
  · simp

theorem state_of_local (hl : localNames.Canonical) (he : e ∈ localNames.toList)
    (published : Registry) (domain : String) :
    (reconcile localNames published domain).get? e.name = some (stateOf published domain e) := by
  rw [get?_reconcile hl, hl.mem_toList_iff.mp he]

/-- A name that a local alias resolves to is never absent locally. -/
theorem not_absent_of_resolve (hl : localNames.Canonical) (he : e ∈ localNames.toList)
    (hr : Alias.resolve e.name published domain = some r) :
    (reconcile localNames published domain).get? r.name ≠ some .absentLocally := by
  rw [ne_eq, get?_reconcile_absent hl, claimed_iff.mpr ⟨e, he, r, hr, rfl⟩]
  simp

/-- A name is claimed if it is published and some local alias is qualified to it. -/
theorem claimed_iff_qualified (hp : published.Canonical) :
    claimed localNames published domain name = true ↔ published.contains name = true ∧
      ∃ e ∈ localNames.toList, Alias.qualified e.name domain = name := by
  rw [claimed_iff, Registry.contains_iff]
  constructor
  · rintro ⟨e, he, r, hr, rfl⟩
    have hname : r.name = Alias.qualified e.name domain := (hp _ r hr).1
    exact ⟨⟨r, hname ▸ hr⟩, e, he, hname.symm⟩
  · rintro ⟨⟨r, hr⟩, e, he, rfl⟩
    exact ⟨e, he, r, hr, (hp _ r hr).1⟩

theorem isSome_get?_reconcile (hl : localNames.Canonical) (hp : published.Canonical) :
    ((reconcile localNames published domain).get? name).isSome = true ↔
      localNames.contains name = true ∨ published.contains name = true ∧
        ∀ e ∈ localNames.toList, Alias.qualified e.name domain ≠ name := by
  rw [get?_reconcile hl, Registry.contains_iff (r := localNames)]
  cases localNames.get? name with
  | some e => simp
  | none =>
    have hclaimed : claimed localNames published domain name = true ↔
        published.contains name = true ∧
          ∃ e ∈ localNames.toList, Alias.qualified e.name domain = name :=
      claimed_iff_qualified hp
    have hnames : name ∈ published.names ↔ published.contains name = true :=
      Registry.mem_names_iff.trans Registry.contains_iff.symm
    simp only [hnames]
    cases hc : claimed localNames published domain name with
    | true =>
      obtain ⟨-, e, he, hq⟩ := hclaimed.mp hc
      simpa using fun _ => ⟨e, he, hq⟩
    | false =>
      rw [hc] at hclaimed
      cases hn : published.contains name with
      | true =>
        rw [hn] at hclaimed
        simpa using hclaimed
      | false => simp

theorem get?_reconcile_ne_skip (hl : localNames.Canonical) (published : Registry)
    (domain name : String) : (reconcile localNames published domain).get? name ≠ some .skip := by
  intro hskip
  obtain ⟨e, -, hstate⟩ := get?_reconcile_of_ne_absent hl hskip (by simp)
  exact stateOf_ne_skip published domain e hstate.symm

/-- A comparison classifies exactly. Its names are the local ones and the published ones that no
local alias is qualified to; a local alias is judged by the published entry of its qualified name,
every other name is absent locally, and it makes no difference in what order, or how often, the
local entries are visited. -/
theorem reconcile_classifies (hl : localNames.Canonical) (hp : published.Canonical)
    (domain : String) :
    let c := reconcile localNames published domain
    (∀ name, (c.get? name).isSome = true ↔ localNames.contains name = true ∨
      published.contains name = true ∧
        ∀ e ∈ localNames.toList, Alias.qualified e.name domain ≠ name) ∧
    (∀ e ∈ localNames.toList,
      (c.get? e.name = some .new ↔ published.get? (Alias.qualified e.name domain) = none) ∧
      (c.get? e.name = some .unchanged ↔
        ∃ r, published.get? (Alias.qualified e.name domain) = some r ∧
          r.description = e.description) ∧
      (c.get? e.name = some .modified ↔
        ∃ r, published.get? (Alias.qualified e.name domain) = some r ∧
          r.description ≠ e.description)) ∧
    (∀ name s, c.get? name = some s → localNames.contains name = false → s = .absentLocally) ∧
    (∀ name, c.get? name ≠ some .skip) ∧
    ∀ es : List ServiceEntry, (∀ e, e ∈ es ↔ e ∈ localNames.toList) →
      es.foldl (claim localNames published domain) (seeds published) = c := by
  intro c
  refine ⟨fun name => isSome_get?_reconcile hl hp, fun e he => ?_, ?_,
    get?_reconcile_ne_skip hl published domain, ?_⟩
  · have hstate : c.get? e.name = some (stateOf published domain e) :=
      state_of_local hl he published domain
    simp only [hstate, Option.some.injEq]
    exact ⟨stateOf_eq_new_iff, stateOf_eq_unchanged_iff, stateOf_eq_modified_iff⟩
  · intro name s hs hforeign
    refine Decidable.byContradiction fun hne => ?_
    obtain ⟨e, he, -⟩ := get?_reconcile_of_ne_absent hl hs hne
    rw [Registry.contains_iff.mpr ⟨e, he⟩] at hforeign
    cases hforeign
  · intro es hes
    refine Classification.ext fun name => ?_
    rw [get?_foldl_claim hl hes]
    exact (get?_foldl_claim hl (fun _ => Iff.rfl) _).symm

private def towns : Registry :=
  .ofList [.define "XE" "d" "", .define "XE.LOCAL" "e" "", .define "DB" "d" ""]
private def townsPublished : Registry :=
  .ofList [.define "XE.LOCAL" "d" "cn=XE.LOCAL,dc=x", .define "XE" "o" "cn=XE,dc=x",
    .define "OLD" "o" "cn=OLD,dc=x"]

/-- Two local aliases claim one published name that is local too, and another claims none. -/
theorem classified_towns :
    let c := reconcile towns townsPublished "local"
    c.get? "XE" = some .unchanged ∧ c.get? "XE.LOCAL" = some .modified ∧
      c.get? "DB" = some .new ∧ (c.get? "OLD").isSome = true ∧ c.get? "DB.LOCAL" = none ∧
      towns.toList.reverse.foldl (claim towns townsPublished "local") (seeds townsPublished) =
        c := by
  intro c
  have htowns : towns.Canonical := Registry.canonical_ofList _
  have hpublished : townsPublished.Canonical := Registry.canonical_ofList _
  obtain ⟨hnames, hstates, -, -, horder⟩ := reconcile_classifies htowns hpublished "local"
  obtain ⟨-, hunchanged, -⟩ := hstates (.define "XE" "d" "") (by decide +kernel)
  obtain ⟨-, -, hmodified⟩ := hstates (.define "XE.LOCAL" "e" "") (by decide +kernel)
  obtain ⟨hnew, -, -⟩ := hstates (.define "DB" "d" "") (by decide +kernel)
  refine ⟨?_, ?_, ?_, ?_, ?_, horder _ fun e => List.mem_reverse⟩
  · exact hunchanged.mpr ⟨.define "XE.LOCAL" "d" "cn=XE.LOCAL,dc=x", by decide +kernel, rfl⟩
  · exact hmodified.mpr
      ⟨.define "XE.LOCAL" "d" "cn=XE.LOCAL,dc=x", by decide +kernel, by decide +kernel⟩
  · exact hnew.mpr (by decide +kernel)
  · exact (hnames "OLD").mpr (.inr ⟨by decide +kernel, by decide +kernel⟩)
  · refine Option.not_isSome_iff_eq_none.mp fun hsome => ?_
    rcases (hnames "DB.LOCAL").mp hsome with h | ⟨h, -⟩
    · exact absurd h (by decide +kernel)
    · exact absurd h (by decide +kernel)

end NetNames.Sync
