import NetNames.Directory.Store
import NetNames.Proofs.Sync.Account
import NetNames.Proofs.Sync.Reconciliation

/-! What a pass deletes, whatever the directory answers. An entry goes only if every published alias
of it is absent locally, and its deletion is tried once; after a comparison of the registries no
entry that a local alias resolves to is deleted, nor one that is modified. -/
namespace NetNames.Sync
variable {j : Job} {c : Classification} {name dn : String} {s : Status} {e r : ServiceEntry}

/-- What is retained is the source of an alias that is not absent. -/
theorem Job.mem_retained_iff {k : String} : k ∈ j.retained c ↔
    ∃ e ∈ j.published.toList, c.get? e.name ≠ some .absentLocally ∧ Dn.key e.source = k := by
  simp only [retained, List.mem_map, List.mem_filter, bne_iff_ne, and_assoc]

/-- An entry is asked to be deleted only if no published alias of it is kept. -/
theorem Job.Asks.absent (h : j.Asks (j.retained c) name s (.delete dn))
    (he : e ∈ j.published.toList) (hk : Dn.key e.source = Dn.key dn) :
    c.get? e.name = some .absentLocally := by
  refine Decidable.byContradiction fun hkept => ?_
  cases h with
  | delete _ hr => exact hr (Job.mem_retained_iff.mpr ⟨e, he, hkept, hk⟩)

/-- The entry that a local alias resolves to is not asked to be deleted. -/
theorem Job.Asks.not_resolved (h : j.Asks (j.retained c) name s (.delete dn))
    (hl : j.localNames.Canonical) (hc : c = reconcile j.localNames j.published j.domain)
    (he : e ∈ j.localNames.toList)
    (hr : Alias.resolve e.name j.published j.domain = some r) :
    Dn.key r.source ≠ Dn.key dn := by
  intro hk
  have hmem : r ∈ j.published.toList := Registry.mem_toList_iff.mpr ⟨_, hr⟩
  exact not_absent_of_resolve hl he hr (hc ▸ h.absent hmem hk)

/-- After a comparison of the registries, a replacement concerns what its alias resolves to. -/
theorem Job.Asks.resolved {retained : List String} {dn field : String} {values : List String}
    (h : j.Asks retained name s (.replace dn field values)) (hl : j.localNames.Canonical)
    (hs : (reconcile j.localNames j.published j.domain).get? name = some s) :
    ∃ e r, j.localNames.get? name = some e ∧ e.name = name ∧
      Alias.resolve name j.published j.domain = some r ∧ r.source = dn ∧
      r.description ≠ e.description ∧
      field = j.layout.schema.descriptorAttribute ∧ values = [e.description] := by
  cases h with
  | replace ht he =>
    obtain ⟨e, hlocal, hstate⟩ := get?_reconcile_of_ne_absent hl hs (by simp)
    obtain ⟨r, hr, hne⟩ := stateOf_eq_modified_iff.mp hstate.symm
    have hname := (hl name e hlocal).1
    rw [hname] at hr
    rw [hr, Option.some_or] at ht
    cases ht
    rw [localEntry, hlocal] at he
    cases he
    exact ⟨_, _, hlocal, hname, hr, rfl, hne, rfl, rfl⟩

/-- What is modified is not asked to be deleted. -/
theorem Job.Asks.not_modified {name' field : String} {s' : Status} {dn' : String}
    {retained : List String} {values : List String}
    (h : j.Asks (j.retained c) name s (.delete dn)) (hl : j.localNames.Canonical)
    (hc : c = reconcile j.localNames j.published j.domain) (hs' : c.get? name' = some s')
    (h' : j.Asks retained name' s' (.replace dn' field values)) : Dn.key dn' ≠ Dn.key dn := by
  obtain ⟨e, r, hlocal, hname, hr, rfl, -⟩ := h'.resolved hl (hc ▸ hs')
  exact h.not_resolved hl hc (Registry.mem_toList_iff.mpr ⟨name', hlocal⟩) (hname.symm ▸ hr)

variable {σ : Type} [Directory σ]

/-- A pass over any classification deletes a name at most once and only if all its published aliases
are absent locally. After a comparison it spares what local aliases resolve to and what it
modifies. -/
theorem apply_deletes_only_absent (j : Job) (c : Classification) (d : σ) :
    Carried d (apply j c d).value.calls (apply j c d).value.directory ∧
    DeletesOnce (apply j c d).value.calls ∧
    ∀ call ∈ (apply j c d).value.calls, ∀ dn, call.change = .delete dn →
      (∀ e ∈ j.published.toList, Dn.key e.source = Dn.key dn →
        c.get? e.name = some .absentLocally) ∧
      (j.localNames.Canonical → c = reconcile j.localNames j.published j.domain →
        (∀ e ∈ j.localNames.toList, ∀ r, Alias.resolve e.name j.published j.domain = some r →
          Dn.key r.source ≠ Dn.key dn) ∧
        ∀ call' ∈ (apply j c d).value.calls, ∀ dn' field values,
          call'.change = .replace dn' field values → Dn.key dn' ≠ Dn.key dn) := by
  refine ⟨carried_apply j c d, deletesOnce_apply j c d, ?_⟩
  intro call hcall dn hdn
  obtain ⟨name, s, -, hasks⟩ := asks_of_mem_calls hcall
  rw [hdn] at hasks
  refine ⟨fun e he hk => hasks.absent he hk, ?_⟩
  intro hl hc
  refine ⟨fun e he r hr => hasks.not_resolved hl hc he hr, ?_⟩
  intro call' hcall' dn' field values hreplace
  obtain ⟨name', s', hs', hasks'⟩ := asks_of_mem_calls hcall'
  rw [hreplace] at hasks'
  exact hasks.not_modified hl hc hs' hasks'

/-- Beside a kept entry a retired one is deleted, in the state that the theorem gives it. -/
theorem apply_deletes_retired :
    let j : Job := ⟨.ofList [.define "KEPT" "d" "names"],
      .ofList [.define "KEPT" "d" "cn=KEPT,dc=x", .define "OLD" "d" "cn=OLD,dc=x"], "",
      ⟨"dc=x", {}⟩⟩
    let c := reconcile j.localNames j.published j.domain
    let p := (apply j c (∅ : DirectoryStore)).value
    p.calls.map (·.change) = [.delete "cn=OLD,dc=x"] ∧ c.get? "OLD" = some .absentLocally ∧
      Dn.key "cn=KEPT,dc=x" ≠ Dn.key "cn=OLD,dc=x" := by
  intro j c p
  have hcalls : p.calls.map (·.change) = [.delete "cn=OLD,dc=x"] := by decide +kernel
  obtain ⟨call, hcall, hchange⟩ := List.mem_map.mp (hcalls ▸ List.mem_singleton_self _)
  obtain ⟨-, -, hdeletes⟩ := apply_deletes_only_absent j c (∅ : DirectoryStore)
  obtain ⟨habsent, hkept⟩ := hdeletes call hcall _ hchange
  refine ⟨hcalls, ?_, ?_⟩
  · exact habsent (.define "OLD" "d" "cn=OLD,dc=x") (by decide +kernel) rfl
  · exact (hkept (Registry.canonical_ofList _) rfl).1 (.define "KEPT" "d" "names")
      (by decide +kernel) (.define "KEPT" "d" "cn=KEPT,dc=x") (by decide +kernel)

end NetNames.Sync
