import NetNames.Proofs.Alias.Qualified
import NetNames.Proofs.Files.Written
import NetNames.Proofs.NamesFile.Counted
import NetNames.Proofs.Sync.Convergence
import NetNames.Proofs.Text.Utf8

/-! The way of a new alias into the directory and back. It is added under its qualified name and then
published under it. Once the directory is exported and the file is read as local names, that name is
looked up as it stands and so leads to the entry that was added, unless the alias began with a
dot. -/
namespace NetNames.Sync

open Text NamesFile Published

section Added
variable {σ : Type} [Directory σ] {j : Job} {c : Classification} {d : σ} {st : Step}
  {dn : String} {attributes : Attributes} {refusal : Option DirectoryError}

/-- Whatever is added is named by what its alias is qualified to. -/
theorem adds_of_mem_steps (hst : st ∈ (apply j c d).value.steps)
    (hcall : st.call = some ⟨.add dn attributes, refusal⟩) :
    st.status = .new ∧ ∃ e, (j.localEntry st.name).value = some e ∧
      dn = j.layout.entryDn (Alias.qualified st.name j.domain) ∧
      attributes = j.layout.newAttributes (Alias.qualified st.name j.domain) e.description := by
  obtain ⟨p, hran, -⟩ := exists_ran_apply j c d
  exact (hran.asks hst hcall).adds

end Added

section Published
variable {localNames : Registry} {domain : String} {layout : Layout}
  {d : DirectoryStore} {st : Step} {dn : String} {attributes : Attributes}

/-- In a round an addition is that of a local alias that resolves to nothing yet. -/
theorem new_of_mem_steps (hl : localNames.Canonical)
    (hst : st ∈ (passOf localNames domain layout d).steps)
    (hcall : st.call = some ⟨.add dn attributes, none⟩) :
    ∃ a, localNames.get? st.name = some a ∧
      (mirror layout d).get? (Alias.qualified st.name domain) = none ∧
      dn = layout.entryDn (Alias.qualified st.name domain) ∧
      attributes = layout.newAttributes (Alias.qualified st.name domain) a.description := by
  obtain ⟨hnew, e, he, hdn, hattributes⟩ := adds_of_mem_steps hst hcall
  have hstate := state_of_mem_steps hst
  rw [hnew] at hstate
  obtain ⟨a, ha, hjudged⟩ := get?_reconcile_of_ne_absent hl hstate (by simp)
  have hentry : ((jobOf localNames domain layout d).localEntry st.name).value = some a := by
    rw [Job.localEntry, jobOf, ha]
    rfl
  cases hentry.symm.trans he
  have hunresolved := stateOf_eq_new_iff.mp hjudged.symm
  rw [(hl _ _ ha).1] at hunresolved
  exact ⟨e, ha, hunresolved, hdn, hattributes⟩

/-- What a round added is read under the qualified name, as long as the container is there. -/
theorem read_of_added {p : Pass DirectoryStore} (hu : layout.schema.Usable)
    (hl : localNames.Canonical) (hd : d.Filed)
    (hround : (round localNames domain layout d).value = .ok p) (hst : st ∈ p.steps)
    (hcall : st.call = some ⟨.add dn attributes, none⟩)
    (hc : p.directory.contains layout.container = true) :
    ∃ a r, localNames.get? st.name = some a ∧
      (Published.read layout p.directory).value = (.ok r, p.directory) ∧ r.Canonical ∧
      r.get? (Alias.qualified st.name domain) =
        some (.define (Alias.qualified st.name domain) a.description dn) := by
  obtain ⟨-, hr, rfl⟩ := eq_passOf_of_round hu hround
  obtain ⟨a, ha, hnew, rfl, rfl⟩ := new_of_mem_steps hl hst hcall
  have hadd : .add (layout.entryDn (Alias.qualified st.name domain))
      (layout.newAttributes (Alias.qualified st.name domain) a.description) ∈
        changesOf localNames domain layout d
          (Dn.key (layout.entryDn (Alias.qualified st.name domain))) :=
    mem_history.mpr ⟨mem_callsOf.mpr ⟨st, hst, hcall⟩, rfl⟩
  rw [← isRefused_passOf localNames domain] at hr
  exact ⟨a, _, ha, value_read_eq_mirror hu hr hc, canonical_mirror _ _,
    get?_mirror_of_new hu hl hd (Alias.upperCase_qualified _ _) hnew
      (stands_of_mem_changesOf hl hd hadd)⟩

end Published

section Reread
variable {published : Registry} {domain name stamp path : String} {r : ServiceEntry}

/-- How a published entry is found by its name once the registry has been read back from a file. -/
structure ReadBack (published : Registry) (domain name : String) (r : ServiceEntry)
    (stamp path : String) (again : Registry) : Prop where
  /-- A local alias of the name leads to the entry. -/
  resolved : ∀ e, again.get? name = some e →
    e.name = name ∧ Alias.resolve e.name published domain = some r
  judged : ∀ e, again.get? name = some e → (reconcile again published domain).get? name =
    some (if r.description = e.description then .unchanged else .modified)
  /-- There is a local alias of the name, if the file can be read. -/
  found : published.Canonical → '\n' ∉ stamp.toList →
    (∀ e ∈ published.toList, hasDescriptor e = true → Renderable e) → hasDescriptor r = true →
      again.get? name = some (.define name r.description path)

/-- An export is read back. A name that is qualified to itself then finds its entry. -/
theorem exists_readBack {v : FileView} (hq : Alias.qualified name domain = name)
    (hr : published.get? name = some r)
    (hread : v.read path = .ok (encode (render stamp published).toList)) (recursive : Bool) :
    ∃ again, (load v path recursive).value = .ok again ∧
      ReadBack published domain name r stamp path again := by
  have hresolve : Alias.resolve name published domain = some r := by
    rw [Alias.resolve, hq, hr]
  obtain ⟨follow, hload⟩ := value_load_of_read hread recursive
  rw [decodeLossy_encode] at hload
  have hagain := canonical_load hload
  refine ⟨_, hload, fun e he => ?_, fun e he => ?_, fun hp hstamp hrenderable hdescriptor => ?_⟩
  · obtain ⟨rfl, -⟩ := hagain name e he
    exact ⟨rfl, hresolve⟩
  · obtain ⟨rfl, -⟩ := hagain name e he
    rw [state_of_local hagain (Registry.mem_toList_iff.mpr ⟨_, he⟩), stateOf, hresolve]
  · obtain ⟨rfl, -⟩ := hp name r hr
    exact get?_readWith_render hp hstamp hrenderable follow _ _ (hp.mem_toList_iff.mpr hr)
      hdescriptor

end Reread

/-- What an alias is qualified to is qualified to itself, and found where the alias is found, just if
the alias does not begin with a dot or there is no domain. Whatever is added for the alias has that
name, is published under it, and is what the name leads to when it is read back from an export. -/
theorem qualified_stays {name : String} (hne : name ≠ "")
    (hname : ∀ c ∈ name.toList, isName c = true) (domain : String) :
    let q := Alias.qualified name domain
    (Alias.qualified q domain = q ↔ Alias.Stable name domain) ∧
    ((∀ r, Alias.resolve q r domain = Alias.resolve name r domain) ↔ Alias.Stable name domain) ∧
    ((∀ c ∈ (trimmed domain).toList, isName c = true) →
      q ≠ "" ∧ ∀ c ∈ q.toList, isName c = true) ∧
    (∀ (σ : Type) [Directory σ] (j : Job) (c : Classification) (d : σ), j.domain = domain →
      ∀ st ∈ (apply j c d).value.steps, st.name = name → ∀ dn attributes refusal,
        st.call = some ⟨.add dn attributes, refusal⟩ →
          ∃ e, (j.localEntry name).value = some e ∧ dn = j.layout.entryDn q ∧
            attributes = j.layout.newAttributes q e.description) ∧
    (∀ (localNames : Registry) (layout : Layout) (d : DirectoryStore) (p : Pass DirectoryStore),
      layout.schema.Usable → localNames.Canonical → d.Filed →
      (round localNames domain layout d).value = .ok p →
      p.directory.contains layout.container = true →
        ∀ st ∈ p.steps, st.name = name → ∀ dn attributes,
          st.call = some ⟨.add dn attributes, none⟩ →
            ∃ a r, localNames.get? name = some a ∧
              (Published.read layout p.directory).value = (.ok r, p.directory) ∧ r.Canonical ∧
              r.get? q = some (.define q a.description dn)) ∧
    (Alias.Stable name domain → ∀ (published : Registry) (r : ServiceEntry) (stamp path : String)
      (v : FileView), published.get? q = some r →
      v.read path = .ok (encode (render stamp published).toList) →
        ∀ recursive, ∃ again, (load v path recursive).value = .ok again ∧
          ReadBack published domain q r stamp path again) := by
  intro q
  have hstable : Alias.qualified q domain = q ↔ Alias.Stable name domain :=
    Alias.qualified_stable_iff hne hname domain
  refine ⟨hstable, (Alias.resolve_qualified_iff name domain).trans hstable,
    fun hdomain => ⟨Alias.qualified_ne_empty hne hname domain,
      Alias.isName_of_mem_qualified hname hdomain⟩, ?_, ?_, ?_⟩
  · rintro σ _ j c d rfl st hst rfl dn attributes refusal hcall
    exact (adds_of_mem_steps hst hcall).2
  · rintro localNames layout d p hu hl hd hround hc st hst rfl dn attributes hcall
    exact read_of_added hu hl hd hround hst hcall hc
  · intro h published r stamp path v hr hread recursive
    exact exists_readBack (hstable.mpr h) hr hread recursive

private def sluiceLayout : Layout := ⟨"dc=x", {}⟩
private def sluice : DirectoryStore := .ofList [⟨"dc=x", ∅⟩]
private def sluiceNames : Registry := .ofList [.define "gate" "(SID=g)" "names"]
private def sluiceAfter : DirectoryStore :=
  (passOf sluiceNames "harbour.net" sluiceLayout sluice).directory
private def sluicePublished : Registry :=
  .ofList [.define "GATE.HARBOUR.NET" "(SID=g)" "cn=GATE.HARBOUR.NET,dc=x"]

/-- A gate is added to an empty container, read back from an export of it, and found unchanged. -/
theorem gate_stays :
    let q := Alias.qualified "GATE" "harbour.net"
    let bytes := encode (render "2024" sluicePublished).toList
    "GATE" ≠ "" ∧ (∀ c ∈ "GATE".toList, isName c = true) ∧ Alias.Stable "GATE" "harbour.net" ∧
    q = "GATE.HARBOUR.NET" ∧ Alias.qualified q "harbour.net" = q ∧
    (Published.read sluiceLayout sluiceAfter).value = (.ok sluicePublished, sluiceAfter) ∧
    sluicePublished.get? q = some (.define q "(SID=g)" "cn=GATE.HARBOUR.NET,dc=x") ∧
    ∃ again, (load (FileTree.put ⟨["w"], []⟩ ["w", "names"] (.file bytes)) "names" false).value =
        .ok again ∧ again.get? q = some (.define q "(SID=g)" "names") ∧
      (reconcile again sluicePublished "harbour.net").get? q = some .unchanged := by
  intro q bytes
  have hne : "GATE" ≠ "" := by decide
  have hname : ∀ c ∈ "GATE".toList, isName c = true := List.all_eq_true.mp (by decide)
  have hstable : Alias.Stable "GATE" "harbour.net" := by decide
  obtain ⟨hq, -, -, -, hadded, hexported⟩ := qualified_stays hne hname "harbour.net"
  have hstep : (⟨"GATE", .new, some ⟨.add "cn=GATE.HARBOUR.NET,dc=x"
      (sluiceLayout.newAttributes "GATE.HARBOUR.NET" "(SID=g)"), none⟩, .counted .new⟩ : Step) ∈
        (passOf sluiceNames "harbour.net" sluiceLayout sluice).steps := by decide +kernel
  have hround : (round sluiceNames "harbour.net" sluiceLayout sluice).value =
      .ok (passOf sluiceNames "harbour.net" sluiceLayout sluice) :=
    round_eq_passOf Schema.usable_default (by decide +kernel) (by decide +kernel)
  obtain ⟨a, r, ha, hread, hcanonical, hr⟩ := hadded _ _ _ _ Schema.usable_default
    (Registry.canonical_ofList _) (DirectoryStore.filed_ofList _) hround (by decide +kernel) _ hstep
    rfl _ _ rfl
  have hlocal : sluiceNames.get? "GATE" = some (.define "GATE" "(SID=g)" "names") := by
    decide +kernel
  have hvalue : (Published.read sluiceLayout sluiceAfter).value.1 = .ok sluicePublished := by
    decide +kernel
  cases hlocal.symm.trans ha
  cases hvalue.symm.trans (congrArg Prod.fst hread)
  have htarget : FileTree.target ⟨["w"], []⟩ "names" = .ok ["w", "names"] := by decide +kernel
  have hfile := FileTree.read_write (FileTree.write_of_target htarget bytes)
  obtain ⟨again, hload, hback⟩ := hexported hstable sluicePublished _ "2024" "names"
    (FileTree.put ⟨["w"], []⟩ ["w", "names"] (.file bytes)).view hr hfile false
  have hfound := hback.found hcanonical (by decide) (by decide +kernel) (by decide +kernel)
  have hjudged := (hback.judged _ hfound).trans (congrArg some (if_pos rfl))
  exact ⟨hne, hname, hstable, by decide +kernel, hq.mpr hstable, hread, hr, again, hload, hfound,
    hjudged⟩

/-- An alias that begins with a dot gets the domain a second time. -/
theorem not_forall_qualified_stays : ¬ ∀ name domain : String, name ≠ "" →
    (∀ c ∈ name.toList, isName c = true) →
      Alias.qualified (Alias.qualified name domain) domain = Alias.qualified name domain := by
  intro h
  exact absurd (h ".XE" "local" (by decide) (List.all_eq_true.mp (by decide))) (by decide +kernel)

end NetNames.Sync
