import NetNames.Proofs.Directory.Escaped
import NetNames.Proofs.Sync.Account
import NetNames.Proofs.Sync.Frame

/-! Where a pass adds the entries of new aliases. The place of an entry tells its name, so that an
alias is spared its own addition only if another alias of the same qualified name was added. -/
namespace NetNames.Sync

open Text

variable {σ : Type} [Directory σ] {j : Job} {c : Classification} {st : Step}

/-- A new alias that asks for nothing shares the entry that an earlier one of its qualified name
added. -/
theorem exists_added_of_spared (d : σ) {before after : List Step}
    (hsteps : (apply j c d).value.steps = before ++ st :: after) (hnew : st.status = .new)
    (hcall : st.call = none) (hcounted : st.outcome = .counted .new) :
    ∃ st' ∈ before, st'.status = .new ∧
      Alias.qualified st'.name j.domain = Alias.qualified st.name j.domain ∧ ∃ attributes,
        st'.call = some ⟨.add (j.layout.entryDn (Alias.qualified st.name j.domain)) attributes,
          none⟩ := by
  obtain ⟨p, hran, -⟩ := exists_ran_apply j c d
  rw [hsteps] at hran
  have haccounted := hran.accounted
  cases haccounted with
  | @settled name s o hi =>
    cases hnew
    cases hcounted
    simp only [Job.intent, Job.decision, Job.value_decideNew] at hi
    split at hi
    · cases hi
    · cases hi
  | done => cases hcall
  | refused => cases hcall
  | deleted => cases hcounted
  | undeleted => cases hcounted
  | @added name dn dn' s attributes attributes' hi hc hk =>
    obtain ⟨st', hst', hcall'⟩ := mem_callsOf.mp hc
    obtain ⟨hnew', -, -, rfl, -⟩ := (hran.asks (List.mem_append_left _ hst') hcall').adds
    obtain ⟨-, -, -, rfl, -⟩ := (Job.asks_of_intent hi).adds
    have hname := Layout.qualified_inj hk
    exact ⟨st', hst', hnew', hname, attributes', hname ▸ hcall'⟩

/-- The place of a new entry is faithful to its name, which is read back from it, lies one level
below the container, and is shared by no other upper-cased name. So a pass merges two new aliases
only if their qualified names are the same. -/
theorem entryDn_faithful (l : Layout)
    (hattr : ∀ c ∈ l.schema.nameAttribute.toList, c ≠ '=' ∧ c ≠ ',' ∧ c ≠ '\\') :
    (∀ name : String, name ≠ "" → (∀ c ∈ name.toList.head?, isBlank c = true → c = ' ') →
      (∀ c ∈ name.toList.getLast?, isBlank c = true → c = ' ') →
        Dn.firstValue? (l.entryDn name) = some name ∧
        (Dn.split (l.entryDn name)).2 = trimmed l.container ∧
        Scope.oneLevel.reaches l.container (l.entryDn name) = true) ∧
    (∀ a b : String, upperCase a = a → upperCase b = b →
      Dn.key (l.entryDn a) = Dn.key (l.entryDn b) → a = b) ∧
    ∀ (σ : Type) [Directory σ] (j : Job) (c : Classification) (d : σ), j.layout = l →
      ∀ before st after, (apply j c d).value.steps = before ++ st :: after → st.status = .new →
        st.call = none → st.outcome = .counted .new →
          ∃ st' ∈ before, st'.status = .new ∧
            Alias.qualified st'.name j.domain = Alias.qualified st.name j.domain ∧
            ∃ attributes, st'.call =
              some ⟨.add (l.entryDn (Alias.qualified st.name j.domain)) attributes, none⟩ := by
  refine ⟨fun name hne hfirst hlast => ⟨?_, l.split_entryDn hattr name, ?_⟩,
    fun a b ha hb => l.key_entryDn_inj_of_upperCase ha hb, ?_⟩
  · exact l.firstValue?_entryDn hattr hne hfirst hlast
  · exact l.reaches_entryDn (fun c hc => ⟨(hattr c hc).2.2, (hattr c hc).2.1⟩) name
  · rintro σ _ j c d rfl before st after hsteps
    exact exists_added_of_spared d hsteps

private def pierJob : Job :=
  ⟨.ofList [.define "DB" "d" "", .define "DB.LOCAL" "d" ""], ∅, "local",
    ⟨" ou=Pier, dc=x ", { nameAttribute := "CN" }⟩⟩

/-- A name with signs that are escaped and text that looks like an escape, which a comma is not
taken for, and two aliases that share an entry. -/
theorem pier_faithful :
    let l := pierJob.layout
    let name := "#A+1\\2CÉ "
    let p := (apply pierJob (reconcile pierJob.localNames pierJob.published pierJob.domain)
      (∅ : DirectoryStore)).value
    l.entryDn name = "CN=\\23A\\2b1\\5c2CÉ\\20, ou=Pier, dc=x " ∧
    Dn.firstValue? (l.entryDn name) = some name ∧
    (Dn.split (l.entryDn name)).2 = "ou=Pier, dc=x" ∧
    Scope.oneLevel.reaches l.container (l.entryDn name) = true ∧
    Dn.key (l.entryDn "A\\2CB") ≠ Dn.key (l.entryDn "A,B") ∧
    p.steps.map (fun st => (st.name, st.call.isSome)) = [("DB", true), ("DB.LOCAL", false)] ∧
    Alias.qualified "DB" "local" = Alias.qualified "DB.LOCAL" "local" := by
  intro l name p
  obtain ⟨hread, hinj, hmerged⟩ := entryDn_faithful l (by simp [l, pierJob])
  obtain ⟨hvalue, hparent, hscope⟩ := hread name (by decide) (by simp [name, isBlank])
    (by simp [name, isBlank])
  have hsteps : p.steps = [⟨"DB", .new, some ⟨.add "CN=DB.LOCAL, ou=Pier, dc=x "
      (l.newAttributes "DB.LOCAL" "d"), none⟩, .counted .new⟩] ++
        ⟨"DB.LOCAL", .new, none, .counted .new⟩ :: [] := by decide +kernel
  obtain ⟨st', hst', -, hname, -⟩ := hmerged _ _ _ _ rfl _ _ _ hsteps rfl rfl rfl
  cases List.mem_singleton.mp hst'
  refine ⟨by decide +kernel, hvalue, hparent.trans (by decide +kernel), hscope, fun h => ?_, ?_,
    hname⟩
  · exact absurd (hinj _ _ (by decide +kernel) (by decide +kernel) h) (by decide)
  · rw [hsteps]
    rfl

end NetNames.Sync
