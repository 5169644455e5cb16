import NetNames.Sync.Plan
import NetNames.Proofs.Directory.Published
import NetNames.Proofs.Sync.History

/-! What a pass leaves alone. Only entries that the search returned are replaced or deleted, a
replacement concerns the descriptor only, and whatever is new was added for an alias. A run that
fails has changed nothing. -/
namespace NetNames

namespace Sync
variable {j : Job} {retained : List String} {name k : String} {s : Status} {change : Change}

/-- What is replaced or deleted is the source of a published entry. -/
theorem Job.Asks.published (h : j.Asks retained name s change) (hadd : change.operation ≠ .add) :
    ∃ key e, j.published.get? key = some e ∧ e.source = change.dn := by
  cases h with
  | add => exact absurd rfl hadd
  | replace ht =>
    rcases Option.or_eq_some_iff.mp ht with hr | ⟨-, hg⟩
    · exact ⟨_, _, hr, rfl⟩
    · exact ⟨_, _, hg, rfl⟩
  | delete he =>
    rcases Option.or_eq_some_iff.mp he with hg | ⟨-, hr⟩
    · exact ⟨_, _, hg, rfl⟩
    · exact ⟨_, _, hr, rfl⟩

/-- Only the descriptor is replaced, by one value. -/
theorem Job.Asks.replaces (h : j.Asks retained name s change)
    (hmodify : change.operation = .modify) :
    ∃ dn v, change = .replace dn j.layout.schema.descriptorAttribute [v] := by
  cases h with
  | add => cases hmodify
  | replace => exact ⟨_, _, rfl⟩
  | delete => cases hmodify

theorem Job.Asks.adds {dn : String} {attributes : Attributes}
    (h : j.Asks retained name s (.add dn attributes)) :
    s = .new ∧ ∃ e, (j.localEntry name).value = some e ∧
      dn = j.layout.entryDn (Alias.qualified name j.domain) ∧
      attributes = j.layout.newAttributes (Alias.qualified name j.domain) e.description := by
  cases h with
  | add he => exact ⟨rfl, _, he, rfl, rfl⟩

section Pass
variable {c : Classification} {d : DirectoryStore} {layout : Layout} {es : List DirectoryEntry}
  {localNames : Registry} {domain : String}

theorem asks_of_mem_history (h : change ∈ history k (apply j c d).value.calls) :
    (∃ name s, c.get? name = some s ∧ j.Asks (j.retained c) name s change) ∧
      Dn.key change.dn = k := by
  obtain ⟨hmem, hk⟩ := mem_history.mp h
  exact ⟨asks_of_mem_calls hmem, hk⟩

/-- A change other than an addition has the name of an entry that the search returned. -/
theorem exists_of_mem_history (hj : j.published = Published.ofEntries layout.schema es)
    (h : change ∈ history k (apply j c d).value.calls) (hadd : change.operation ≠ .add) :
    ∃ f ∈ es, Dn.key f.dn = k := by
  obtain ⟨⟨name, s, -, hasks⟩, hk⟩ := asks_of_mem_history h
  obtain ⟨key, e, he, hsource⟩ := hasks.published hadd
  rw [hj] at he
  obtain ⟨f, hf, -, hdn, -⟩ := Published.exists_of_get?_ofEntries he
  exact ⟨f, hf, by rw [← hdn, hsource, hk]⟩

/-- Under the key of no entry that the search returned, there are only additions. -/
theorem add_of_mem_history (hj : j.published = Published.ofEntries layout.schema es)
    (hk : ∀ f ∈ es, Dn.key f.dn ≠ k) (h : change ∈ history k (apply j c d).value.calls) :
    change.operation = .add := by
  refine Decidable.byContradiction fun hne => ?_
  obtain ⟨f, hf, hfk⟩ := exists_of_mem_history hj h hne
  exact hk f hf hfk

theorem add_of_absent (hj : j.published = Published.ofEntries layout.schema es)
    (hes : ∀ f ∈ es, d.entries.get? (Dn.key f.dn) ≠ none) (hk : d.entries.get? k = none)
    (h : change ∈ history k (apply j c d).value.calls) : change.operation = .add :=
  add_of_mem_history hj (fun f hf hfk => hes f hf (hfk ▸ hk)) h

/-- An entry that the search did not return stays as it is. -/
theorem get?_apply_of_not_found (hj : j.published = Published.ofEntries layout.schema es)
    {e : DirectoryEntry} (he : d.entries.get? k = some e) (hk : ∀ f ∈ es, Dn.key f.dn ≠ k) :
    (apply j c d).value.directory.entries.get? k = some e := by
  have hevolves := (carried_apply j c d).evolves k
  rw [he] at hevolves
  exact hevolves.of_present fun _ hchange => add_of_mem_history hj hk hchange

/-- An entry that no deletion went through for keeps everything but its descriptor. -/
theorem get?_apply_of_not_deleted {e : DirectoryEntry} (he : d.entries.get? k = some e)
    (hk : ∀ dn, ⟨.delete dn, none⟩ ∈ (apply j c d).value.calls → Dn.key dn ≠ k) :
    ∃ f, (apply j c d).value.directory.entries.get? k = some f ∧
      Keeps j.layout.schema.descriptorAttribute e (history k (apply j c d).value.calls) f := by
  have hevolves := (carried_apply j c d).evolves k
  rw [he] at hevolves
  have hdelete : ∀ change ∈ history k (apply j c d).value.calls, change.operation ≠ .delete := by
    intro change hchange hdelete
    obtain ⟨hmem, hkey⟩ := mem_history.mp hchange
    cases change with
    | add => cases hdelete
    | replace => cases hdelete
    | delete dn => exact hk dn hmem hkey
  refine hevolves.of_kept hdelete fun change hchange hmodify => ?_
  obtain ⟨⟨name, s, -, hasks⟩, -⟩ := asks_of_mem_history hchange
  exact hasks.replaces hmodify

/-- Where nothing was, there is nothing or the entry of a new alias. -/
theorem get?_apply_of_absent (hj : j.published = Published.ofEntries layout.schema es)
    (hes : ∀ f ∈ es, d.entries.get? (Dn.key f.dn) ≠ none) (hk : d.entries.get? k = none)
    {e : DirectoryEntry} (he : (apply j c d).value.directory.entries.get? k = some e) :
    ∃ name entry, c.get? name = some .new ∧ (j.localEntry name).value = some entry ∧
      e = j.layout.newEntry (Alias.qualified name j.domain) entry.description := by
  have hevolves := (carried_apply j c d).evolves k
  rw [hk, he] at hevolves
  have hadd : ∀ change ∈ history k (apply j c d).value.calls, change.operation = .add :=
    fun _ hchange => add_of_absent hj hes hk hchange
  rcases hevolves.of_absent hadd with ⟨-, hs⟩ | ⟨dn, attributes, hh, hs⟩
  · cases hs
  · have hmem : .add dn attributes ∈ history k (apply j c d).value.calls := by
      rw [hh]
      exact List.mem_singleton_self _
    obtain ⟨⟨name, s, hs', hasks⟩, -⟩ := asks_of_mem_history hmem
    obtain ⟨rfl, entry, hentry, rfl, rfl⟩ := hasks.adds
    exact ⟨name, entry, hs', hentry, Option.some.inj hs⟩

end Pass

theorem value_readPublished (settings : Settings) (d : DirectoryStore) :
    (readPublished settings d).value = (((d.find settings.layout.search).map
      (Published.ofEntries settings.layout.schema)).mapError .directory, d) := by
  rw [readPublished, Logged.value_bind, Published.value_read]
  rfl

/-- A plan only reads. -/
theorem directory_plan (t : FileTree) (settings : Settings) (d : DirectoryStore) :
    (plan t settings d).value.2 = d := by
  rw [plan, Logged.value_bind]
  cases (Sync.domain t settings).value with
  | error e => rfl
  | ok domain =>
    dsimp only
    rw [Logged.value_bind]
    cases (loadLocal t settings).value with
    | error e => rfl
    | ok localNames =>
      dsimp only
      rw [Logged.value_bind, value_readPublished]
      cases d.find settings.layout.search <;> rfl

theorem directory_run_error {started completed : String} {t : FileTree} {settings : Settings}
    {d : DirectoryStore} {e : SyncError}
    (h : (run started completed t settings d).value.1 = .error e) :
    (run started completed t settings d).value.2 = d := by
  have hplan := directory_plan t settings d
  rw [run, Logged.value_bind] at h ⊢
  rcases hp : (plan t settings d).value with ⟨_ | p, d'⟩
  · rw [hp] at hplan
    exact hplan
  · rw [hp] at h
    cases h

theorem directory_clearPublished_error {settings : Settings} {d : DirectoryStore} {e : SyncError}
    (h : (clearPublished settings d).value.1 = .error e) :
    (clearPublished settings d).value.2 = d := by
  rw [clearPublished, Logged.value_bind, value_readPublished] at h ⊢
  cases hf : d.find settings.layout.search with
  | error e => rfl
  | ok es =>
    rw [hf] at h
    cases h

/-- A pass touches only service entries, whatever it refuses to do on the way: what the search did
not return stays as it is, what it returned keeps all but the descriptor unless it is deleted, and
whatever is new is the entry of a new alias. A run or a clearance that fails changes nothing. -/
theorem apply_touches_only_services :
    (∀ (layout : Layout) (d : DirectoryStore) (es : List DirectoryEntry) (localNames : Registry)
      (domain : String) (c : Classification), d.Filed → d.find layout.search = .ok es →
      let j : Job := ⟨localNames, Published.ofEntries layout.schema es, domain, layout⟩
      let p := (apply j c d).value
      (∀ dn e, d.get? dn = some e → (∀ f ∈ es, Dn.key f.dn ≠ Dn.key dn) →
        p.directory.get? dn = some e) ∧
      (∀ f ∈ es, (∀ dn, ⟨.delete dn, none⟩ ∈ p.calls → Dn.key dn ≠ Dn.key f.dn) →
        ∃ e e', d.get? f.dn = some e ∧ f = e.project layout.search.attributes ∧
          p.directory.get? f.dn = some e' ∧
          e.AgreesOutside layout.schema.descriptorAttribute e') ∧
      ∀ dn e, d.get? dn = none → p.directory.get? dn = some e →
        ∃ name entry, c.get? name = some .new ∧ (j.localEntry name).value = some entry ∧
          e = layout.newEntry (Alias.qualified name domain) entry.description) ∧
    (∀ started completed t settings (d : DirectoryStore) e,
      (run started completed t settings d).value.1 = .error e →
        (run started completed t settings d).value.2 = d) ∧
    ∀ settings (d : DirectoryStore) e, (clearPublished settings d).value.1 = .error e →
      (clearPublished settings d).value.2 = d := by
  refine ⟨?_, fun _ _ _ _ _ _ => directory_run_error, fun _ _ _ => directory_clearPublished_error⟩
  intro layout d es localNames domain c hd hes j p
  refine ⟨?_, ?_, ?_⟩
  · intro dn e he hk
    exact get?_apply_of_not_found rfl he hk
  · intro f hf hk
    obtain ⟨e, he, hproject, -⟩ := hd.exists_of_find hes hf
    obtain ⟨e', he', hkeeps⟩ := get?_apply_of_not_deleted he hk
    exact ⟨e, e', he, hproject, he', hkeeps.agrees⟩
  · intro dn e hk he
    refine get?_apply_of_absent rfl (fun f hf hnone => ?_) hk he
    obtain ⟨e', he', -⟩ := hd.exists_of_find hes hf
    rw [hnone] at he'
    cases he'

private def staffLayout : Layout := ⟨"dc=x", {}⟩
private def ann : DirectoryEntry := ⟨"cn=ANN,dc=x", .ofList [("objectClass", ["person"])]⟩
private def xe : DirectoryEntry := staffLayout.newEntry "XE" "old"
private def staff : DirectoryStore := .ofList [⟨"dc=x", ∅⟩, ann, xe]
private def staffFound : List DirectoryEntry :=
  (staffLayout.services staff).map (·.project staffLayout.search.attributes)
private def staffJob : Job :=
  ⟨.ofList [.define "XE" "new" "", .define "DB" "d" ""],
    Published.ofEntries staffLayout.schema staffFound, "", staffLayout⟩
private def staffStates : Classification :=
  reconcile staffJob.localNames staffJob.published staffJob.domain

/-- A person below the container is left alone while a service is modified and another one added. -/
theorem apply_spares_person :
    let p := (apply staffJob staffStates staff).value
    p.tally.isConverged = true ∧ p.directory.get? "cn=ANN,dc=x" = some ann ∧
      (∃ e, p.directory.get? "cn=XE,dc=x" = some e ∧ xe.AgreesOutside "orclNetDescString" e) ∧
      ∃ e, p.directory.get? "cn=DB,dc=x" = some e ∧ ∃ name entry,
        staffStates.get? name = some .new ∧ (staffJob.localEntry name).value = some entry ∧
          e = staffLayout.newEntry (Alias.qualified name "") entry.description := by
  have hfound : staff.find staffLayout.search = .ok staffFound :=
    Layout.find_search Schema.usable_default (by decide +kernel) (by decide +kernel)
  obtain ⟨hframe, hkept, hnew⟩ := apply_touches_only_services.1 staffLayout staff staffFound
    staffJob.localNames "" staffStates (DirectoryStore.filed_ofList _) hfound
  refine ⟨by decide +kernel, ?_, ?_, ?_⟩
  · exact hframe _ _ (by decide +kernel) (by decide +kernel)
  · have hdelete : ∀ call ∈ (apply staffJob staffStates staff).value.calls,
        call.change.operation ≠ .delete := by decide +kernel
    have hdn : (xe.project staffLayout.search.attributes).dn = "cn=XE,dc=x" := by decide +kernel
    have hold : staff.get? "cn=XE,dc=x" = some xe := by decide +kernel
    obtain ⟨e, e', he, -, he', hagree⟩ := hkept (xe.project staffLayout.search.attributes)
      (by decide +kernel) fun dn hmem => absurd rfl (hdelete _ hmem)
    rw [hdn] at he he'
    cases hold.symm.trans he
    exact ⟨e', he', hagree⟩
  · obtain ⟨e, he⟩ := Option.isSome_iff_exists.mp
      (show ((apply staffJob staffStates staff).value.directory.get? "cn=DB,dc=x").isSome = true by
        decide +kernel)
    exact ⟨e, he, hnew _ e (by decide +kernel) he⟩

end Sync
end NetNames
