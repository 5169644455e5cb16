import NetNames.Proofs.NamesFile.Loaded
import NetNames.Proofs.Sync.Compared

/-! One round: reading the published names, comparing them and applying the difference. After it
every entry under a key is an old one with at most another descriptor, or the new entry of a local
alias, or gone. -/
namespace NetNames.Sync

open Published

/-- Reads, compares and applies, as a run does with the names and settings it has loaded. -/
def round {σ : Type} [Directory σ] (localNames : Registry) (domain : String) (layout : Layout)
    (d : σ) : Logged (Except DirectoryError (Pass σ)) := do
  let (found, d) ← Published.read layout d
  match found with
  | .error e => return .error e
  | .ok published =>
    let states ← reconcileLogged localNames published domain
    let pass ← apply ⟨localNames, published, domain, layout⟩ states d
    return .ok pass

theorem round_ok_iff {localNames : Registry} {domain : String} {layout : Layout}
    {d : DirectoryStore} {p : Pass DirectoryStore} :
    (round localNames domain layout d).value = .ok p ↔ ∃ es, d.find layout.search = .ok es ∧
      p = (apply ⟨localNames, ofEntries layout.schema es, domain, layout⟩
        (reconcile localNames (ofEntries layout.schema es) domain) d).value := by
  rw [round, Logged.value_bind, Published.value_read]
  cases d.find layout.search with
  | error e => simp [Except.map]
  | ok es =>
    simp only [Except.map, Logged.value_bind, value_reconcileLogged, Logged.value_pure,
      Except.ok.injEq, exists_eq_left', eq_comm]

/-- The names that a run loads are a canonical registry. -/
theorem canonical_loadLocal {t : FileTree} {settings : Settings} {localNames : Registry}
    (h : (loadLocal t settings).value = .ok localNames) : localNames.Canonical := by
  rw [loadLocal, Logged.value_map] at h
  cases hr : (NamesFile.load t settings.names.file settings.names.recursive).value with
  | error e =>
    rw [hr] at h
    cases h
  | ok found =>
    rw [hr] at h
    cases h
    exact NamesFile.canonical_load hr

/-- A plan compares the names that it loads with those that it reads. -/
theorem plan_ok_iff {σ : Type} [Directory σ] {t : FileTree} {settings : Settings} {d d' : σ}
    {p : Plan} : (plan t settings d).value = (.ok p, d') ↔
      ∃ domain localNames published, (Sync.domain t settings).value = .ok domain ∧
        (loadLocal t settings).value = .ok localNames ∧
        (readPublished settings d).value = (.ok published, d') ∧
        p = ⟨localNames, published, domain, reconcile localNames published domain⟩ := by
  rw [plan, Logged.value_bind]
  cases (Sync.domain t settings).value with
  | error e => simp
  | ok domain =>
    dsimp only
    rw [Logged.value_bind]
    cases (loadLocal t settings).value with
    | error e => simp
    | ok localNames =>
      dsimp only
      rw [Logged.value_bind]
      rcases (readPublished settings d).value with ⟨e | published, d''⟩
      · simp
      · simp [eq_comm, and_comm]

/-- A run does a round with the names that it loads. -/
theorem run_eq_round {started completed : String} {t : FileTree} {settings : Settings}
    {d : DirectoryStore} {localNames : Registry} {domain : String} {p : Pass DirectoryStore}
    (hdomain : (Sync.domain t settings).value = .ok domain)
    (hlocal : (loadLocal t settings).value = .ok localNames)
    (hround : (round localNames domain settings.layout d).value = .ok p) :
    ∃ report, (run started completed t settings d).value = (.ok report, p.directory) ∧
      report.tally = p.tally := by
  obtain ⟨es, hes, rfl⟩ := round_ok_iff.mp hround
  have hplan : (plan t settings d).value = (.ok ⟨localNames, ofEntries settings.layout.schema es,
      domain, reconcile localNames (ofEntries settings.layout.schema es) domain⟩, d) :=
    plan_ok_iff.mpr ⟨_, _, _, hdomain, hlocal, by rw [value_readPublished, hes]; rfl, rfl⟩
  rw [run, Logged.value_bind, hplan]
  exact ⟨_, rfl, rfl⟩

/-- A local registry and a directory that a round can bring together: names can be told apart, on
both sides. -/
structure Ready (localNames : Registry) (layout : Layout) (d : DirectoryStore) : Prop where
  usable : layout.schema.Usable
  canonical : localNames.Canonical
  filed : d.Filed
  distinct : Distinct layout.schema (layout.services d)

/-- The registry that a directory publishes under a layout. -/
def mirror (layout : Layout) (d : DirectoryStore) : Registry :=
  ofEntries layout.schema (layout.services d)

def jobOf (localNames : Registry) (domain : String) (layout : Layout) (d : DirectoryStore) : Job :=
  ⟨localNames, mirror layout d, domain, layout⟩

abbrev statesOf (localNames : Registry) (domain : String) (layout : Layout) (d : DirectoryStore) :
    Classification :=
  reconcile localNames (mirror layout d) domain

/-- The keys that the pass of a round does not delete. -/
abbrev retainedOf (localNames : Registry) (domain : String) (layout : Layout)
    (d : DirectoryStore) : List String :=
  (jobOf localNames domain layout d).retained (statesOf localNames domain layout d)

/-- The steps of a round and the directory after it, once the search is answered. -/
def passOf (localNames : Registry) (domain : String) (layout : Layout) (d : DirectoryStore) :
    Pass DirectoryStore :=
  (apply (jobOf localNames domain layout d)
    (statesOf localNames domain layout d) d).value

variable {localNames : Registry} {domain : String} {layout : Layout} {d : DirectoryStore}
  {k name : String} {e a : ServiceEntry} {c : Change}

theorem eq_passOf_of_round {p : Pass DirectoryStore} (hu : layout.schema.Usable)
    (h : (round localNames domain layout d).value = .ok p) :
    d.contains layout.container = true ∧ d.isRefused .search layout.container = false ∧
      p = passOf localNames domain layout d := by
  obtain ⟨es, hes, rfl⟩ := round_ok_iff.mp h
  obtain ⟨hc, hr, rfl⟩ := Layout.find_search_ok hu hes
  refine ⟨hc, hr, ?_⟩
  rw [Layout.ofEntries_project]
  rfl

theorem round_eq_passOf (hu : layout.schema.Usable) (hc : d.contains layout.container = true)
    (hr : d.isRefused .search layout.container = false) :
    (round localNames domain layout d).value = .ok (passOf localNames domain layout d) := by
  refine round_ok_iff.mpr ⟨_, Layout.find_search hu hc hr, ?_⟩
  rw [Layout.ofEntries_project]
  rfl

/-- Without a container there is nothing to read. -/
theorem round_eq_error (hc : d.contains layout.container = false)
    (hr : d.isRefused .search layout.container = false) :
    (round localNames domain layout d).value = .error (.noSuchEntry layout.container) := by
  have hfind : d.find layout.search = .error (.noSuchEntry layout.container) :=
    DirectoryStore.find_eq_error hr hc
  rw [round, Logged.value_bind, Published.value_read, hfind]
  rfl

theorem canonical_mirror (layout : Layout) (d : DirectoryStore) : (mirror layout d).Canonical := by
  rw [mirror]
  exact canonical_ofEntries _ _

theorem exists_ran_passOf (localNames : Registry) (domain : String) (layout : Layout)
    (d : DirectoryStore) : ∃ p, Ran (jobOf localNames domain layout d)
      (retainedOf localNames domain layout d) {} d (passOf localNames domain layout d).steps p
      (passOf localNames domain layout d).directory := by
  obtain ⟨p, hran, -⟩ := exists_ran_apply (jobOf localNames domain layout d)
    (statesOf localNames domain layout d) d
  exact ⟨p, hran⟩

theorem exists_step_passOf {s : Status}
    (h : (statesOf localNames domain layout d).get? name = some s) :
    ∃ st ∈ (passOf localNames domain layout d).steps, st.name = name ∧ st.status = s :=
  exists_step_of_state h

theorem carried_passOf (localNames : Registry) (domain : String) (layout : Layout)
    (d : DirectoryStore) : Carried d (passOf localNames domain layout d).calls
      (passOf localNames domain layout d).directory :=
  carried_apply _ _ d

theorem isRefused_passOf (localNames : Registry) (domain : String) (layout : Layout)
    (d : DirectoryStore) (operation : Operation) (dn : String) :
    (passOf localNames domain layout d).directory.isRefused operation dn =
      d.isRefused operation dn := by
  rw [DirectoryStore.isRefused, (carried_passOf localNames domain layout d).refusals]
  rfl

/-- The changes under a key that went through in a round. -/
def changesOf (localNames : Registry) (domain : String) (layout : Layout) (d : DirectoryStore)
    (k : String) : List Change :=
  history k (passOf localNames domain layout d).calls

/-- A local alias that resolves to an entry with another descriptor asks to write its own. -/
theorem intent_resolved {r : ServiceEntry} (hl : localNames.Canonical)
    (ha : a ∈ localNames.toList) (hr : Alias.resolve a.name (mirror layout d) domain = some r)
    (hne : r.description ≠ a.description) (retained : List String) :
    (jobOf localNames domain layout d).intent retained a.name
        (stateOf (mirror layout d) domain a) =
      .ask (.replace r.source layout.schema.descriptorAttribute [a.description]) := by
  have hstate : stateOf (mirror layout d) domain a = .modified := by
    simp only [stateOf, hr, if_neg hne]
  rw [hstate]
  exact Job.intent_modified (hl.mem_toList_iff.mp ha) hr

/-- A local alias that resolves to nothing asks for an entry under its qualified name. -/
theorem intent_unresolved (hl : localNames.Canonical) (ha : a ∈ localNames.toList)
    (hr : Alias.resolve a.name (mirror layout d) domain = none) (retained : List String) :
    (jobOf localNames domain layout d).intent retained a.name
        (stateOf (mirror layout d) domain a) =
      .ask (.add (layout.entryDn (Alias.qualified a.name domain))
        (layout.newAttributes (Alias.qualified a.name domain) a.description)) := by
  have hstate : stateOf (mirror layout d) domain a = .new := by
    simp only [stateOf, hr]
  rw [hstate]
  exact Job.intent_new (hl.mem_toList_iff.mp ha)

theorem asks_of_mem_changesOf (h : c ∈ changesOf localNames domain layout d k) :
    (∃ name s, (statesOf localNames domain layout d).get? name = some s ∧
      (jobOf localNames domain layout d).Asks (retainedOf localNames domain layout d) name s c) ∧
      Dn.key c.dn = k :=
  asks_of_mem_history h

/-- An addition is that of a local alias that resolves to nothing yet. -/
theorem new_of_mem_changesOf {dn : String} {attributes : Attributes} (hl : localNames.Canonical)
    (h : .add dn attributes ∈ changesOf localNames domain layout d k) :
    ∃ e ∈ localNames.toList, Alias.resolve e.name (mirror layout d) domain = none ∧
      k = Dn.key dn ∧ dn = layout.entryDn (Alias.qualified e.name domain) ∧
      attributes = layout.newAttributes (Alias.qualified e.name domain) e.description :=
  new_of_mem_history hl h

/-- A replacement writes the descriptor of a local alias that resolves to the entry, which had
another one. -/
theorem modified_of_mem_changesOf {dn field : String} {values : List String}
    (hl : localNames.Canonical)
    (h : .replace dn field values ∈ changesOf localNames domain layout d k) :
    ∃ e ∈ localNames.toList, ∃ r, Alias.resolve e.name (mirror layout d) domain = some r ∧
      Dn.key r.source = k ∧ r.description ≠ e.description ∧ values = [e.description] := by
  obtain ⟨⟨name, s, hs, hasks⟩, hk⟩ := asks_of_mem_changesOf h
  obtain ⟨e, r, hlocal, rfl, hr, rfl, hne, -, hvalues⟩ := hasks.resolved hl hs
  exact ⟨e, Registry.mem_toList_iff.mpr ⟨_, hlocal⟩, r, hr, hk, hne, hvalues⟩

/-- An entry that a local alias resolves to is not deleted. -/
theorem not_deleted_of_resolve {r : ServiceEntry} (hl : localNames.Canonical)
    (he : e ∈ localNames.toList) (hr : Alias.resolve e.name (mirror layout d) domain = some r)
    (hc : c ∈ changesOf localNames domain layout d (Dn.key r.source)) :
    c.operation ≠ .delete := by
  intro hdelete
  obtain ⟨⟨name, s, -, hasks⟩, hk⟩ := asks_of_mem_changesOf hc
  cases c with
  | add => cases hdelete
  | replace => cases hdelete
  | delete dn => exact hasks.not_resolved hl rfl he hr hk.symm

/-- What a round makes of the entry under a key: it keeps it, or the entry of a local alias without
one stands there, or nothing does. -/
inductive Turned (localNames : Registry) (domain : String) (layout : Layout) (d : DirectoryStore)
    (k : String) : Prop
  | kept {e f : DirectoryEntry} (before : d.entries.get? k = some e)
      (after : (passOf localNames domain layout d).directory.entries.get? k = some f)
      (keeps : Keeps layout.schema.descriptorAttribute e
        (changesOf localNames domain layout d k) f)
  | added {a : ServiceEntry} (ha : a ∈ localNames.toList)
      (hnew : Alias.resolve a.name (mirror layout d) domain = none)
      (hk : k = Dn.key (layout.entryDn (Alias.qualified a.name domain)))
      (after : (passOf localNames domain layout d).directory.entries.get? k =
        some (layout.newEntry (Alias.qualified a.name domain) a.description))
  | gone (after : (passOf localNames domain layout d).directory.entries.get? k = none)
      (hadd : ∀ c ∈ changesOf localNames domain layout d k, c.operation ≠ .add)

theorem kept_of_not_deleted {e : DirectoryEntry} (he : d.entries.get? k = some e)
    (hk : ∀ c ∈ changesOf localNames domain layout d k, c.operation ≠ .delete) :
    ∃ f, (passOf localNames domain layout d).directory.entries.get? k = some f ∧
      Keeps layout.schema.descriptorAttribute e (changesOf localNames domain layout d k) f :=
  get?_apply_of_not_deleted he fun _ hmem hkey => hk _ (mem_history.mpr ⟨hmem, hkey⟩) rfl

/-- A change other than an addition concerns a service entry of the directory. -/
theorem exists_of_mem_changesOf (hd : d.Filed) (hc : c ∈ changesOf localNames domain layout d k)
    (hadd : c.operation ≠ .add) : ∃ e ∈ layout.services d, d.entries.get? k = some e := by
  obtain ⟨e, he, hk⟩ := exists_of_mem_history rfl hc hadd
  exact ⟨e, he, hk ▸ ((Layout.mem_services hd).mp he).1⟩

theorem occupied_of_services (hd : d.Filed) :
    ∀ e ∈ layout.services d, d.entries.get? (Dn.key e.dn) ≠ none := by
  intro e he hnone
  cases hnone.symm.trans ((Layout.mem_services hd).mp he).1

/-- An entry that is added in a round stands there after it. -/
theorem stands_of_mem_changesOf {dn : String} {attributes : Attributes} (hl : localNames.Canonical)
    (hd : d.Filed) (h : .add dn attributes ∈ changesOf localNames domain layout d k) :
    (passOf localNames domain layout d).directory.entries.get? k =
      some ⟨dn, Keyed.ofList attributes⟩ :=
  stands_of_added (j := jobOf localNames domain layout d) hl rfl (occupied_of_services hd) h

theorem turned (hl : localNames.Canonical) (hd : d.Filed) (domain : String) (layout : Layout)
    (k : String) : Turned localNames domain layout d k := by
  rcases turned_pass (j := jobOf localNames domain layout d) hl rfl (occupied_of_services hd) k with
    ⟨e, f, before, after, keeps⟩ | ⟨a, ha, hnew, hk, after⟩ | ⟨after, hadd⟩
  · exact .kept before after keeps
  · exact .added ha hnew hk after
  · exact .gone after hadd

end NetNames.Sync
