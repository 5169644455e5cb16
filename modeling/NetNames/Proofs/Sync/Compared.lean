import NetNames.Proofs.Sync.Deletion
import NetNames.Proofs.Sync.Frame

/-! A pass over the comparison of its registries, whatever entries the published one was read from.
Under a key it keeps the entry, adds that of a local alias or leaves nothing, so entries told apart
stay so. If it skips nothing it keeps a published entry just if one of its names is wanted. -/
namespace NetNames.Sync

open Published

namespace Job

/-- What the registries of a job are compared to. -/
abbrev states (j : Job) : Classification := reconcile j.localNames j.published j.domain

/-- The steps of a job over its comparison, and the directory after them. -/
abbrev pass (j : Job) (d : DirectoryStore) : Pass DirectoryStore := (apply j j.states d).value

end Job

variable {j : Job} {d : DirectoryStore} {es : List DirectoryEntry} {schema : Schema}
  {layout : Layout} {k name : String} {c : Change} {e : DirectoryEntry}

/-- An addition is that of a local alias that resolves to nothing yet. -/
theorem new_of_mem_history {dn : String} {attributes : Attributes} (hl : j.localNames.Canonical)
    (h : .add dn attributes ∈ history k (j.pass d).calls) :
    ∃ a ∈ j.localNames.toList, Alias.resolve a.name j.published j.domain = none ∧
      k = Dn.key dn ∧ dn = j.layout.entryDn (Alias.qualified a.name j.domain) ∧
      attributes = j.layout.newAttributes (Alias.qualified a.name j.domain) a.description := by
  obtain ⟨⟨name, s, hs, hasks⟩, hk⟩ := asks_of_mem_history h
  obtain ⟨rfl, e, he, hdn, hattributes⟩ := hasks.adds
  obtain ⟨e', hlocal, hstate⟩ := get?_reconcile_of_ne_absent hl hs (by simp)
  have hentry : (j.localEntry name).value = some e' := by
    rw [Job.localEntry, hlocal]
    rfl
  cases hentry.symm.trans he
  have hname := (hl name e hlocal).1
  refine ⟨e, Registry.mem_toList_iff.mpr ⟨name, hlocal⟩, stateOf_eq_new_iff.mp hstate.symm,
    hk.symm, ?_⟩
  rw [hname]
  exact ⟨hdn, hattributes⟩

/-- Nothing is both replaced and deleted. -/
theorem not_modified_of_deleted {c' : Change} (hl : j.localNames.Canonical)
    (hc : c ∈ history k (j.pass d).calls) (hdelete : c.operation = .delete)
    (hc' : c' ∈ history k (j.pass d).calls) : c'.operation ≠ .modify := by
  intro hmodify
  obtain ⟨⟨name, s, -, hasks⟩, hk⟩ := asks_of_mem_history hc
  obtain ⟨⟨name', s', hs', hasks'⟩, hk'⟩ := asks_of_mem_history hc'
  cases c with
  | add => cases hdelete
  | replace => cases hdelete
  | delete dn =>
    cases c' with
    | add => cases hmodify
    | replace dn' field values => exact hasks.not_modified hl rfl hs' hasks' (hk'.trans hk.symm)
    | delete => cases hmodify

/-- An entry that is added in a pass stands there after it. -/
theorem stands_of_added {dn : String} {attributes : Attributes} (hl : j.localNames.Canonical)
    (hj : j.published = ofEntries layout.schema es)
    (hes : ∀ f ∈ es, d.entries.get? (Dn.key f.dn) ≠ none)
    (hadd : .add dn attributes ∈ history k (j.pass d).calls) :
    (j.pass d).directory.entries.get? k = some ⟨dn, Keyed.ofList attributes⟩ :=
  ((carried_apply j j.states d).evolves k).of_added
    (fun hk _ hc => add_of_absent hj hes hk hc)
    (fun ⟨_, hc, hdelete⟩ _ hc' => not_modified_of_deleted hl hc hdelete hc')
    ((deletesOnce_apply j j.states d).history k) hadd

/-- What a pass makes of a key: it keeps the entry, or that of a local alias without one stands
there, or nothing does. -/
theorem turned_pass (hl : j.localNames.Canonical)
    (hj : j.published = ofEntries layout.schema es)
    (hes : ∀ f ∈ es, d.entries.get? (Dn.key f.dn) ≠ none) (k : String) :
    (∃ e f, d.entries.get? k = some e ∧ (j.pass d).directory.entries.get? k = some f ∧
      Keeps j.layout.schema.descriptorAttribute e (history k (j.pass d).calls) f) ∨
    (∃ a ∈ j.localNames.toList, Alias.resolve a.name j.published j.domain = none ∧
      k = Dn.key (j.layout.entryDn (Alias.qualified a.name j.domain)) ∧
      (j.pass d).directory.entries.get? k =
        some (j.layout.newEntry (Alias.qualified a.name j.domain) a.description)) ∨
    ((j.pass d).directory.entries.get? k = none ∧
      ∀ c ∈ history k (j.pass d).calls, c.operation ≠ .add) := by
  have habsent : d.entries.get? k = none →
      ∀ c ∈ history k (j.pass d).calls, c.operation = .add :=
    fun hk _ hc => add_of_absent hj hes hk hc
  have hreplace : ∀ c ∈ history k (j.pass d).calls, c.operation = .modify →
      ∃ dn v, c = .replace dn j.layout.schema.descriptorAttribute [v] := by
    intro c hc hmodify
    obtain ⟨⟨name, s, -, hasks⟩, -⟩ := asks_of_mem_history hc
    exact hasks.replaces hmodify
  have hdeleted : (∃ c ∈ history k (j.pass d).calls, c.operation = .delete) →
      ∀ c ∈ history k (j.pass d).calls, c.operation ≠ .modify := by
    rintro ⟨c, hc, hdelete⟩ c' hc'
    exact not_modified_of_deleted hl hc hdelete hc'
  have hevolves := (carried_apply j j.states d).evolves k
  rcases hevolves.turned habsent hreplace hdeleted ((deletesOnce_apply j j.states d).history k) with
    hkept | ⟨dn, attributes, hadd, hs⟩ | hgone
  · exact .inl hkept
  · obtain ⟨a, ha, hnew, hk, rfl, rfl⟩ := new_of_mem_history hl hadd
    exact .inr (.inl ⟨a, ha, hnew, hk, hs⟩)
  · exact .inr (.inr hgone)

/-- In a pass that skips nothing, what an alias asks for goes through. -/
theorem Job.went_through {s : Status} (hconverged : (j.pass d).tally.isConverged = true)
    (hs : j.states.get? name = some s)
    (hi : j.intent (j.retained j.states) name s = .ask c) :
    ∃ c' ∈ history (Dn.key c.dn) (j.pass d).calls, c'.operation = c.operation := by
  obtain ⟨p, hran, -⟩ := exists_ran_apply j j.states d
  obtain ⟨st, hst, rfl, rfl⟩ := exists_step_of_state (j := j) (d := d) hs
  have hcounted := (isConverged_tallyOf _).mp hconverged st hst
  obtain ⟨c', hc', hoperation, hk⟩ := hran.met hst hi hcounted
  exact ⟨c', mem_history.mpr ⟨hc', hk⟩, hoperation⟩

/-- A name that a local alias has or resolves to. -/
def Wanted (localNames : Registry) (domain name : String) : Prop :=
  localNames.contains name = true ∨
    ∃ a ∈ localNames.toList, Alias.qualified a.name domain = name

/-- What a comparison finds absent is published but not wanted. -/
theorem Job.absent_iff (hl : j.localNames.Canonical) (hp : j.published.Canonical) :
    j.states.get? name = some .absentLocally ↔
      name ∈ j.published.names ∧ ¬ Wanted j.localNames j.domain name := by
  have hclaimed : claimed j.localNames j.published j.domain name = true ↔
      j.published.contains name = true ∧
        ∃ a ∈ j.localNames.toList, Alias.qualified a.name j.domain = name :=
    claimed_iff_qualified hp
  rw [Registry.contains_iff, ← Registry.mem_names_iff] at hclaimed
  rw [get?_reconcile_absent hl, ← Bool.not_eq_true, hclaimed, Wanted, Registry.contains_iff,
    Option.eq_none_iff_forall_ne_some, not_or, not_exists]
  constructor
  · rintro ⟨hlocal, hunclaimed, hname⟩
    exact ⟨hname, hlocal, fun hqualified => hunclaimed ⟨hname, hqualified⟩⟩
  · rintro ⟨hname, hlocal, hqualified⟩
    exact ⟨hlocal, fun hclaim => hqualified hclaim.2, hname⟩

/-- A job over the registry of some entries that are told apart, by their names and by their
keys. -/
structure Job.Told (j : Job) (es : List DirectoryEntry) : Prop where
  canonical : j.localNames.Canonical
  published : j.published = ofEntries j.layout.schema es
  distinct : Distinct j.layout.schema es
  keys : ∀ e ∈ es, ∀ f ∈ es, Dn.key e.dn = Dn.key f.dn → e = f

namespace Job.Told
variable {m : String}

theorem get?_published (h : j.Told es) (he : e ∈ es) (hm : m ∈ keysOf j.layout.schema e) :
    ∃ r, j.published.get? m = some r ∧ r.source = e.dn := by
  obtain ⟨r, hr, hsource, -⟩ := get?_ofEntries h.distinct he hm
  exact ⟨r, h.published ▸ hr, hsource⟩

/-- What is published leads to one of the entries, by a name of that. -/
theorem exists_of_get? (h : j.Told es) {r : ServiceEntry} (hr : j.published.get? m = some r) :
    ∃ e ∈ es, m ∈ keysOf j.layout.schema e ∧ r.source = e.dn := by
  rw [h.published] at hr
  obtain ⟨e, he, hm, hsource, -⟩ := exists_of_get?_ofEntries hr
  exact ⟨e, he, hm, hsource⟩

theorem exists_of_mem (h : j.Told es) {r : ServiceEntry} (hr : r ∈ j.published.toList) :
    ∃ e ∈ es, ∃ m ∈ keysOf j.layout.schema e, r.source = e.dn := by
  obtain ⟨m, hget⟩ := Registry.mem_toList_iff.mp hr
  obtain ⟨e, he, hm, hsource⟩ := h.exists_of_get? hget
  exact ⟨e, he, m, hm, hsource⟩

/-- The names of an entry are those that lead to its source. -/
theorem mem_keysOf_iff (h : j.Told es) (he : e ∈ es) : m ∈ keysOf j.layout.schema e ↔
    ∃ r, j.published.get? m = some r ∧ r.source = e.dn := by
  constructor
  · exact h.get?_published he
  · rintro ⟨r, hr, hsource⟩
    obtain ⟨e', he', hm, hsource'⟩ := h.exists_of_get? hr
    rwa [← h.keys e' he' e he (by rw [← hsource', hsource])]

theorem absent_iff (h : j.Told es) : j.states.get? name = some .absentLocally ↔
    name ∈ j.published.names ∧ ¬ Wanted j.localNames j.domain name :=
  Job.absent_iff h.canonical (h.published ▸ canonical_ofEntries _ _)

/-- An entry is retained if one of its names is wanted. -/
theorem mem_retained_iff (h : j.Told es) (he : e ∈ es) :
    Dn.key e.dn ∈ j.retained j.states ↔
      ∃ m ∈ keysOf j.layout.schema e, Wanted j.localNames j.domain m := by
  have hp : j.published.Canonical := h.published ▸ canonical_ofEntries _ _
  rw [Job.mem_retained_iff]
  constructor
  · rintro ⟨r, hr, hkept, hk⟩
    have hget := hp.mem_toList_iff.mp hr
    obtain ⟨e', he', hm, hsource⟩ := h.exists_of_get? hget
    obtain rfl := h.keys e' he' e he (by rw [← hsource, hk])
    refine ⟨r.name, hm, Classical.byContradiction fun hunwanted => ?_⟩
    exact hkept (h.absent_iff.mpr ⟨Registry.mem_names_iff.mpr ⟨r, hget⟩, hunwanted⟩)
  · rintro ⟨m, hm, hwanted⟩
    obtain ⟨r, hr, hsource⟩ := h.get?_published he hm
    refine ⟨r, Registry.mem_toList_iff.mpr ⟨m, hr⟩, fun hab => ?_, by rw [hsource]⟩
    rw [(hp m r hr).1] at hab
    exact (h.absent_iff.mp hab).2 hwanted

/-- What a name of an entry asks for that is absent locally. -/
theorem intent_absent (h : j.Told es) (he : e ∈ es) (hk : name ∈ keysOf j.layout.schema e)
    (retained : List String) : j.intent retained name .absentLocally =
      if retained.contains (Dn.key e.dn) then .settled (.counted .unchanged)
      else .ask (.delete e.dn) := by
  obtain ⟨r, hr, hsource⟩ := h.get?_published he hk
  rw [Job.intent_absent hr, hsource]

/-- After a pass that skips nothing, an entry has been deleted or one of its names is wanted. -/
theorem exists_wanted (h : j.Told es) (hconverged : (j.pass d).tally.isConverged = true)
    (he : e ∈ es) (hk : name ∈ keysOf j.layout.schema e)
    (hkept : ∀ c ∈ history (Dn.key e.dn) (j.pass d).calls, c.operation ≠ .delete) :
    ∃ m ∈ keysOf j.layout.schema e, Wanted j.localNames j.domain m := by
  refine Classical.byContradiction fun hnone => ?_
  obtain ⟨r, hr, -⟩ := h.get?_published he hk
  have hs := h.absent_iff.mpr
    ⟨Registry.mem_names_iff.mpr ⟨r, hr⟩, fun hwanted => hnone ⟨name, hk, hwanted⟩⟩
  have hi := h.intent_absent he hk (j.retained j.states)
  rw [if_neg fun hcontains => hnone ((h.mem_retained_iff he).mp
    (List.contains_iff_mem.mp hcontains))] at hi
  obtain ⟨c, hc, hdelete⟩ := Job.went_through hconverged hs hi
  exact hkept c hc hdelete

/-- No entry has the name under which a new one is added. -/
theorem not_mem_keysOf_of_new (h : j.Told es)
    (hnew : Alias.resolve name j.published j.domain = none) (he : e ∈ es) :
    Alias.qualified name j.domain ∉ keysOf j.layout.schema e := by
  intro hk
  obtain ⟨r, hr, -⟩ := h.get?_published he hk
  cases hnew.symm.trans hr

/-- An entry is not asked to be deleted if one of its names is wanted. -/
theorem not_asked (h : j.Told es) (he : e ∈ es) (hm : m ∈ keysOf j.layout.schema e)
    (hwanted : Wanted j.localNames j.domain m) {dn : String} {s : Status}
    (hasks : j.Asks (j.retained j.states) name s (.delete dn)) : Dn.key e.dn ≠ Dn.key dn := by
  intro hk
  have hretained := (h.mem_retained_iff he).mpr ⟨m, hm, hwanted⟩
  cases hasks with
  | delete _ hnot => exact hnot (hk ▸ hretained)

theorem not_deleted (h : j.Told es) (he : e ∈ es) (hm : m ∈ keysOf j.layout.schema e)
    (hwanted : Wanted j.localNames j.domain m)
    (hc : c ∈ history (Dn.key e.dn) (j.pass d).calls) : c.operation ≠ .delete := by
  intro hdelete
  obtain ⟨⟨name, s, -, hasks⟩, hk⟩ := asks_of_mem_history hc
  cases c with
  | add => cases hdelete
  | replace => cases hdelete
  | delete dn => exact h.not_asked he hm hwanted hasks hk.symm

end Job.Told

/-- What an entry is that stands there after a pass: one of before under the same names, which was
not deleted, or the new entry of a local alias. -/
inductive Job.Leaves (j : Job) (es : List DirectoryEntry) (d : DirectoryStore)
    (f : DirectoryEntry) : Prop
  | kept {e : DirectoryEntry} (he : e ∈ es) (hdn : e.dn = f.dn)
      (names : keysOf j.layout.schema e = keysOf j.layout.schema f)
      (undeleted : ∀ c ∈ history (Dn.key e.dn) (j.pass d).calls, c.operation ≠ .delete)
  | added {a : ServiceEntry} (ha : a ∈ j.localNames.toList)
      (hnew : Alias.resolve a.name j.published j.domain = none)
      (hdn : f.dn = j.layout.entryDn (Alias.qualified a.name j.domain))
      (names : keysOf j.layout.schema f = [Alias.qualified a.name j.domain])

namespace Job.Told
variable {f g : DirectoryEntry}

/-- Entries with a common name have one key after a pass if they are told apart before it. -/
theorem key_eq_of_leaves (h : j.Told es) (hf : j.Leaves es d f) (hg : j.Leaves es d g)
    (hkf : k ∈ keysOf j.layout.schema f) (hkg : k ∈ keysOf j.layout.schema g) :
    Dn.key f.dn = Dn.key g.dn := by
  cases hf with
  | @kept e he hdnf namesf =>
    rw [← namesf] at hkf
    cases hg with
    | @kept e' he' hdng namesg =>
      rw [← namesg] at hkg
      rw [← hdnf, ← hdng, h.distinct e he e' he' k hkf hkg]
    | added _ hnew _ namesg =>
      rw [namesg] at hkg
      cases List.mem_singleton.mp hkg
      exact absurd hkf (h.not_mem_keysOf_of_new hnew he)
  | added _ hnew hdnf namesf =>
    rw [namesf] at hkf
    cases List.mem_singleton.mp hkf
    cases hg with
    | kept he _ namesg =>
      rw [← namesg] at hkg
      exact absurd hkg (h.not_mem_keysOf_of_new hnew he)
    | added _ _ hdng namesg =>
      rw [namesg] at hkg
      rw [hdnf, hdng, List.mem_singleton.mp hkg]

/-- Entries that a pass leaves are told apart by their names if they are by their keys. -/
theorem after {es' : List DirectoryEntry} (h : j.Told es) (hleaves : ∀ f ∈ es', j.Leaves es d f)
    (hkeys : ∀ f ∈ es', ∀ g ∈ es', Dn.key f.dn = Dn.key g.dn → f = g) :
    Job.Told { j with published := ofEntries j.layout.schema es' } es' where
  canonical := h.canonical
  published := rfl
  distinct f hf g hg _ hkf hkg :=
    hkeys f hf g hg (h.key_eq_of_leaves (hleaves f hf) (hleaves g hg) hkf hkg)
  keys := hkeys

/-- After a pass that skips nothing, an entry with a name has one that is wanted. -/
theorem exists_wanted_after (h : j.Told es) (hconverged : (j.pass d).tally.isConverged = true)
    (hf : j.Leaves es d f) (hk : k ∈ keysOf j.layout.schema f) :
    ∃ m ∈ keysOf j.layout.schema f, Wanted j.localNames j.domain m := by
  cases hf with
  | kept he _ names undeleted =>
    rw [← names] at hk ⊢
    exact h.exists_wanted hconverged he hk undeleted
  | added ha _ _ names =>
    rw [names]
    exact ⟨_, List.mem_singleton_self _, .inr ⟨_, ha, rfl⟩⟩

end Job.Told
end NetNames.Sync
