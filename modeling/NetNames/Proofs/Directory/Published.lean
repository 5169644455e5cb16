import NetNames.Directory.Published
import NetNames.Proofs.Directory.Services
import NetNames.Proofs.Directory.Search

/-! Reading the published registry back. Whatever is found under a name comes from an entry that is
published under it; where no two entries share a name, every one of them is found under each of its
names. -/
namespace NetNames

namespace Published
variable {schema : Schema} {es : List DirectoryEntry} {e a b : DirectoryEntry}
  {r : ServiceEntry} {k : String}

/-- The names under which an entry is published. -/
def keysOf (schema : Schema) (e : DirectoryEntry) : List String :=
  match e.firstValue? schema.nameAttribute with
  | none => []
  | some name =>
    match pointerOf schema e with
    | .named other => [upperCase other, upperCase name]
    | _ => [upperCase name]

def descriptionOf (schema : Schema) (e : DirectoryEntry) : String :=
  (e.firstValue? schema.descriptorAttribute).getD ""

/-- Different entries are published under different names. -/
def Distinct (schema : Schema) (es : List DirectoryEntry) : Prop :=
  ∀ a ∈ es, ∀ b ∈ es, ∀ k ∈ keysOf schema a, k ∈ keysOf schema b → a = b

instance (schema : Schema) (es : List DirectoryEntry) : Decidable (Distinct schema es) := by
  unfold Distinct
  infer_instance

/-- The services of an entry: one under each of its names, all with its descriptor. -/
def servicesOf (schema : Schema) (e : DirectoryEntry) : List ServiceEntry :=
  (keysOf schema e).map fun k => ServiceEntry.define k (descriptionOf schema e) e.dn

theorem upperCase_of_mem_keysOf (h : k ∈ keysOf schema e) : upperCase k = k := by
  rw [keysOf] at h
  split at h
  · cases h
  · split at h
    · simp only [List.mem_cons, List.not_mem_nil, or_false] at h
      rcases h with rfl | rfl <;> exact upperCase_upperCase _
    · cases List.mem_singleton.mp h
      exact upperCase_upperCase _

private theorem define_upperCase (name description source : String) :
    ServiceEntry.define (upperCase name) description source =
      ServiceEntry.define name description source := by
  rw [ServiceEntry.define, upperCase_upperCase]
  rfl

theorem services_listing? (schema : Schema) (e : DirectoryEntry) :
    (listing? schema e).toList.flatMap Listing.services = servicesOf schema e := by
  rw [listing?, servicesOf, keysOf]
  cases e.firstValue? schema.nameAttribute with
  | none => rfl
  | some name =>
    dsimp only [Option.map_some, Option.toList_some, List.flatMap_singleton, Listing.services]
    cases pointerOf schema e with
    | none => simp only [List.map_cons, List.map_nil, define_upperCase]; rfl
    | named other => simp only [List.map_cons, List.map_nil, define_upperCase]; rfl
    | unreadable target => simp only [List.map_cons, List.map_nil, define_upperCase]; rfl

theorem ofEntries_eq (schema : Schema) (es : List DirectoryEntry) :
    ofEntries schema es = Registry.ofList (es.flatMap (servicesOf schema)) := by
  rw [ofEntries, List.filterMap_eq_flatMap_toList, List.flatMap_assoc]
  simp only [services_listing?]

theorem canonical_ofEntries (schema : Schema) (es : List DirectoryEntry) :
    (ofEntries schema es).Canonical :=
  Registry.canonical_ofList _

/-- What stands under a name that an entry has taken. -/
def serviceAt (schema : Schema) (k : String) (e : DirectoryEntry) : ServiceEntry :=
  .define k (descriptionOf schema e) e.dn

private theorem get?_foldl_servicesOf (r : Registry) (e : DirectoryEntry) (k : String) :
    ((servicesOf schema e).foldl Registry.insert r).get? k =
      if k ∈ keysOf schema e then some (serviceAt schema k e) else r.get? k := by
  have key : ∀ ks : List String, (∀ x ∈ ks, upperCase x = x) → ∀ r : Registry,
      ((ks.map (serviceAt schema · e)).foldl Registry.insert r).get? k =
        if k ∈ ks then some (serviceAt schema k e) else r.get? k := by
    intro ks
    induction ks with
    | nil => simp
    | cons x ks ih =>
      intro hks r
      have hx : upperCase x = x := hks x List.mem_cons_self
      have hname : upperCase (serviceAt schema x e).name = x :=
        (upperCase_upperCase x).trans hx
      rw [List.map_cons, List.foldl_cons, ih fun y hy => hks y (List.mem_cons_of_mem x hy),
        Registry.get?_insert, hname]
      by_cases hk : k = x
      · subst hk
        have hsame : { serviceAt schema k e with name := k } = serviceAt schema k e := by
          rw [serviceAt, ServiceEntry.define, hx]
        simp [hsame]
      · simp [hk]
  exact key (keysOf schema e) (fun _ => upperCase_of_mem_keysOf) r

/-- An entry takes every name it is published under, whoever had it before. -/
theorem get?_ofEntries_concat (schema : Schema) (es : List DirectoryEntry) (e : DirectoryEntry)
    (k : String) : (ofEntries schema (es ++ [e])).get? k =
      if k ∈ keysOf schema e then some (serviceAt schema k e)
      else (ofEntries schema es).get? k := by
  rw [ofEntries_eq, ofEntries_eq, List.flatMap_append, List.flatMap_singleton, Registry.ofList,
    List.foldl_append, get?_foldl_servicesOf]
  rfl

/-- A name belongs to the last entry that is published under it. -/
theorem get?_ofEntries_eq (schema : Schema) (es : List DirectoryEntry) (k : String) :
    (ofEntries schema es).get? k =
      (es.filter (k ∈ keysOf schema ·)).getLast?.map (serviceAt schema k) := by
  induction es using List.reverseRecOn with
  | nil => rfl
  | append_singleton es e ih =>
    rw [get?_ofEntries_concat, List.filter_append, ih]
    by_cases hk : k ∈ keysOf schema e <;> simp [hk]

/-- What is found under a name comes from an entry that is published under it. -/
theorem exists_of_get?_ofEntries (h : (ofEntries schema es).get? k = some r) :
    ∃ e ∈ es, k ∈ keysOf schema e ∧ r.source = e.dn ∧ r.description = descriptionOf schema e := by
  rw [get?_ofEntries_eq, Option.map_eq_some_iff] at h
  obtain ⟨e, hlast, rfl⟩ := h
  obtain ⟨he, hk⟩ := List.mem_filter.mp (List.mem_of_getLast? hlast)
  exact ⟨e, he, of_decide_eq_true hk, rfl, rfl⟩

/-- A name of an entry is found, be it for this entry or for another. -/
theorem exists_get?_ofEntries (he : e ∈ es) (hk : k ∈ keysOf schema e) :
    ∃ f ∈ es, k ∈ keysOf schema f ∧
      (ofEntries schema es).get? k = some (serviceAt schema k f) := by
  have hmem : e ∈ es.filter (k ∈ keysOf schema ·) :=
    List.mem_filter.mpr ⟨he, decide_eq_true hk⟩
  obtain ⟨f, hlast⟩ := Option.isSome_iff_exists.mp
    (List.getLast?_isSome.mpr (List.ne_nil_of_mem hmem))
  obtain ⟨hf, hkf⟩ := List.mem_filter.mp (List.mem_of_getLast? hlast)
  exact ⟨f, hf, of_decide_eq_true hkf, by rw [get?_ofEntries_eq, hlast, Option.map_some]⟩

/-- A name for which the entries published under it all give the same service is found as that. -/
theorem get?_ofEntries_of_agree (he : e ∈ es) (hk : k ∈ keysOf schema e)
    (hsame : ∀ f ∈ es, k ∈ keysOf schema f → serviceAt schema k f = serviceAt schema k e) :
    (ofEntries schema es).get? k = some (serviceAt schema k e) := by
  obtain ⟨f, hf, hkf, hget⟩ := exists_get?_ofEntries he hk
  rw [hget, hsame f hf hkf]

/-- An entry that shares no name with another is found under each of its names. -/
theorem get?_ofEntries (hd : Distinct schema es) (he : e ∈ es) (hk : k ∈ keysOf schema e) :
    ∃ r, (ofEntries schema es).get? k = some r ∧ r.source = e.dn ∧
      r.description = descriptionOf schema e := by
  refine ⟨_, get?_ofEntries_of_agree he hk fun f hf hkf => ?_, rfl, rfl⟩
  rw [hd e he f hf k hk hkf]

theorem keysOf_congr
    (hname : b.values? schema.nameAttribute = a.values? schema.nameAttribute)
    (halias : b.values? schema.aliasAttribute = a.values? schema.aliasAttribute) :
    keysOf schema b = keysOf schema a := by
  simp only [keysOf, pointerOf, DirectoryEntry.firstValue?, hname, halias]

theorem descriptionOf_congr
    (h : b.values? schema.descriptorAttribute = a.values? schema.descriptorAttribute) :
    descriptionOf schema b = descriptionOf schema a := by
  simp only [descriptionOf, DirectoryEntry.firstValue?, h]

theorem descriptionOf_replace (schema : Schema) (e : DirectoryEntry) (v : String) :
    descriptionOf schema (e.replace schema.descriptorAttribute [v]) = v := by
  rw [descriptionOf, DirectoryEntry.firstValue?, DirectoryEntry.values?_replace_self _ _ (by simp)]
  rfl

/-- The names of an entry do not depend on its descriptor. -/
theorem keysOf_of_agreesOutside (hu : schema.Separate)
    (h : DirectoryEntry.AgreesOutside schema.descriptorAttribute a b) :
    keysOf schema b = keysOf schema a := by
  refine keysOf_congr (h.values? hu.nameDescriptor) (h.values? ?_)
  exact Text.sameIgnoringCase_comm _ _ ▸ hu.descriptorAlias

end Published

open Published

namespace Layout
variable {l : Layout} {d : DirectoryStore} {e : DirectoryEntry} {es : List DirectoryEntry}

theorem keysOf_project (l : Layout) (e : DirectoryEntry) :
    keysOf l.schema (e.project l.search.attributes) = keysOf l.schema e :=
  keysOf_congr (e.values?_project (by simp [search])) (e.values?_project (by simp [search]))

theorem servicesOf_project (l : Layout) (e : DirectoryEntry) :
    servicesOf l.schema (e.project l.search.attributes) = servicesOf l.schema e := by
  rw [servicesOf, keysOf_project, descriptionOf_congr (e.values?_project (by simp [search]))]
  rfl

theorem keysOf_newEntry (hu : l.schema.Separate) (name description : String) :
    keysOf l.schema (l.newEntry name description) = [upperCase name] := by
  rw [keysOf, firstValue?_newEntry_name hu, pointerOf, firstValue?_newEntry_alias hu]

theorem descriptionOf_newEntry (hu : l.schema.Separate) (name description : String) :
    descriptionOf l.schema (l.newEntry name description) = description := by
  rw [descriptionOf, firstValue?_newEntry_descriptor hu]
  rfl

/-- The service entries that a directory holds, with all their attributes. -/
def services (l : Layout) (d : DirectoryStore) : List DirectoryEntry := d.toList.filter l.isService

theorem mem_services (hd : d.Filed) :
    e ∈ l.services d ↔ d.entries.get? (Dn.key e.dn) = some e ∧ l.isService e = true := by
  rw [services, List.mem_filter, hd.mem_toList_iff]

/-- The service entries of a directory stand under different keys. -/
theorem services_inj (hd : d.Filed) {a b : DirectoryEntry} (ha : a ∈ l.services d)
    (hb : b ∈ l.services d) (hk : Dn.key a.dn = Dn.key b.dn) : a = b := by
  have hget := ((mem_services hd).mp ha).1
  rw [hk, ((mem_services hd).mp hb).1] at hget
  exact (Option.some.inj hget).symm

theorem find_search (hu : l.schema.Usable) (hc : d.contains l.container = true)
    (hr : d.isRefused .search l.container = false) :
    d.find l.search = .ok ((l.services d).map (·.project l.search.attributes)) := by
  have hr' : d.isRefused .search l.search.base = false := hr
  have hc' : d.contains l.search.base = true := hc
  rw [DirectoryStore.find, hr', hc', parse?_search hu]
  rfl

theorem find_search_ok (hu : l.schema.Usable) (h : d.find l.search = .ok es) :
    d.contains l.container = true ∧ d.isRefused .search l.container = false ∧
      es = (l.services d).map (·.project l.search.attributes) := by
  have hr : d.isRefused .search l.container = false := by
    by_contra hr
    rw [Bool.not_eq_false] at hr
    have hr' : d.isRefused .search l.search.base = true := hr
    rw [DirectoryStore.find, hr'] at h
    cases h
  have hc : d.contains l.container = true := by
    by_contra hc
    rw [Bool.not_eq_true] at hc
    have hr' : d.isRefused .search l.search.base = false := hr
    have hc' : d.contains l.search.base = false := hc
    rw [DirectoryStore.find, hr', hc'] at h
    cases h
  rw [find_search hu hc hr] at h
  cases h
  exact ⟨hc, hr, rfl⟩

/-- Entries that are told apart in the answer of a search are told apart in the directory. -/
theorem distinct_services (hd : d.Filed)
    (h : Distinct l.schema ((l.services d).map (·.project l.search.attributes))) :
    Distinct l.schema (l.services d) := by
  intro a ha b hb k hka hkb
  have hp := h _ (List.mem_map_of_mem ha) _ (List.mem_map_of_mem hb) k
    (l.keysOf_project a ▸ hka) (l.keysOf_project b ▸ hkb)
  have hdn : a.dn = b.dn := congrArg (·.dn) hp
  exact services_inj hd ha hb (congrArg Dn.key hdn)

theorem ofEntries_project (l : Layout) (es : List DirectoryEntry) :
    ofEntries l.schema (es.map (·.project l.search.attributes)) = ofEntries l.schema es := by
  rw [ofEntries_eq, ofEntries_eq, List.flatMap_map]
  simp only [servicesOf_project]

end Layout

/-- A directory in memory answers with the registry of what a search finds and stays as it is. -/
theorem Published.value_read (l : Layout) (d : DirectoryStore) :
    (Published.read l d).value = ((d.find l.search).map (ofEntries l.schema), d) := by
  rw [Published.read, Logged.value_bind]
  rw [DirectoryStore.value_search]
  cases d.find l.search <;> rfl

end NetNames
