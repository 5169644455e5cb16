import NetNames.Pattern.Select
import NetNames.Proofs.Directory.Published
import NetNames.Proofs.NamesFile.DocumentOrder
import NetNames.Proofs.NamesFile.Loaded
import NetNames.Proofs.Text.Utf8

/-! Registries in all the ways they are built. Whatever enters one, every entry stands under its own
upper-cased name, the names ascend as bytes, and the last entry of a name is the one that is found. -/
namespace NetNames

namespace ServiceEntry

def Defined (e : ServiceEntry) : Prop :=
  ∃ name description source, e = .define name description source

/-- The service and the addresses are what the descriptor says. -/
def Mined (e : ServiceEntry) : Prop :=
  e.service = Descriptor.serviceOf e.description ∧
    e.addresses = Descriptor.addressesOf e.description

theorem Defined.mined {e : ServiceEntry} (h : e.Defined) : e.Mined := by
  obtain ⟨name, description, source, rfl⟩ := h
  exact ⟨rfl, rfl⟩

end ServiceEntry

namespace NamesFile

open ServiceEntry

variable {source : String} {included : List Char → List ServiceEntry}

theorem defined_of_mem_ofText (h : ∀ target, ∀ e ∈ included target, e.Defined) {text : List Char}
    {e : ServiceEntry}
    (he : e ∈ (Block.ofText text).flatMap (Block.definitions source included)) : e.Defined := by
  obtain ⟨b, -, he⟩ := List.mem_flatMap.mp he
  cases b with
  | definition name body =>
    rw [Block.definitions] at he
    split at he
    · cases he
    · exact ⟨_, _, _, List.mem_singleton.mp he⟩
  | inclusion target => exact h target e he
  | stray line => cases he

/-- By induction on the files off the chain. -/
theorem defined_of_mem_definitions {v : FileView} {recursive : Bool} {chain : List Location}
    {path : String} {e : ServiceEntry} (he : e ∈ definitions v recursive chain path) :
    e.Defined := by
  induction chain, path using chain_induction v generalizing e with
  | step chain path ih =>
    rw [definitions_eq] at he
    cases hopened : opened v chain path with
    | error fault =>
      rw [hopened] at he
      cases he
    | ok file =>
      rw [hopened] at he
      dsimp only at he
      rw [← flatMap_ofText] at he
      refine defined_of_mem_ofText (fun target f hf => ?_) he
      split at hf
      · exact ih file.1 file.2 hopened _ hf
      · cases hf

end NamesFile

namespace Registry

open ServiceEntry

variable {given : ServiceEntry → Prop} {r s : Registry} {e : ServiceEntry} {es : List ServiceEntry}

/-- The registry is built from entries of this kind, from names files and from directories. -/
inductive Built (given : ServiceEntry → Prop) : Registry → Prop
  | empty : Built given ∅
  | insert {r : Registry} {e : ServiceEntry} (hr : Built given r) (he : given e) :
      Built given (r.insert e)
  | merge {r s : Registry} (hr : Built given r) (hs : Built given s) : Built given (r.merge s)
  | ofList {es : List ServiceEntry} (hes : ∀ e ∈ es, given e) : Built given (ofList es)
  | select {r s : Registry} {pattern : String} (hr : Built given r)
      (h : r.select pattern = .ok s) : Built given s
  | text (v : FileView) (text source folder : String) (recursive : Bool) :
      Built given (NamesFile.loadText v text source folder recursive).value
  | file {v : FileView} {path : String} {recursive : Bool} {r : Registry}
      (h : (NamesFile.load v path recursive).value = .ok r) : Built given r
  | published {σ : Type} [Directory σ] {layout : Layout} {d d' : σ} {r : Registry}
      (h : (Published.read layout d).value = (.ok r, d')) : Built given r

/-- What enters a registry: an entry, or all entries of another registry. -/
inductive Arrival where
  | entry (e : ServiceEntry)
  | registry (s : Registry)

def Arrival.entries : Arrival → List ServiceEntry
  | .entry e => [e]
  | .registry s => s.toList

def receive (r : Registry) : Arrival → Registry
  | .entry e => r.insert e
  | .registry s => r.merge s

theorem ofEntries_of_read {σ : Type} [Directory σ] {layout : Layout} {d d' : σ}
    (h : (Published.read layout d).value = (.ok r, d')) :
    ∃ es, r = Published.ofEntries layout.schema es := by
  rw [Published.read, Logged.value_bind] at h
  cases hfound : (Directory.search layout.search d).value.1 with
  | error e => simp [hfound] at h
  | ok es =>
    simp only [hfound, Logged.value_bind, Logged.value_pure, Prod.mk.injEq, Except.ok.injEq] at h
    exact ⟨es, h.1.symm⟩

theorem mined_ofList (h : ∀ e ∈ es, e.Mined) : ∀ e ∈ (ofList es).toList, e.Mined := by
  intro e he
  obtain ⟨name, hname⟩ := mem_toList_iff.mp he
  obtain ⟨f, hf, -, rfl⟩ := exists_of_get?_ofList hname
  exact h f hf

theorem mined_insert (hr : ∀ e ∈ r.toList, e.Mined) (he : e.Mined) :
    ∀ f ∈ (r.insert e).toList, f.Mined := by
  intro f hf
  obtain ⟨name, hname⟩ := mem_toList_iff.mp hf
  rw [get?_insert] at hname
  split at hname
  · cases hname
    exact he
  · exact hr f (mem_toList_iff.mpr ⟨name, hname⟩)

theorem mined_merge (hr : ∀ e ∈ r.toList, e.Mined) (hs : ∀ e ∈ s.toList, e.Mined) :
    ∀ f ∈ (r.merge s).toList, f.Mined := by
  intro f hf
  obtain ⟨name, hname⟩ := mem_toList_iff.mp hf
  rw [get?_merge, Option.or_eq_some_iff] at hname
  rcases hname with hname | ⟨-, hname⟩
  · exact hs f (mem_toList_iff.mpr ⟨name, hname⟩)
  · exact hr f (mem_toList_iff.mpr ⟨name, hname⟩)

theorem eq_of_select {pattern : String} (h : r.select pattern = .ok s) :
    ∃ p : ServiceEntry → Bool, s = ofList (r.toList.filter p) := by
  rw [select] at h
  split at h
  · cases h
  · cases h
    exact ⟨_, rfl⟩

theorem defined_services (l : Published.Listing) : ∀ e ∈ l.services, e.Defined := by
  intro e he
  rw [Published.Listing.services] at he
  split at he
  · rcases List.mem_cons.mp he with rfl | he
    · exact ⟨_, _, _, rfl⟩
    · exact ⟨_, _, _, List.mem_singleton.mp he⟩
  · exact ⟨_, _, _, List.mem_singleton.mp he⟩

theorem Built.canonical (h : Built given r) : r.Canonical := by
  induction h with
  | empty => exact canonical_empty
  | insert _ _ ih => exact ih.insert _
  | merge _ _ ihr ihs => exact ihr.merge ihs
  | ofList => exact canonical_ofList _
  | select _ h =>
    obtain ⟨p, rfl⟩ := eq_of_select h
    exact canonical_ofList _
  | text v text source folder recursive =>
    rw [NamesFile.value_loadText]
    exact canonical_ofList _
  | file h => exact NamesFile.canonical_load h
  | published h =>
    obtain ⟨es, rfl⟩ := ofEntries_of_read h
    exact canonical_ofList _

theorem Built.mined (hgiven : ∀ e, given e → e.Defined) (h : Built given r) :
    ∀ e ∈ r.toList, e.Mined := by
  induction h with
  | empty =>
    intro e he
    cases he
  | insert _ he ih => exact mined_insert ih (hgiven _ he).mined
  | merge _ _ ihr ihs => exact mined_merge ihr ihs
  | ofList hes => exact mined_ofList fun e he => (hgiven e (hes e he)).mined
  | select _ h ih =>
    obtain ⟨p, rfl⟩ := eq_of_select h
    exact mined_ofList fun e he => ih e (List.mem_of_mem_filter he)
  | text v text source folder recursive =>
    rw [NamesFile.value_loadText]
    refine mined_ofList fun e he => ServiceEntry.Defined.mined ?_
    refine NamesFile.defined_of_mem_ofText (fun target f hf => ?_) he
    rw [NamesFile.includedInText] at hf
    split at hf
    · exact NamesFile.defined_of_mem_definitions hf
    · cases hf
  | @file v path recursive r h =>
    rw [NamesFile.value_load, NamesFile.value_readChained_eq] at h
    cases hopened : NamesFile.opened v [] path with
    | error e =>
      rw [hopened] at h
      cases h
    | ok file =>
      rw [hopened] at h
      cases h
      exact mined_ofList fun e he => (NamesFile.defined_of_mem_definitions he).mined
  | published h =>
    obtain ⟨es, rfl⟩ := ofEntries_of_read h
    refine mined_ofList fun e he => ServiceEntry.Defined.mined ?_
    obtain ⟨l, -, hl⟩ := List.mem_flatMap.mp he
    exact defined_services l e hl

/-- A canonical registry is made again of the entries that it lists. -/
theorem Canonical.ofList_toList (hr : r.Canonical) : ofList r.toList = r := by
  have hnames : (r.toList.map fun e => upperCase e.name) = r.names := by
    rw [← hr.map_name_toList]
    refine List.map_congr_left fun e he => ?_
    exact (hr e.name e (hr.mem_toList_iff.mp he)).2
  have hnodup : (r.toList.map fun e => upperCase e.name).Nodup := by
    rw [hnames, List.Nodup]
    refine r.entries.keys_ascending.imp ?_
    rintro a _ hlt rfl
    exact String.lt_irrefl a hlt
  refine Registry.ext fun name => Option.ext fun e => ?_
  rw [get?_ofList_eq_some_iff hnodup]
  constructor
  · rintro ⟨f, hf, rfl, rfl⟩
    have hget := hr.mem_toList_iff.mp hf
    have hupper := (hr f.name f hget).2
    rwa [hupper]
  · intro hget
    obtain ⟨rfl, hupper⟩ := hr name e hget
    exact ⟨e, hr.mem_toList_iff.mpr hget, hupper, rfl⟩

/-- The last entry of a name is found, or else what was there before. -/
theorem get?_foldl_insert (es : List ServiceEntry) (r : Registry) (name : String) :
    (es.foldl insert r).get? name =
      ((es.filter (upperCase ·.name = name)).getLast?.map fun e => { e with name }).or
        (r.get? name) := by
  induction es using List.reverseRecOn with
  | nil => rfl
  | append_singleton es e ih =>
    rw [List.foldl_append, List.foldl_cons, List.foldl_nil, get?_insert, List.filter_append]
    by_cases hname : name = upperCase e.name
    · subst hname
      simp
    · simp [ih, hname, Ne.symm hname]

theorem receive_eq {a : Arrival} (h : ∀ s, a = .registry s → s.Canonical) (r : Registry) :
    r.receive a = a.entries.foldl insert r := by
  cases a with
  | entry e => rfl
  | registry s => rw [receive, Arrival.entries, ← merge_ofList, (h s rfl).ofList_toList]

theorem foldl_receive_eq {arrivals : List Arrival}
    (h : ∀ s, Arrival.registry s ∈ arrivals → s.Canonical) (r : Registry) :
    arrivals.foldl receive r = (arrivals.flatMap Arrival.entries).foldl insert r := by
  induction arrivals generalizing r with
  | nil => rfl
  | cons a arrivals ih =>
    rw [List.foldl_cons, List.flatMap_cons, List.foldl_append,
      receive_eq fun s hs => h s (hs ▸ List.mem_cons_self)]
    exact ih (fun s hs => h s (List.mem_cons_of_mem a hs)) _

/-- In every registry, however it was built, each entry stands under its own name, which upper-casing
keeps, and the names are listed in the order of their bytes. Whatever enters it afterwards, no name
is lost, and each leads to the last entry that came under it. If all entries handed in were defined
from their descriptors, every entry has the service and the addresses of its own. -/
theorem built_invariant (h : Built given r) :
    (∀ name e, r.get? name = some e → e.name = name ∧ upperCase name = name) ∧
    (r.names.map fun name => Text.encode name.toList).Pairwise (· < ·) ∧
    (∀ arrivals : List Arrival, (∀ s, Arrival.registry s ∈ arrivals → Built given s) → ∀ name,
      (name ∈ r.names → name ∈ (arrivals.foldl receive r).names) ∧
      (arrivals.foldl receive r).get? name =
        (((arrivals.flatMap Arrival.entries).filter (upperCase ·.name = name)).getLast?.map
          fun e => { e with name }).or (r.get? name)) ∧
    ((∀ e, given e → e.Defined) → ∀ e ∈ r.toList, e.Mined) := by
  refine ⟨h.canonical, ?_, fun arrivals harrivals name => ?_, fun hgiven => h.mined hgiven⟩
  · refine List.pairwise_map.mpr (r.entries.keys_ascending.imp fun hlt => ?_)
    exact Text.encode_lt (String.lt_iff.mp hlt)
  · have hget := get?_foldl_insert (arrivals.flatMap Arrival.entries) r name
    rw [← foldl_receive_eq fun s hs => (harrivals s hs).canonical] at hget
    refine ⟨fun hname => ?_, hget⟩
    obtain ⟨e, he⟩ := mem_names_iff.mp hname
    rw [mem_names_iff, hget, he]
    cases List.getLast? _ with
    | none => exact ⟨e, rfl⟩
    | some f => exact ⟨_, rfl⟩

/-- The ferry of a file that is merged later replaces the one that was there, in whatever case its
name is written, and its service is that of its own descriptor. -/
theorem ferry_redefined :
    let old := ofList [.define "ferry" "(SERVICE_NAME=old)" "a", .define "Quay" "(SID=q)" "a"]
    let new := ofList [.define "Ferry" "(SERVICE_NAME=new)" "b"]
    Built Defined old ∧ Built Defined new ∧
      (old.merge new).get? "FERRY" = some ⟨"FERRY", "(SERVICE_NAME=new)", "b", "new", []⟩ ∧
      "QUAY" ∈ (old.merge new).names ∧ ∀ e ∈ old.toList, e.Mined := by
  intro old new
  have hold : Built Defined old := .ofList (by
    rw [List.forall_mem_cons, List.forall_mem_singleton]
    exact ⟨⟨_, _, _, rfl⟩, ⟨_, _, _, rfl⟩⟩)
  have hnew : Built Defined new := .ofList (List.forall_mem_singleton.mpr ⟨_, _, _, rfl⟩)
  have harrivals : ∀ s, Arrival.registry s ∈ [Arrival.registry new] → Built Defined s := by
    intro s hs
    rw [List.mem_singleton, Arrival.registry.injEq] at hs
    rwa [hs]
  obtain ⟨-, -, hlast, hmined⟩ := built_invariant hold
  refine ⟨hold, hnew, ?_, ?_, hmined fun _ he => he⟩
  · exact (hlast _ harrivals "FERRY").2.trans (by decide +kernel)
  · exact (hlast _ harrivals "QUAY").1 (by decide +kernel)

end Registry
end NetNames
