import Mathlib.Logic.Function.Basic
import NetNames.Proofs.Directory.Slot

/-! A directory in memory as a map from keys to entries. Whatever it is asked, it answers and
becomes what the map would, one entry at a time; what fails changes no entry, but is written down. -/
namespace NetNames

open Text

/-- What a directory in memory can be asked: to store an entry, to refuse an operation on a name
from now on, to search, or to change an entry. -/
inductive Request where
  | insert (e : DirectoryEntry)
  | refuse (operation : Operation) (dn : String)
  | search (r : SearchRequest)
  | change (c : Change)

inductive Answer where
  | done
  | found (reply : Except DirectoryError (List DirectoryEntry))
  | changed (reply : Except DirectoryError Unit)

/-- What a request leaves in the log: the change that it attempts. -/
def Request.attempt? : Request → Option (Operation × String)
  | .change c => some (c.operation, c.dn)
  | _ => none

namespace DirectoryStore

def serve (d : DirectoryStore) : Request → Answer × DirectoryStore
  | .insert e => (.done, d.insert e)
  | .refuse operation dn => (.done, d.refuse operation dn)
  | .search r =>
    let (reply, d) := (Directory.search r d).value
    (.found reply, d)
  | .change c =>
    let (reply, d) := (Directory.perform c d).value
    (.changed reply, d)

def serveAll : DirectoryStore → List Request → List Answer × DirectoryStore
  | d, [] => ([], d)
  | d, r :: rs =>
    let (answer, d) := d.serve r
    let (answers, d) := serveAll d rs
    (answer :: answers, d)

end DirectoryStore

/-- An entry with the values of one attribute replaced, in whatever case it was named; without
values, nothing of the attribute is left. -/
structure Replaced (name : String) (values : List String) (e f : DirectoryEntry) : Prop where
  dn : f.dn = e.dn
  others : ∀ n, sameIgnoringCase n name = false → f.attributes.get? n = e.attributes.get? n
  named : ∀ n, sameIgnoringCase n name = true →
    f.attributes.get? n = if n = name ∧ values ≠ [] then some values else none

/-- What a change makes of the entry under its key. -/
inductive Makes : Change → Option DirectoryEntry → Option DirectoryEntry → Prop
  | add {dn : String} {attributes : Attributes} :
      Makes (.add dn attributes) none (some ⟨dn, Keyed.ofList attributes⟩)
  | replace {dn name : String} {values : List String} {e f : DirectoryEntry}
      (h : Replaced name values e f) : Makes (.replace dn name values) (some e) (some f)
  | delete {dn : String} {e : DirectoryEntry} : Makes (.delete dn) (some e) none

/-- The entries by their keys, and the operations that are to fail on a key. -/
structure EntryMap where
  entry : String → Option DirectoryEntry
  failing : Operation → String → Prop

namespace EntryMap

instance : EmptyCollection EntryMap := ⟨⟨fun _ => none, fun _ _ => False⟩⟩

def put (m : EntryMap) (k : String) (s : Option DirectoryEntry) : EntryMap :=
  { m with entry := Function.update m.entry k s }

/-- What a request can be answered, and the map after it. A failure that is to happen comes first,
then whether there is an entry under the key; what a search finds is left open. -/
inductive Steps (m : EntryMap) : Request → Answer → EntryMap → Prop
  | insert {e : DirectoryEntry} : Steps m (.insert e) .done (m.put (Dn.key e.dn) (some e))
  | refuse {operation : Operation} {dn : String} : Steps m (.refuse operation dn) .done
      { m with failing := fun o k => m.failing o k ∨ o = operation ∧ k = Dn.key dn }
  | unsearched {r : SearchRequest} (h : m.failing .search (Dn.key r.base)) :
      Steps m (.search r) (.found (.error (.searchFailed r.base (.injected r.base)))) m
  | baseless {r : SearchRequest} (h : ¬ m.failing .search (Dn.key r.base))
      (hbase : m.entry (Dn.key r.base) = none) :
      Steps m (.search r) (.found (.error (.noSuchEntry r.base))) m
  | searched {r : SearchRequest} {reply : Except DirectoryError (List DirectoryEntry)}
      (h : ¬ m.failing .search (Dn.key r.base)) (hbase : m.entry (Dn.key r.base) ≠ none) :
      Steps m (.search r) (.found reply) m
  | injected {c : Change} (h : m.failing c.operation (Dn.key c.dn)) :
      Steps m (.change c) (.changed (.error (.refused c.operation c.dn .injected))) m
  | present {c : Change} (h : ¬ m.failing c.operation (Dn.key c.dn))
      (hadd : c.operation = .add) (hentry : m.entry (Dn.key c.dn) ≠ none) :
      Steps m (.change c) (.changed (.error (.alreadyExists c.dn))) m
  | absent {c : Change} (h : ¬ m.failing c.operation (Dn.key c.dn))
      (hadd : c.operation ≠ .add) (hentry : m.entry (Dn.key c.dn) = none) :
      Steps m (.change c) (.changed (.error (.noSuchEntry c.dn))) m
  | changed {c : Change} {s : Option DirectoryEntry}
      (h : ¬ m.failing c.operation (Dn.key c.dn)) (hmakes : Makes c (m.entry (Dn.key c.dn)) s) :
      Steps m (.change c) (.changed (.ok ())) (m.put (Dn.key c.dn) s)

/-- What requests can be answered one after another, and the map after them. -/
inductive Runs : EntryMap → List Request → List Answer → EntryMap → Prop
  | nil {m : EntryMap} : Runs m [] [] m
  | cons {m m' m'' : EntryMap} {r : Request} {a : Answer} {rs : List Request} {as : List Answer}
      (h : m.Steps r a m') (hr : Runs m' rs as m'') : Runs m (r :: rs) (a :: as) m''

section Steps
variable {m m' : EntryMap} {r : Request} {a : Answer} {rs : List Request} {as : List Answer}

/-- Only a refusal adds to what is to fail. -/
theorem Steps.failing_iff (h : m.Steps r a m') {operation : Operation} {k : String} :
    m'.failing operation k ↔
      m.failing operation k ∨ ∃ dn, r = .refuse operation dn ∧ Dn.key dn = k := by
  cases h
  case refuse o dn =>
    refine or_congr_right ⟨?_, ?_⟩
    · rintro ⟨rfl, rfl⟩
      exact ⟨dn, rfl, rfl⟩
    · rintro ⟨dn', hdn, rfl⟩
      cases hdn
      exact ⟨rfl, rfl⟩
  -- No other request is one to refuse.
  all_goals exact (or_iff_left (by simp)).symm

theorem Runs.failing_iff (h : m.Runs rs as m') {operation : Operation} {k : String} :
    m'.failing operation k ↔
      m.failing operation k ∨ ∃ dn, .refuse operation dn ∈ rs ∧ Dn.key dn = k := by
  induction h with
  | nil => simp
  | cons hs _ ih =>
    rw [ih, hs.failing_iff, or_assoc]
    refine or_congr_right ⟨?_, ?_⟩
    · rintro (⟨dn, rfl, hk⟩ | ⟨dn, hmem, hk⟩)
      · exact ⟨dn, List.mem_cons_self, hk⟩
      · exact ⟨dn, List.mem_cons_of_mem _ hmem, hk⟩
    · rintro ⟨dn, hmem, hk⟩
      rcases List.mem_cons.mp hmem with rfl | hmem
      · exact .inl ⟨dn, rfl, hk⟩
      · exact .inr ⟨dn, hmem, hk⟩

/-- A change goes through just if it is not to fail, and there is no entry where it adds one and one
where it does not. -/
theorem Steps.ok_iff {c : Change} (h : m.Steps (.change c) a m') :
    a = .changed (.ok ()) ↔ ¬ m.failing c.operation (Dn.key c.dn) ∧
      (m.entry (Dn.key c.dn) ≠ none ↔ c.operation ≠ .add) := by
  cases h with
  | injected h => exact iff_of_false nofun fun hok => hok.1 h
  | present h hadd hentry => exact iff_of_false nofun fun hok => hok.2.mp hentry hadd
  | absent h hadd hentry => exact iff_of_false nofun fun hok => hok.2.mpr hadd hentry
  | changed h hmakes =>
    refine iff_of_true rfl ⟨h, ?_⟩
    generalize m.entry (Dn.key c.dn) = s at hmakes
    cases hmakes with
    | add => exact iff_of_false (fun hne => hne rfl) (fun hne => hne rfl)
    | replace => exact iff_of_true nofun nofun
    | delete => exact iff_of_true nofun nofun

end Steps
end EntryMap

theorem DirectoryEntry.get?_replace_nil (e : DirectoryEntry) (name n : String) :
    (e.replace name []).attributes.get? n =
      if sameIgnoringCase n name then none else e.attributes.get? n := by
  rw [DirectoryEntry.replace, if_pos List.isEmpty_nil, Keyed.get?_filter]
  cases sameIgnoringCase n name <;> cases e.attributes.get? n <;> rfl

theorem DirectoryEntry.replaced_replace (e : DirectoryEntry) (name : String)
    (values : List String) : Replaced name values e (e.replace name values) := by
  by_cases hv : values = []
  · subst hv
    refine ⟨rfl, fun n hn => ?_, fun n hn => ?_⟩
    · rw [get?_replace_nil, hn, if_neg Bool.false_ne_true]
    · rw [get?_replace_nil, hn, if_pos rfl, if_neg fun h => h.2 rfl]
  · obtain ⟨hdn, hothers⟩ := e.agreesOutside_replace name hv
    refine ⟨hdn, hothers, fun n hn => ?_⟩
    rw [get?_replace e name n hv, hn, if_pos rfl]
    simp only [hv, ne_eq, not_false_eq_true, and_true]

namespace DirectoryStore
variable {d : DirectoryStore} {c : Change}

/-- The directory as a map, without its log. -/
def view (d : DirectoryStore) : EntryMap := ⟨d.entries.get?, fun o k => (o, k) ∈ d.refusals⟩

theorem isRefused_iff {operation : Operation} {dn : String} :
    d.isRefused operation dn = true ↔ d.view.failing operation (Dn.key dn) :=
  List.contains_iff_mem

theorem contains_iff {dn : String} : d.contains dn = true ↔ d.view.entry (Dn.key dn) ≠ none :=
  Option.isSome_iff_ne_none

theorem view_insert (d : DirectoryStore) (e : DirectoryEntry) :
    (d.insert e).view = d.view.put (Dn.key e.dn) (some e) := by
  have hentry : (d.insert e).entries.get? =
      Function.update d.entries.get? (Dn.key e.dn) (some e) := by
    funext k
    rw [insert, Keyed.get?_insert, Function.update_apply]
  rw [view, hentry]
  rfl

theorem view_refuse (d : DirectoryStore) (operation : Operation) (dn : String) :
    (d.refuse operation dn).view = { d.view with
      failing := fun o k => d.view.failing o k ∨ o = operation ∧ k = Dn.key dn } := by
  have hfailing : (fun o k => (o, k) ∈ (d.refuse operation dn).refusals) =
      fun o k => d.view.failing o k ∨ o = operation ∧ k = Dn.key dn := by
    funext o k
    rw [refuse, List.mem_cons, Prod.mk.injEq, or_comm]
    rfl
  rw [view, hfailing]
  rfl

/-- What a change that goes through makes of the entry under its key. -/
theorem makes_perform (h : (d.perform c).1 = .ok ()) :
    Makes c (d.entries.get? (Dn.key c.dn)) ((d.perform c).2.entries.get? (Dn.key c.dn)) := by
  rcases changed_ok (perform_ok h) with ⟨dn, attributes, rfl, hd, he⟩ |
    ⟨dn, name, values, e, rfl, hd, he⟩ | ⟨dn, e, rfl, hd, he⟩
  · rw [he, hd, Keyed.get?_insert_self]
    exact .add
  · rw [he, hd, Keyed.get?_insert_self]
    exact .replace (e.replaced_replace name values)
  · rw [he, hd, Keyed.get?_erase, if_pos rfl]
    exact .delete

theorem view_perform (d : DirectoryStore) (c : Change) : (d.perform c).2.view =
    d.view.put (Dn.key c.dn) ((d.perform c).2.entries.get? (Dn.key c.dn)) := by
  have hentry : (d.perform c).2.entries.get? = Function.update d.entries.get? (Dn.key c.dn)
      ((d.perform c).2.entries.get? (Dn.key c.dn)) := by
    funext k
    rw [Function.update_apply]
    split
    · rename_i hk
      rw [hk]
    · rename_i hk
      exact get?_perform_of_ne hk
  rw [EntryMap.put, view, view, refusals_perform, ← hentry]

theorem view_perform_error {e : DirectoryError} (h : (d.perform c).1 = .error e) :
    (d.perform c).2.view = d.view := by
  rw [view, entries_of_perform_error h, refusals_perform]
  rfl

/-- Why a change that is not refused is impossible. -/
theorem changed_error {e : DirectoryError} (h : d.changed c = .error e) :
    (c.operation = .add ∧ d.contains c.dn = true ∧ e = .alreadyExists c.dn) ∨
      (c.operation ≠ .add ∧ d.contains c.dn = false ∧ e = .noSuchEntry c.dn) := by
  cases c with
  | add dn attributes =>
    rw [changed] at h
    split at h
    · rename_i hcontains
      cases h
      exact .inl ⟨rfl, hcontains, rfl⟩
    · cases h
  | replace dn name values =>
    rw [changed] at h
    cases hget : d.get? dn with
    | none =>
      rw [hget] at h
      cases h
      exact .inr ⟨by simp [Change.operation], congrArg Option.isSome hget, rfl⟩
    | some e =>
      rw [hget] at h
      cases h
  | delete dn =>
    rw [changed] at h
    split at h
    · cases h
    · rename_i hcontains
      cases h
      exact .inr ⟨by simp [Change.operation], Bool.eq_false_iff.mpr hcontains, rfl⟩

theorem steps_search (d : DirectoryStore) (r : SearchRequest) :
    d.view.Steps (.search r) (.found (d.find r)) d.view := by
  rw [find]
  split
  · rename_i hrefused
    exact .unsearched (isRefused_iff.mp hrefused)
  · rename_i hrefused
    rw [isRefused_iff] at hrefused
    split
    · rename_i hcontains
      rw [Bool.not_eq_true', Bool.eq_false_iff, ne_eq, contains_iff, not_not] at hcontains
      exact .baseless hrefused hcontains
    · rename_i hcontains
      rw [Bool.not_eq_true', Bool.not_eq_false, contains_iff] at hcontains
      exact .searched hrefused hcontains

theorem steps_change (d : DirectoryStore) (c : Change) :
    d.view.Steps (.change c) (.changed (d.perform c).1) (d.perform c).2.view := by
  have heq := d.perform_eq c
  by_cases hrefused : d.isRefused c.operation c.dn = true
  · rw [if_pos hrefused] at heq
    have herror := congrArg Prod.fst heq
    rw [view_perform_error herror, herror]
    exact .injected (isRefused_iff.mp hrefused)
  · rw [if_neg hrefused] at heq
    rw [isRefused_iff] at hrefused
    cases hchanged : d.changed c with
    | error e =>
      rw [hchanged] at heq
      have herror := congrArg Prod.fst heq
      rw [view_perform_error herror, herror]
      rcases changed_error hchanged with ⟨hadd, hcontains, rfl⟩ | ⟨hadd, hcontains, rfl⟩
      · exact .present hrefused hadd (contains_iff.mp hcontains)
      · rw [Bool.eq_false_iff, ne_eq, contains_iff, not_not] at hcontains
        exact .absent hrefused hadd hcontains
    | ok entries =>
      rw [hchanged] at heq
      have hok := congrArg Prod.fst heq
      rw [view_perform, hok]
      exact .changed hrefused (makes_perform hok)

theorem serve_search (d : DirectoryStore) (r : SearchRequest) :
    d.serve (.search r) = (.found (d.find r), d) := by
  rw [serve, value_search]

theorem serve_change (d : DirectoryStore) (c : Change) :
    d.serve (.change c) = (.changed (d.perform c).1, (d.perform c).2) := by
  rw [serve, value_perform]

/-- A directory takes each step as the map of its entries does. -/
theorem steps_serve (d : DirectoryStore) (r : Request) :
    d.view.Steps r (d.serve r).1 (d.serve r).2.view := by
  cases r with
  | insert e =>
    rw [serve, view_insert]
    exact .insert
  | refuse operation dn =>
    rw [serve, view_refuse]
    exact .refuse
  | search r =>
    rw [serve_search]
    exact d.steps_search r
  | change c =>
    rw [serve_change]
    exact d.steps_change c

theorem runs_serveAll (d : DirectoryStore) (rs : List Request) :
    d.view.Runs rs (d.serveAll rs).1 (d.serveAll rs).2.view := by
  induction rs generalizing d with
  | nil => exact .nil
  | cons r rs ih => exact .cons (d.steps_serve r) (ih (d.serve r).2)

theorem Filed.serve (hd : d.Filed) (r : Request) : (d.serve r).2.Filed := by
  cases r with
  | insert e => exact hd.insert e
  | refuse operation dn => exact hd.refuse operation dn
  | search r =>
    rw [serve_search]
    exact hd
  | change c =>
    rw [serve_change]
    exact hd.perform c

theorem Filed.serveAll (hd : d.Filed) (rs : List Request) : (d.serveAll rs).2.Filed := by
  induction rs generalizing d with
  | nil => exact hd
  | cons r rs ih => exact ih (hd.serve r)

theorem attempts_serve (d : DirectoryStore) (r : Request) :
    (d.serve r).2.attempts = d.attempts ++ r.attempt?.toList := by
  cases r with
  | insert e => exact (List.append_nil _).symm
  | refuse operation dn => exact (List.append_nil _).symm
  | search r =>
    rw [serve_search]
    exact (List.append_nil _).symm
  | change c =>
    rw [serve_change]
    exact d.perform_attempts c

theorem serveAll_cons (d : DirectoryStore) (r : Request) (rs : List Request) :
    (d.serveAll (r :: rs)).2 = ((d.serve r).2.serveAll rs).2 := rfl

/-- The log holds the changes that were attempted, whether they failed or not. -/
theorem attempts_serveAll (d : DirectoryStore) (rs : List Request) :
    (d.serveAll rs).2.attempts = d.attempts ++ rs.filterMap Request.attempt? := by
  induction rs generalizing d with
  | nil => exact (List.append_nil _).symm
  | cons r rs ih =>
    rw [serveAll_cons, ih, attempts_serve, List.append_assoc, List.filterMap_cons]
    cases r.attempt? <;> rfl

theorem view_empty : (∅ : DirectoryStore).view = ∅ := by
  have hfailing : (fun (o : Operation) (k : String) => (o, k) ∈ (∅ : DirectoryStore).refusals) =
      fun _ _ => False := by
    funext o k
    exact eq_false List.not_mem_nil
  rw [view, hfailing]
  rfl

/-- A directory that was empty at first answers as the map of its entries does, and logs every
change that was attempted. A search changes nothing. A change goes through just if it is not to fail
and there is an entry under its key, or none where it adds one. If it goes through, that entry alone
is changed, as the change says; if not, no entry is. -/
theorem serveAll_faithful (rs : List Request) :
    let answers := ((∅ : DirectoryStore).serveAll rs).1
    let d := ((∅ : DirectoryStore).serveAll rs).2
    d.Filed ∧ EntryMap.Runs ∅ rs answers d.view ∧
    (∀ operation k, d.view.failing operation k ↔
      ∃ dn, .refuse operation dn ∈ rs ∧ Dn.key dn = k) ∧
    d.attempts = rs.filterMap Request.attempt? ∧
    (∀ r, (d.serve (.search r)).2 = d) ∧
    ∀ c, let answer := (d.serve (.change c)).1
      let next := (d.serve (.change c)).2
      (answer = .changed (.ok ()) ↔ ¬ d.view.failing c.operation (Dn.key c.dn) ∧
        (d.contains c.dn = true ↔ c.operation ≠ .add)) ∧
      (answer ≠ .changed (.ok ()) → next.entries = d.entries) ∧
      (answer = .changed (.ok ()) → Makes c (d.get? c.dn) (next.get? c.dn) ∧
        ∀ k, k ≠ Dn.key c.dn → next.entries.get? k = d.entries.get? k) := by
  intro answers d
  have hruns := (∅ : DirectoryStore).runs_serveAll rs
  rw [view_empty] at hruns
  refine ⟨filed_empty.serveAll rs, hruns, fun operation k => ?_, ?_, fun r => ?_, fun c => ?_⟩
  · rw [hruns.failing_iff]
    exact or_iff_right id
  · exact attempts_serveAll ∅ rs
  · rw [serve_search]
  · rw [serve_change]
    refine ⟨?_, fun hfailed => ?_, fun hok => ⟨makes_perform (Answer.changed.inj hok), ?_⟩⟩
    · rw [contains_iff]
      exact (d.steps_change c).ok_iff
    · cases h : (d.perform c).1 with
      | error e => exact entries_of_perform_error h
      | ok => exact absurd (congrArg Answer.changed h) hfailed
    · exact fun k hk => get?_perform_of_ne hk

private def dockRequests : List Request :=
  [.insert ⟨" CN=Dock,dc=x ", .ofList [("mail", ["a"]), ("Mail", ["b"]), ("cn", ["Dock"])]⟩,
    .change (.replace "cn=DOCK,dc=x" "MAIL" []), .change (.add "cn=dock,dc=x" []),
    .refuse .delete "CN=DOCK,DC=X", .change (.delete "cn=dock,dc=x")]

/-- An entry loses an attribute under both of its names, and withstands an addition and a deletion
that is to fail, although each of them spells its name in its own way. -/
theorem dock_kept :
    let d := ((∅ : DirectoryStore).serveAll dockRequests).2
    let next := (d.serve (.change (.delete "Cn=Dock,dc=x"))).2
    d.attempts = [(.modify, "cn=DOCK,dc=x"), (.add, "cn=dock,dc=x"), (.delete, "cn=dock,dc=x")] ∧
    next.entries = d.entries ∧
    d.get? "cn=dock,dc=x" = some ⟨" CN=Dock,dc=x ", .ofList [("cn", ["Dock"])]⟩ := by
  intro d next
  obtain ⟨-, -, hfailing, hlog, -, hchange⟩ := serveAll_faithful dockRequests
  obtain ⟨hok, herror, -⟩ := hchange (.delete "Cn=Dock,dc=x")
  have hrefused : d.view.failing .delete (Dn.key "Cn=Dock,dc=x") :=
    (hfailing _ _).mpr ⟨"CN=DOCK,DC=X", by simp [dockRequests], by decide +kernel⟩
  exact ⟨hlog, herror fun h => (hok.mp h).1 hrefused, by decide +kernel⟩

end DirectoryStore
end NetNames
