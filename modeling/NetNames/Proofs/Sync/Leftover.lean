import NetNames.Proofs.Directory.OwnName
import NetNames.Proofs.Sync.Clearance
import NetNames.Proofs.Sync.History

/-! What a clearance leaves behind. It deletes what the published names lead to, so an entry that
has no name, or none that a later entry has not taken, survives even if nothing is skipped. -/
namespace NetNames.Sync

open Published

namespace Cleared
variable {p : Progress} {d d' : DirectoryStore} {services : List ServiceEntry} {steps : List Step}
  {k : String} {c : Change}

/-- The history of a key holds deletions of services under it and nothing else. -/
theorem of_mem_history (h : Cleared {} d services steps p d')
    (hc : c ∈ history k (callsOf steps)) :
    c.operation = .delete ∧ ∃ s ∈ services, Dn.key s.source = k := by
  obtain ⟨hcall, hk⟩ := mem_history.mp hc
  obtain ⟨s, hs, rfl⟩ := h.deletes hcall
  exact ⟨rfl, s, hs, hk⟩

theorem get?_of_not_source (h : Cleared {} d services steps p d')
    (hk : ∀ s ∈ services, Dn.key s.source ≠ k) : d'.entries.get? k = d.entries.get? k := by
  have hnone : history k (callsOf steps) = [] := by
    refine List.eq_nil_iff_forall_not_mem.mpr fun c hc => ?_
    obtain ⟨-, s, hs, hsk⟩ := h.of_mem_history hc
    exact hk s hs hsk
  have hevolves := h.carried.evolves k
  rw [hnone] at hevolves
  exact hevolves.of_nil

/-- What is counted as deleted is gone. -/
theorem get?_of_source (h : Cleared {} d services steps p d')
    (hskip : ∀ st ∈ steps, st.countedAs ≠ .skip) {s : ServiceEntry} (hs : s ∈ services) :
    d'.entries.get? (Dn.key s.source) = none := by
  have hrecords := h.records Progress.Records.start
  rw [List.nil_append] at hrecords
  obtain ⟨i, hi, rfl⟩ := List.getElem_of_mem hs
  have hi' : i < steps.length := h.outcomes.length_eq ▸ hi
  obtain ⟨succeeded, hlookup, houtcome⟩ := h.outcomes.get hi hi'
  have hsucceeded : succeeded = true := by
    refine Bool.of_not_eq_false fun hfailed => hskip _ (List.getElem_mem hi') ?_
    rw [List.get_eq_getElem, hfailed] at houtcome
    rw [Step.countedAs, houtcome]
    rfl
  obtain ⟨dn, hcall, hdn⟩ := (hrecords.succeeded_iff hlookup).mp hsucceeded
  refine (h.carried.evolves _).of_not_added (fun c hc hadd => ?_)
    (.inr ⟨_, mem_history.mpr ⟨hcall, hdn⟩, rfl⟩)
  rw [(h.of_mem_history hc).1] at hadd
  cases hadd

/-- A clearance that skips nothing takes out the sources of the services and nothing else. -/
theorem get?_eq (h : Cleared {} d services steps p d')
    (hskip : ∀ st ∈ steps, st.countedAs ≠ .skip) (k : String) : d'.entries.get? k =
      if ∃ s ∈ services, Dn.key s.source = k then none else d.entries.get? k := by
  split
  · rename_i hsource
    obtain ⟨s, hs, rfl⟩ := hsource
    exact h.get?_of_source hskip hs
  · rename_i hnone
    exact h.get?_of_not_source fun s hs hk => hnone ⟨s, hs, hk⟩

end Cleared

variable {layout : Layout} {d : DirectoryStore} {es : List DirectoryEntry}

/-- A published service is that of an entry which the search returned. -/
theorem exists_of_published {s : ServiceEntry} (hs : s ∈ (ofEntries layout.schema es).toList) :
    ∃ f ∈ es, s.source = f.dn := by
  obtain ⟨k, hk⟩ := Registry.mem_toList_iff.mp hs
  obtain ⟨f, hf, -, hsource, -⟩ := exists_of_get?_ofEntries hk
  exact ⟨f, hf, hsource⟩

/-- What the search did not return is left alone, whatever is refused. -/
theorem get?_clear_of_not_found {k : String} (hk : ∀ f ∈ es, Dn.key f.dn ≠ k) :
    (clear (ofEntries layout.schema es) d).value.directory.entries.get? k = d.entries.get? k := by
  obtain ⟨p, hcleared⟩ := exists_cleared_clear (ofEntries layout.schema es) d
  refine hcleared.get?_of_not_source fun s hs hsk => ?_
  obtain ⟨f, hf, hsource⟩ := exists_of_published hs
  exact hk f hf (hsource ▸ hsk)

/-- A clearance keeps its container, unless the name of that is blank. -/
theorem contains_container_clear (hd : d.Filed) (hes : d.find layout.search = .ok es)
    (hblank : Dn.key layout.container ≠ "") :
    (clear (ofEntries layout.schema es) d).value.directory.contains layout.container = true := by
  have hbase : d.contains layout.container = true := (DirectoryStore.find_ok_iff.mp hes).2.1
  rw [DirectoryStore.contains, Keyed.contains, get?_clear_of_not_found]
  · exact hbase
  · intro f hf hk
    obtain ⟨-, -, -, hreaches⟩ := hd.exists_of_find hes hf
    exact hblank (Scope.key_eq_empty_of_reaches hreaches hk)

/-- A clearance that skips nothing takes what is published out of what the search returns. -/
theorem find_clear (hd : d.Filed) (hes : d.find layout.search = .ok es)
    (hskip : (clear (ofEntries layout.schema es) d).value.tally.count .skip = 0) :
    let d' := (clear (ofEntries layout.schema es) d).value.directory
    d'.find layout.search = if d'.contains layout.container then
      .ok (es.filter (Unpublished layout.schema es)) else .error (.noSuchEntry layout.container) := by
  intro d'
  obtain ⟨p, hcleared⟩ := exists_cleared_clear (ofEntries layout.schema es) d
  have hget := hcleared.get?_eq ((isConverged_tallyOf _).mp (beq_iff_eq.mpr hskip))
  split
  · rename_i hbase
    rw [hd.find_removed hes hget hcleared.carried.refusals hbase]
    refine congrArg _ (List.filter_congr fun e _ => ?_)
    simp [Unpublished]
  · rename_i hlost
    refine DirectoryStore.find_eq_error ?_ (Bool.eq_false_iff.mpr hlost)
    rw [DirectoryStore.isRefused, hcleared.carried.refusals]
    exact (DirectoryStore.find_ok_iff.mp hes).1

/-- A clearance leaves what the search did not return. If it skips nothing, the search then returns
the entries of before that no published name leads to: those of which every name, if they have one,
is taken by a later entry. Only a container with a blank name can be lost. -/
theorem clear_leaves_unpublished (hd : d.Filed) (hes : d.find layout.search = .ok es) :
    let published := ofEntries layout.schema es
    let p := (clear published d).value
    (Published.read layout d).value = (.ok published, d) ∧
    (∀ dn, (∀ f ∈ es, Dn.key f.dn ≠ Dn.key dn) → p.directory.get? dn = d.get? dn) ∧
    (p.tally.count .skip = 0 → p.directory.find layout.search =
      if p.directory.contains layout.container then
        .ok (es.filter (Unpublished layout.schema es))
      else .error (.noSuchEntry layout.container)) ∧
    (Dn.key layout.container ≠ "" → p.directory.contains layout.container = true) ∧
    ∀ before e after, es = before ++ e :: after →
      (Unpublished layout.schema es e ↔
        ∀ k ∈ keysOf layout.schema e, ∃ f ∈ after, k ∈ keysOf layout.schema f) := by
  refine ⟨?_, fun dn hdn => get?_clear_of_not_found hdn, find_clear hd hes,
    contains_container_clear hd hes, fun before e after => unpublished_iff (hd.pairwise_find hes)⟩
  rw [Published.value_read, hes]
  rfl

private def attic : Layout := ⟨"dc=x", {}⟩
private def trunk : DirectoryEntry := attic.newEntry "TRUNK" "t"
private def lamp : DirectoryEntry := attic.newEntry "LAMP" "l"
private def shade : DirectoryEntry :=
  ⟨"cn=SHADE,dc=x", .ofList [("objectClass", ["orclNetService"]), ("cn", ["SHADE"]),
    ("aliasedObjectName", ["cn=LAMP,dc=x"])]⟩
private def crate : DirectoryEntry :=
  ⟨"ou=CRATE,dc=x", .ofList [("objectClass", ["orclNetService"])]⟩
private def storage : DirectoryStore := .ofList [⟨"dc=x", ∅⟩, trunk, lamp, shade, crate]
private def found (d : DirectoryStore) : List DirectoryEntry :=
  (attic.services d).map (·.project attic.search.attributes)

/-- An entry whose name was taken and one without a name survive a clearance that skips nothing. -/
theorem lamp_outlasts_clear :
    let p := (clear (ofEntries attic.schema (found storage)) storage).value
    p.calls.map (·.change) = [.delete "cn=SHADE,dc=x", .delete "cn=TRUNK,dc=x"] ∧
      p.tally.count .skip = 0 ∧
      p.directory.find attic.search =
        .ok [lamp.project attic.search.attributes, crate.project attic.search.attributes] ∧
      p.directory.get? "dc=x" = some ⟨"dc=x", ∅⟩ := by
  intro p
  have hfiled : storage.Filed := DirectoryStore.filed_ofList _
  have hfound : storage.find attic.search = .ok (found storage) :=
    Layout.find_search Schema.usable_default (by decide +kernel) (by decide +kernel)
  have hskip : p.tally.count .skip = 0 := by decide +kernel
  obtain ⟨-, hframe, hfind, hbase, -⟩ := clear_leaves_unpublished hfiled hfound
  refine ⟨by decide +kernel, hskip, ?_, ?_⟩
  · rw [hfind hskip, if_pos (hbase (by decide +kernel))]
    decide +kernel
  · exact (hframe "dc=x" (by decide +kernel)).trans (by decide +kernel)

private def bedside : DirectoryStore := .ofList [⟨"dc=x", ∅⟩, lamp, shade]

/-- The search can return an entry after a clearance that skips nothing. -/
theorem not_forall_clear_empties :
    ¬ ∀ (layout : Layout) (d d' : DirectoryStore) (published : Registry),
      d.Filed → (Published.read layout d).value = (.ok published, d') →
      let p := (clear published d').value
      p.tally.count .skip = 0 →
        ∀ es, p.directory.find layout.search = .ok es → es = [] := by
  intro h
  have hfiled : bedside.Filed := DirectoryStore.filed_ofList _
  have hfound : bedside.find attic.search = .ok (found bedside) :=
    Layout.find_search Schema.usable_default (by decide +kernel) (by decide +kernel)
  have hread : (Published.read attic bedside).value =
      (.ok (ofEntries attic.schema (found bedside)), bedside) := by
    rw [Published.value_read, hfound]
    rfl
  have hskip : (clear (ofEntries attic.schema (found bedside)) bedside).value.tally.count .skip =
      0 := by decide +kernel
  have hfind := find_clear hfiled hfound hskip
  dsimp only at hfind
  rw [if_pos (contains_container_clear hfiled hfound (by decide +kernel))] at hfind
  exact absurd (h attic bedside _ _ hfiled hread hskip _ hfind) (by decide +kernel)

end NetNames.Sync
