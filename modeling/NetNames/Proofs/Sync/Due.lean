import NetNames.Proofs.Sync.Idempotence

/-! What a round is due to leave under a key: that follows from the local names and the directory
before it. A round that skips nothing leaves just that. A round that is refused something may leave
something else, but then the same is still due. -/
namespace NetNames.Sync

open Published

variable {localNames : Registry} {domain : String} {layout : Layout} {d : DirectoryStore}
  {k : String} {a b : ServiceEntry} {e f : DirectoryEntry} {s s' : Option DirectoryEntry}

/-- A service entry that no local alias wants. -/
def Obsolete (localNames : Registry) (domain : String) (layout : Layout) (e : DirectoryEntry) :
    Prop :=
  layout.isService e = true ∧ Retired localNames domain layout.schema e

theorem obsolete_congr (hu : layout.schema.Usable)
    (h : DirectoryEntry.AgreesOutside layout.schema.descriptorAttribute e f) :
    Obsolete localNames domain layout f ↔ Obsolete localNames domain layout e := by
  rw [Obsolete, Obsolete, Retired, Retired, Layout.isService_congr hu h,
    keysOf_of_agreesOutside hu.separate h]

theorem not_obsolete_of_wanted (hk : k ∈ keysOf layout.schema e)
    (hwanted : Wanted localNames domain k) : ¬ Obsolete localNames domain layout e :=
  fun h => h.2.2 k hk hwanted

theorem not_obsolete_new (hu : layout.schema.Usable) (ha : a ∈ localNames.toList) :
    ¬ Obsolete localNames domain layout
      (layout.newEntry (Alias.qualified a.name domain) a.description) := by
  refine not_obsolete_of_wanted (k := Alias.qualified a.name domain) ?_ (.inr ⟨a, ha, rfl⟩)
  rw [keysOf_new hu.separate]
  exact List.mem_singleton_self _

/-- What is due under a key. -/
inductive Due (localNames : Registry) (domain : String) (layout : Layout) (d : DirectoryStore)
    (k : String) : Option DirectoryEntry → Prop
  | kept {e : DirectoryEntry} (he : d.entries.get? k = some e)
      (hkept : ¬ Obsolete localNames domain layout e)
      (hsame : ∀ a ∈ localNames.toList, ∀ r,
        Alias.resolve a.name (mirror layout d) domain = some r → Dn.key r.source = k →
          r.description = a.description) : Due localNames domain layout d k (some e)
  | written {e : DirectoryEntry} {a r : ServiceEntry} (he : d.entries.get? k = some e)
      (ha : a ∈ localNames.toList)
      (hr : Alias.resolve a.name (mirror layout d) domain = some r) (hk : Dn.key r.source = k)
      (hne : r.description ≠ a.description) :
      Due localNames domain layout d k
        (some (e.replace layout.schema.descriptorAttribute [a.description]))
  | added {a : ServiceEntry} (ha : a ∈ localNames.toList)
      (hnew : Alias.resolve a.name (mirror layout d) domain = none)
      (hk : k = Dn.key (layout.entryDn (Alias.qualified a.name domain))) :
      Due localNames domain layout d k
        (some (layout.newEntry (Alias.qualified a.name domain) a.description))
  | gone (hold : ∀ e, d.entries.get? k = some e → Obsolete localNames domain layout e)
      (hnone : ∀ a ∈ localNames.toList, Alias.resolve a.name (mirror layout d) domain = none →
        k ≠ Dn.key (layout.entryDn (Alias.qualified a.name domain))) :
      Due localNames domain layout d k none

/-- No entry stands in the way of a new alias, but an obsolete one whose turn comes before. -/
def Clear (localNames : Registry) (domain : String) (layout : Layout) (d : DirectoryStore) :
    Prop :=
  ∀ a ∈ localNames.toList, Alias.resolve a.name (mirror layout d) domain = none →
    ∀ e, d.get? (layout.entryDn (Alias.qualified a.name domain)) = some e →
      Obsolete localNames domain layout e ∧ ∃ m ∈ keysOf layout.schema e, m < a.name

/-- An entry that is gone after a round was obsolete. -/
theorem obsolete_of_gone (hready : Ready localNames layout d) (he : d.entries.get? k = some e)
    (after : (passOf localNames domain layout d).directory.entries.get? k = none) :
    Obsolete localNames domain layout e := by
  have hdelete : ∃ c ∈ changesOf localNames domain layout d k, c.operation = .delete := by
    refine Classical.byContradiction fun hnot => ?_
    obtain ⟨f, hf, -⟩ := kept_of_not_deleted he fun c hc hdelete => hnot ⟨c, hc, hdelete⟩
    rw [after] at hf
    cases hf
  obtain ⟨c, hc, hdelete⟩ := hdelete
  obtain ⟨e', he', hget⟩ := exists_of_mem_changesOf hready.filed hc (by simp [hdelete])
  cases he.symm.trans hget
  have hk := hready.filed k e he
  exact ⟨((Layout.mem_services hready.filed).mp he').2,
    retired_of_deleted hready he' (hk.symm ▸ hc) hdelete⟩

/-- A round that skips nothing leaves under every key what is due there. -/
theorem due_of_converged (hready : Ready localNames layout d)
    (hconverged : (passOf localNames domain layout d).tally.isConverged = true) (k : String) :
    Due localNames domain layout d k
      ((passOf localNames domain layout d).directory.entries.get? k) := by
  have hl := hready.canonical
  cases turned hl hready.filed domain layout k with
  | @kept e f before after keeps =>
    rw [after]
    rcases keeps.last with ⟨hnil, rfl⟩ | ⟨dn, v, hmem, rfl⟩
    · refine .kept before (fun hobsolete => ?_) fun a ha r hr hk => ?_
      · have hk := hready.filed k f before
        have he : f ∈ layout.services d :=
          (Layout.mem_services hready.filed).mpr ⟨hk.symm ▸ before, hobsolete.1⟩
        obtain ⟨c, hc, -⟩ := (deleted_iff_retired hready hconverged he).mpr hobsolete.2
        rw [hk, hnil] at hc
        cases hc
      · refine Decidable.byContradiction fun hne => ?_
        obtain ⟨c, hc, -⟩ := went_through hconverged (state_of_local hl ha _ _)
          (intent_resolved hl ha hr hne _)
        rw [Change.dn, hk, hnil] at hc
        cases hc
    · obtain ⟨a, ha, r, hr, hk, hne, hv⟩ := modified_of_mem_changesOf hl hmem
      rw [hv]
      exact .written before ha hr hk hne
  | added ha hnew hk after =>
    rw [after]
    exact .added ha hnew hk
  | gone after hadd =>
    rw [after]
    refine .gone (fun e he => obsolete_of_gone hready he after) fun a ha hnew hk => ?_
    obtain ⟨c, hc, hoperation⟩ := went_through hconverged (state_of_local hl ha _ _)
      (intent_unresolved hl ha hnew _)
    exact hadd c (hk ▸ hc) hoperation

theorem not_obsolete_of_resolve {r : ServiceEntry} (hready : Ready localNames layout d)
    (ha : a ∈ localNames.toList) (hr : Alias.resolve a.name (mirror layout d) domain = some r)
    (he : d.entries.get? (Dn.key r.source) = some e) : ¬ Obsolete localNames domain layout e := by
  obtain ⟨-, hk, -⟩ := service_of_resolve hready.filed hr he
  exact not_obsolete_of_wanted hk (.inr ⟨a, ha, rfl⟩)

/-- An entry that is not obsolete keeps its place, with its descriptor or that of a local alias. -/
private theorem Due.of_occupied (hclear : Clear localNames domain layout d)
    (he : d.entries.get? k = some e) (hkept : ¬ Obsolete localNames domain layout e)
    (h : Due localNames domain layout d k s) :
    (s = some e ∧ ∀ a ∈ localNames.toList, ∀ r,
      Alias.resolve a.name (mirror layout d) domain = some r → Dn.key r.source = k →
        r.description = a.description) ∨
    ∃ a ∈ localNames.toList, ∃ r, Alias.resolve a.name (mirror layout d) domain = some r ∧
      Dn.key r.source = k ∧ r.description ≠ a.description ∧
      s = some (e.replace layout.schema.descriptorAttribute [a.description]) := by
  cases h with
  | kept he' _ hsame =>
    cases he.symm.trans he'
    exact .inl ⟨rfl, hsame⟩
  | @written _ a r he' ha hr hk hne =>
    cases he.symm.trans he'
    exact .inr ⟨a, ha, r, hr, hk, hne, rfl⟩
  | added ha hnew hk =>
    subst hk
    exact absurd (hclear _ ha hnew e he).1 hkept
  | gone hold => exact absurd (hold e he) hkept

/-- Where no other entry stands, a new one does or none. -/
private theorem Due.of_unoccupied (hready : Ready localNames layout d)
    (hold : ∀ e, d.entries.get? k = some e → Obsolete localNames domain layout e)
    (h : Due localNames domain layout d k s) :
    (∃ a ∈ localNames.toList, Alias.resolve a.name (mirror layout d) domain = none ∧
      k = Dn.key (layout.entryDn (Alias.qualified a.name domain)) ∧
      s = some (layout.newEntry (Alias.qualified a.name domain) a.description)) ∨
    (s = none ∧ ∀ a ∈ localNames.toList, Alias.resolve a.name (mirror layout d) domain = none →
      k ≠ Dn.key (layout.entryDn (Alias.qualified a.name domain))) := by
  cases h with
  | kept he hkept => exact absurd (hold _ he) hkept
  | written he ha hr hk =>
    subst hk
    exact absurd (hold _ he) (not_obsolete_of_resolve hready ha hr he)
  | @added a ha hnew hk => exact .inl ⟨a, ha, hnew, hk, rfl⟩
  | gone _ hnone => exact .inr ⟨rfl, hnone⟩

/-- One thing is due under a key, if local aliases that share an entry agree. -/
theorem Due.unique (hready : Ready localNames layout d)
    (hagree : Agreeing localNames (mirror layout d) domain)
    (hclear : Clear localNames domain layout d) (h : Due localNames domain layout d k s)
    (h' : Due localNames domain layout d k s') : s = s' := by
  by_cases hold : ∀ e, d.entries.get? k = some e → Obsolete localNames domain layout e
  · rcases h.of_unoccupied hready hold with ⟨a, ha, hnew, hk, rfl⟩ | ⟨rfl, hnone⟩
    · rcases h'.of_unoccupied hready hold with ⟨b, hb, -, hk', rfl⟩ | ⟨rfl, hnone'⟩
      · have hq : Alias.qualified a.name domain = Alias.qualified b.name domain :=
          Layout.qualified_inj (hk.symm.trans hk')
        rw [hq, hagree a ha b hb (.inl hq)]
      · exact absurd hk (hnone' a ha hnew)
    · rcases h'.of_unoccupied hready hold with ⟨b, hb, hnew, hk', -⟩ | ⟨rfl, -⟩
      · exact absurd hk' (hnone b hb hnew)
      · rfl
  · simp only [not_forall] at hold
    obtain ⟨e, he, hkept⟩ := hold
    rcases h.of_occupied hclear he hkept with ⟨rfl, hsame⟩ | ⟨a, ha, r, hr, hk, hne, rfl⟩
    · rcases h'.of_occupied hclear he hkept with ⟨rfl, -⟩ | ⟨b, hb, t, ht, hk', hne', -⟩
      · rfl
      · exact absurd (hsame b hb t ht hk') hne'
    · rcases h'.of_occupied hclear he hkept with ⟨-, hsame'⟩ | ⟨b, hb, t, ht, hk', -, rfl⟩
      · exact absurd (hsame' a ha r hr hk) hne
      · obtain ⟨-, -, hsource, -⟩ := service_of_resolve hready.filed hr (hk.symm ▸ he)
        obtain ⟨-, -, hsource', -⟩ := service_of_resolve hready.filed ht (hk'.symm ▸ he)
        rw [hagree a ha b hb (.inr ⟨r, t, hr, ht, hsource.trans hsource'.symm⟩)]

/-- An alias that resolves to nothing after a round did not before. -/
theorem unresolved_of_after (hready : Ready localNames layout d) (ha : a ∈ localNames.toList)
    (h : Alias.resolve a.name (mirror layout (passOf localNames domain layout d).directory) domain =
      none) : Alias.resolve a.name (mirror layout d) domain = none := by
  refine Option.eq_none_iff_forall_not_mem.mpr fun r hr => ?_
  obtain ⟨-, -, -, -, r', -, -, -, hr', -⟩ := resolve_after hready ha hr
  rw [h] at hr'
  cases hr'

/-- An alias that resolved to nothing before a round resolves after it to the new entry of an alias
with its qualified name, or still to nothing. -/
theorem new_of_resolve_after {r : ServiceEntry} (hready : Ready localNames layout d)
    (hnew : Alias.resolve a.name (mirror layout d) domain = none)
    (hr : Alias.resolve a.name
      (mirror layout (passOf localNames domain layout d).directory) domain = some r) :
    ∃ b ∈ localNames.toList, Alias.qualified a.name domain = Alias.qualified b.name domain ∧
      (passOf localNames domain layout d).directory.get?
        (layout.entryDn (Alias.qualified b.name domain)) =
          some (layout.newEntry (Alias.qualified b.name domain) b.description) := by
  obtain ⟨f, hf, hkey, -⟩ := exists_of_get?_mirror hr
  rcases service_after hready.usable hready.canonical hready.filed hf with
    ⟨e, he, -, hkeeps⟩ | ⟨b, hb, -, rfl⟩
  · rw [keysOf_of_agreesOutside hready.usable.separate hkeeps.agrees] at hkey
    exact absurd hkey ((hready.told domain).not_mem_keysOf_of_new hnew he)
  · rw [keysOf_new hready.usable.separate] at hkey
    exact ⟨b, hb, List.mem_singleton.mp hkey,
      ((Layout.mem_services (filed_passOf hready.filed)).mp hf).1⟩

/-- What is kept after a round was kept or written in it, or is the new entry of an alias. -/
private theorem Due.before_kept (hready : Ready localNames layout d)
    (hf : (passOf localNames domain layout d).directory.entries.get? k = some f)
    (hkept : ¬ Obsolete localNames domain layout f)
    (hsame : ∀ a ∈ localNames.toList, ∀ r,
      Alias.resolve a.name (mirror layout (passOf localNames domain layout d).directory) domain =
        some r → Dn.key r.source = k → r.description = a.description) :
    Due localNames domain layout d k (some f) := by
  cases turned hready.canonical hready.filed domain layout k with
  | @kept e f' before after keeps =>
    cases hf.symm.trans after
    rcases keeps.last with ⟨-, rfl⟩ | ⟨dn, v, hmem, rfl⟩
    · refine .kept before hkept fun a ha r hr hk => ?_
      obtain ⟨-, -, -, -, r', -, -, -, hr', hsource, -⟩ := resolve_after hready ha hr
      have hk' : Dn.key r'.source = k := hsource ▸ hk
      obtain ⟨-, -, -, hdescription⟩ := service_of_resolve hready.filed hr (hk.symm ▸ before)
      obtain ⟨-, -, -, hdescription'⟩ :=
        service_of_resolve (filed_passOf hready.filed) hr' (hk'.symm ▸ hf)
      rw [hdescription, ← hdescription']
      exact hsame a ha r' hr' hk'
    · obtain ⟨a, ha, r, hr, hk, hne, hv⟩ := modified_of_mem_changesOf hready.canonical hmem
      rw [hv]
      exact .written before ha hr hk hne
  | added ha hnew hk after =>
    cases hf.symm.trans after
    exact .added ha hnew hk
  | gone after =>
    rw [hf] at after
    cases after

/-- What is to be written after a round was to be written before it. -/
private theorem Due.before_written {r : ServiceEntry} (hready : Ready localNames layout d)
    (hagree : Agreeing localNames (mirror layout d) domain)
    (hf : (passOf localNames domain layout d).directory.entries.get? (Dn.key r.source) = some f)
    (ha : a ∈ localNames.toList)
    (hr : Alias.resolve a.name
      (mirror layout (passOf localNames domain layout d).directory) domain = some r)
    (hne : r.description ≠ a.description) :
    Due localNames domain layout d (Dn.key r.source)
      (some (f.replace layout.schema.descriptorAttribute [a.description])) := by
  obtain ⟨hservice, hkey, hsource, hdescription⟩ :=
    service_of_resolve (filed_passOf hready.filed) hr hf
  rcases service_after hready.usable hready.canonical hready.filed hservice with
    ⟨e, he, hef, hkeeps⟩ | ⟨b, hb, -, rfl⟩
  · rw [keysOf_of_agreesOutside hready.usable.separate hkeeps.agrees] at hkey
    obtain ⟨t, ht, htsource, htdescription⟩ := hready.get?_mirror he hkey
    have hget : d.entries.get? (Dn.key r.source) = some e := by
      rw [hsource, ← hef]
      exact ((Layout.mem_services hready.filed).mp he).1
    have hk : Dn.key t.source = Dn.key r.source := by rw [htsource, hef, hsource]
    rw [hkeeps.agrees.replace_eq (by simp)]
    refine .written hget ha ht hk ?_
    rcases hkeeps.last with ⟨-, rfl⟩ | ⟨dn, v, hmem, rfl⟩
    · rw [htdescription, ← hdescription]
      exact hne
    · -- The entry was written for an alias that shares it, and that one agrees.
      obtain ⟨b, hb, u, hu, hku, -, hv⟩ := modified_of_mem_changesOf hready.canonical hmem
      obtain ⟨-, -, husource, -⟩ := service_of_resolve hready.filed hu (by
        rw [hku]
        rw [hsource] at hget
        exact hget)
      have hshared := hagree a ha b hb (.inr ⟨t, u, ht, hu, htsource.trans husource.symm⟩)
      rw [descriptionOf_replace, List.singleton_inj.mp hv, ← hshared] at hdescription
      exact absurd hdescription hne
  · rw [keysOf_new hready.usable.separate] at hkey
    rw [Layout.descriptionOf_newEntry hready.usable.separate,
      ← hagree a ha b hb (.inl (List.mem_singleton.mp hkey))] at hdescription
    exact absurd hdescription hne

/-- Whatever a round was refused, what is due after it was due before it. -/
theorem Due.before (hready : Ready localNames layout d)
    (hagree : Agreeing localNames (mirror layout d) domain)
    (h : Due localNames domain layout (passOf localNames domain layout d).directory k s) :
    Due localNames domain layout d k s := by
  cases h with
  | kept hf hkept hsame => exact .before_kept hready hf hkept hsame
  | written hf ha hr hk hne =>
    subst hk
    exact .before_written hready hagree hf ha hr hne
  | added ha hnew hk => exact .added ha (unresolved_of_after hready ha hnew) hk
  | gone hold hnone =>
    refine .gone (fun e he => ?_) fun a ha hnew hk => ?_
    · cases turned hready.canonical hready.filed domain layout k with
      | kept before after keeps =>
        cases he.symm.trans before
        exact (obsolete_congr hready.usable keeps.agrees).mp (hold _ after)
      | added ha _ _ after => exact absurd (hold _ after) (not_obsolete_new hready.usable ha)
      | gone after => exact obsolete_of_gone hready he after
    · cases hr : Alias.resolve a.name
          (mirror layout (passOf localNames domain layout d).directory) domain with
      | none => exact hnone a ha hr hk
      | some r =>
        obtain ⟨b, hb, hq, hget⟩ := new_of_resolve_after hready hnew hr
        rw [hq] at hk
        exact not_obsolete_new hready.usable hb (hold _ (hk ▸ hget))

end NetNames.Sync
