import NetNames.Proofs.Sync.Round

/-! What the directory publishes after a round. The entries that were there keep their names and the
new ones have a name of their own, so names stay told apart. After a round that skips nothing every
local alias is found, with the descriptor of an alias that shares its entry. -/
namespace NetNames.Sync

open Published

variable {localNames : Registry} {domain : String} {layout : Layout} {d : DirectoryStore}
  {k name : String} {a b : ServiceEntry} {e f : DirectoryEntry} {c : Change}

theorem filed_passOf (hd : d.Filed) : (passOf localNames domain layout d).directory.Filed :=
  (carried_passOf localNames domain layout d).filed hd

theorem exists_of_get?_mirror {r : ServiceEntry} (h : (mirror layout d).get? k = some r) :
    ∃ e ∈ layout.services d, k ∈ keysOf layout.schema e ∧ r.source = e.dn ∧
      r.description = descriptionOf layout.schema e :=
  exists_of_get?_ofEntries h

theorem Ready.get?_mirror (h : Ready localNames layout d) (he : e ∈ layout.services d)
    (hk : k ∈ keysOf layout.schema e) : ∃ r, (mirror layout d).get? k = some r ∧
      r.source = e.dn ∧ r.description = descriptionOf layout.schema e :=
  get?_ofEntries h.distinct he hk

theorem Ready.told (hready : Ready localNames layout d) (domain : String) :
    (jobOf localNames domain layout d).Told (layout.services d) where
  canonical := hready.canonical
  published := rfl
  distinct := hready.distinct
  keys _ he _ hf hk := Layout.services_inj hready.filed he hf hk

/-- A service entry after a round was one before, or is the new entry of a local alias. -/
theorem service_after (hu : layout.schema.Usable) (hl : localNames.Canonical) (hd : d.Filed)
    (hf : f ∈ layout.services (passOf localNames domain layout d).directory) :
    (∃ e ∈ layout.services d, Dn.key e.dn = Dn.key f.dn ∧
      Keeps layout.schema.descriptorAttribute e
        (changesOf localNames domain layout d (Dn.key f.dn)) f) ∨
    ∃ a ∈ localNames.toList, Alias.resolve a.name (mirror layout d) domain = none ∧
      f = layout.newEntry (Alias.qualified a.name domain) a.description := by
  obtain ⟨hget, hservice⟩ := (Layout.mem_services (filed_passOf hd)).mp hf
  cases turned hl hd domain layout (Dn.key f.dn) with
  | @kept e f' before after keeps =>
    cases hget.symm.trans after
    have hk := hd _ e before
    refine .inl ⟨e, (Layout.mem_services hd).mpr ⟨hk.symm ▸ before, ?_⟩, hk, keeps⟩
    rw [← Layout.isService_congr hu keeps.agrees, hservice]
  | added ha hnew _ after => exact .inr ⟨_, ha, hnew, Option.some.inj (hget.symm.trans after)⟩
  | gone after =>
    rw [hget] at after
    cases after

/-- A service entry that is not deleted is one after the round, under the same names. -/
theorem service_kept (hready : Ready localNames layout d) (domain : String)
    (he : e ∈ layout.services d)
    (hk : ∀ c ∈ changesOf localNames domain layout d (Dn.key e.dn), c.operation ≠ .delete) :
    ∃ f ∈ layout.services (passOf localNames domain layout d).directory,
      keysOf layout.schema f = keysOf layout.schema e ∧
      Keeps layout.schema.descriptorAttribute e
        (changesOf localNames domain layout d (Dn.key e.dn)) f := by
  obtain ⟨hget, hservice⟩ := (Layout.mem_services hready.filed).mp he
  obtain ⟨f, hf, hkeeps⟩ := kept_of_not_deleted hget hk
  refine ⟨f, (Layout.mem_services (filed_passOf hready.filed)).mpr ⟨?_, ?_⟩,
    keysOf_of_agreesOutside hready.usable.separate hkeeps.agrees, hkeeps⟩
  · rw [hkeeps.agrees.dn, hf]
  · rw [Layout.isService_congr hready.usable hkeeps.agrees, hservice]

theorem keysOf_new (hu : layout.schema.Separate) (name domain description : String) :
    keysOf layout.schema (layout.newEntry (Alias.qualified name domain) description) =
      [Alias.qualified name domain] := by
  rw [Layout.keysOf_newEntry hu, Alias.upperCase_qualified]

theorem Ready.leaves (hready : Ready localNames layout d)
    (hf : f ∈ layout.services (passOf localNames domain layout d).directory) :
    (jobOf localNames domain layout d).Leaves (layout.services d) d f := by
  rcases service_after hready.usable hready.canonical hready.filed hf with
    ⟨e, he, hk, hkeeps⟩ | ⟨a, ha, hnew, rfl⟩
  · exact .kept he hkeeps.agrees.dn.symm
      (keysOf_of_agreesOutside hready.usable.separate hkeeps.agrees).symm
      (hk ▸ hkeeps.ne (by simp))
  · exact .added ha hnew rfl (keysOf_new hready.usable.separate _ _ _)

/-- Names that can be told apart before a round can be told apart after it. -/
theorem Ready.after (hready : Ready localNames layout d) (domain : String) :
    Ready localNames layout (passOf localNames domain layout d).directory where
  usable := hready.usable
  canonical := hready.canonical
  filed := filed_passOf hready.filed
  distinct := ((hready.told domain).after (fun _ hf => hready.leaves hf) fun _ hf _ hg =>
    Layout.services_inj (filed_passOf hready.filed) hf hg).distinct

/-- An entry that is added under a name which was not published before is all that is published
under it after the round. -/
theorem get?_mirror_of_new {q description : String} (hu : layout.schema.Usable)
    (hl : localNames.Canonical) (hd : d.Filed) (hq : upperCase q = q)
    (hnew : (mirror layout d).get? q = none)
    (hstands : (passOf localNames domain layout d).directory.get? (layout.entryDn q) =
      some (layout.newEntry q description)) :
    (mirror layout (passOf localNames domain layout d).directory).get? q =
      some (.define q description (layout.entryDn q)) := by
  have hfiled : (passOf localNames domain layout d).directory.Filed := filed_passOf hd
  have hservice : layout.newEntry q description ∈
      layout.services (passOf localNames domain layout d).directory :=
    (Layout.mem_services hfiled).mpr ⟨hstands, Layout.isService_newEntry hu _ _⟩
  have hkey : q ∈ keysOf layout.schema (layout.newEntry q description) := by
    rw [Layout.keysOf_newEntry hu.separate, hq]
    exact List.mem_singleton_self _
  have honly : ∀ f ∈ layout.services (passOf localNames domain layout d).directory,
      q ∈ keysOf layout.schema f → f = layout.newEntry q description := by
    intro f hf hk
    rcases service_after hu hl hd hf with ⟨e, he, -, hkeeps⟩ | ⟨b, -, -, rfl⟩
    · rw [keysOf_of_agreesOutside hu.separate hkeeps.agrees] at hk
      obtain ⟨_, -, -, hget⟩ := exists_get?_ofEntries he hk
      cases hnew.symm.trans hget
    · rw [keysOf_new hu.separate, List.mem_singleton] at hk
      refine Layout.services_inj hfiled hf hservice ?_
      rw [Layout.newEntry, Layout.newEntry, hk]
  rw [mirror, get?_ofEntries_of_agree hservice hkey fun f hf hk => by rw [honly f hf hk], serviceAt,
    Layout.descriptionOf_newEntry hu.separate]
  rfl

/-- What a local alias resolves to is its service, under the key of the source. -/
theorem service_of_resolve {r : ServiceEntry} (hd : d.Filed)
    (hr : Alias.resolve name (mirror layout d) domain = some r)
    (he : d.entries.get? (Dn.key r.source) = some e) :
    e ∈ layout.services d ∧ Alias.qualified name domain ∈ keysOf layout.schema e ∧
      r.source = e.dn ∧ r.description = descriptionOf layout.schema e := by
  obtain ⟨e', he', hk, hsource, hdescription⟩ := exists_of_get?_mirror hr
  have hget := ((Layout.mem_services hd).mp he').1
  rw [← hsource, he] at hget
  cases hget
  exact ⟨he', hk, hsource, hdescription⟩

/-- A local alias that resolves to an entry resolves to it after the round, whatever is refused. -/
theorem resolve_after {r : ServiceEntry} (hready : Ready localNames layout d)
    (ha : a ∈ localNames.toList) (hr : Alias.resolve a.name (mirror layout d) domain = some r) :
    ∃ e ∈ layout.services d,
      ∃ f ∈ layout.services (passOf localNames domain layout d).directory, ∃ r',
      r.source = e.dn ∧ r.description = descriptionOf layout.schema e ∧
      Keeps layout.schema.descriptorAttribute e
        (changesOf localNames domain layout d (Dn.key e.dn)) f ∧
      Alias.resolve a.name (mirror layout (passOf localNames domain layout d).directory) domain =
        some r' ∧ r'.source = r.source ∧ r'.description = descriptionOf layout.schema f := by
  obtain ⟨e, he, hk, hsource, hdescription⟩ := exists_of_get?_mirror hr
  obtain ⟨f, hf, hkeys, hkeeps⟩ := service_kept hready domain he fun c hc =>
    not_deleted_of_resolve hready.canonical ha hr (hsource ▸ hc)
  obtain ⟨r', hr', hsource', hdescription'⟩ := (hready.after domain).get?_mirror hf (hkeys ▸ hk)
  rw [hkeeps.agrees.dn, ← hsource] at hsource'
  exact ⟨e, he, f, hf, r', hsource, hdescription, hkeeps, hr', hsource', hdescription'⟩

/-- In a round that skips nothing, what an alias asks for goes through. -/
theorem went_through {s : Status}
    (hconverged : (passOf localNames domain layout d).tally.isConverged = true)
    (hs : (statesOf localNames domain layout d).get? name = some s)
    (hi : (jobOf localNames domain layout d).intent (retainedOf localNames domain layout d)
      name s = .ask c) :
    ∃ c' ∈ changesOf localNames domain layout d (Dn.key c.dn), c'.operation = c.operation :=
  Job.went_through hconverged hs hi

/-- Two local aliases share an entry if they have one qualified name or resolve to entries with one
source. -/
def Shares (published : Registry) (domain : String) (a b : ServiceEntry) : Prop :=
  Alias.qualified a.name domain = Alias.qualified b.name domain ∨
    ∃ r s, Alias.resolve a.name published domain = some r ∧
      Alias.resolve b.name published domain = some s ∧ r.source = s.source

theorem Shares.refl (published : Registry) (domain : String) (a : ServiceEntry) :
    Shares published domain a a := .inl rfl

/-- Local aliases that share an entry have one descriptor. -/
def Agreeing (localNames published : Registry) (domain : String) : Prop :=
  ∀ a ∈ localNames.toList, ∀ b ∈ localNames.toList, Shares published domain a b →
    a.description = b.description

/-- The entry that an alias resolved to before the round has the descriptor of an alias that shares
it. -/
private theorem description_kept {r : ServiceEntry} (hready : Ready localNames layout d)
    (hconverged : (passOf localNames domain layout d).tally.isConverged = true)
    (ha : a ∈ localNames.toList) (hr : Alias.resolve a.name (mirror layout d) domain = some r)
    (he : e ∈ layout.services d) (hsource : r.source = e.dn)
    (hdescription : r.description = descriptionOf layout.schema e)
    (hkeeps : Keeps layout.schema.descriptorAttribute e
      (changesOf localNames domain layout d (Dn.key e.dn)) f) :
    ∃ b ∈ localNames.toList, Shares (mirror layout d) domain a b ∧
      descriptionOf layout.schema f = b.description := by
  have hl := hready.canonical
  rcases hkeeps.last with ⟨hnil, rfl⟩ | ⟨dn, v, hmem, rfl⟩
  · refine ⟨a, ha, .refl _ _ a, ?_⟩
    rw [← hdescription]
    -- Nothing was written, so the alias was unchanged: a modification would have gone through.
    refine Decidable.byContradiction fun hne => ?_
    obtain ⟨c, hc, -⟩ := went_through hconverged (state_of_local hl ha _ _)
      (intent_resolved hl ha hr hne _)
    rw [Change.dn, hsource, hnil] at hc
    cases hc
  · obtain ⟨b, hb, s, hs, hk, -, hvalue⟩ := modified_of_mem_changesOf hl hmem
    obtain ⟨e', he', -, hsource', -⟩ := exists_of_get?_mirror hs
    have hsame : e' = e := Layout.services_inj hready.filed he' he (by rw [← hsource', hk])
    refine ⟨b, hb, .inr ⟨r, s, hr, hs, ?_⟩, ?_⟩
    · rw [hsource, hsource', hsame]
    · rw [descriptionOf_replace]
      exact (List.singleton_inj.mp hvalue)

/-- After a round that skips nothing every local alias is found, with the descriptor of an alias
that shares its entry. -/
theorem exists_reached (hready : Ready localNames layout d)
    (hconverged : (passOf localNames domain layout d).tally.isConverged = true)
    (ha : a ∈ localNames.toList) :
    ∃ r, Alias.resolve a.name
        (mirror layout (passOf localNames domain layout d).directory) domain = some r ∧
      ∃ b ∈ localNames.toList, Shares (mirror layout d) domain a b ∧
        r.description = b.description := by
  have hl := hready.canonical
  cases hr : Alias.resolve a.name (mirror layout d) domain with
  | some r =>
    obtain ⟨e, he, f, -, r', hsource, hdescription, hkeeps, hr', -, hdesc'⟩ :=
      resolve_after hready ha hr
    obtain ⟨b, hb, hshares, hdesc⟩ :=
      description_kept hready hconverged ha hr he hsource hdescription hkeeps
    exact ⟨r', hr', b, hb, hshares, hdesc'.trans hdesc⟩
  | none =>
    obtain ⟨c, hc, hadd⟩ := went_through hconverged (state_of_local hl ha _ _)
      (intent_unresolved hl ha hr _)
    cases turned hl hready.filed domain layout
        (Dn.key (layout.entryDn (Alias.qualified a.name domain))) with
    | kept _ _ keeps => exact absurd hadd (keeps.ne (by simp [Change.operation]) c hc)
    | gone _ hnone => exact absurd hadd (hnone c hc)
    | @added b hb hnew hk after =>
      have hq : Alias.qualified a.name domain = Alias.qualified b.name domain :=
        Layout.qualified_inj hk
      have hstands : (passOf localNames domain layout d).directory.get?
          (layout.entryDn (Alias.qualified b.name domain)) =
            some (layout.newEntry (Alias.qualified b.name domain) b.description) := by
        rw [DirectoryStore.get?, ← hk, after]
      have hget := get?_mirror_of_new hready.usable hl hready.filed
        (Alias.upperCase_qualified _ _) hnew hstands
      rw [← hq] at hget
      exact ⟨_, hget, b, hb, .inl hq, by rw [ServiceEntry.define]⟩

/-- The container stays, unless its name is blank and it lies below itself. -/
theorem contains_container_after (hd : d.Filed)
    (hc : d.contains layout.container = true) (hk : Dn.key layout.container ≠ "") :
    (passOf localNames domain layout d).directory.contains layout.container = true := by
  obtain ⟨e, he⟩ := Option.isSome_iff_exists.mp hc
  have hkept : ∀ c ∈ changesOf localNames domain layout d (Dn.key layout.container),
      c.operation ≠ .delete := by
    intro c hc hdelete
    obtain ⟨f, hf, hget⟩ := exists_of_mem_changesOf hd hc (by simp [hdelete])
    have hservice := ((Layout.mem_services hd).mp hf).2
    rw [Layout.isService, Bool.and_eq_true] at hservice
    exact hk (Scope.key_eq_empty_of_reaches hservice.1 (hd _ f hget))
  obtain ⟨f, hf, -⟩ := kept_of_not_deleted he hkept
  exact Option.isSome_iff_exists.mpr ⟨f, hf⟩

/-- The next round finds what this one left, as long as the container is there. -/
theorem round_after (hu : layout.schema.Usable)
    (hr : d.isRefused .search layout.container = false)
    (hc : (passOf localNames domain layout d).directory.contains layout.container = true) :
    (round localNames domain layout (passOf localNames domain layout d).directory).value =
      .ok (passOf localNames domain layout (passOf localNames domain layout d).directory) := by
  rw [← isRefused_passOf localNames domain] at hr
  exact round_eq_passOf hu hc hr

theorem value_read_eq_mirror (hu : layout.schema.Usable)
    (hr : d.isRefused .search layout.container = false)
    (hc : d.contains layout.container = true) :
    (Published.read layout d).value = (.ok (mirror layout d), d) := by
  rw [Published.value_read, Layout.find_search hu hc hr, Except.map, Layout.ofEntries_project,
    mirror]

/-- What a search has to return for the directory to be ready, and what it then publishes. -/
theorem ready_of_found {es : List DirectoryEntry} (hu : layout.schema.Usable)
    (hl : localNames.Canonical) (hd : d.Filed) (hes : d.find layout.search = .ok es)
    (hdistinct : Distinct layout.schema es) :
    Ready localNames layout d ∧ ofEntries layout.schema es = mirror layout d := by
  obtain ⟨-, -, rfl⟩ := Layout.find_search_ok hu hes
  exact ⟨⟨hu, hl, hd, Layout.distinct_services hd hdistinct⟩, Layout.ofEntries_project _ _⟩

end NetNames.Sync
