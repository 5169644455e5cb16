import NetNames.Proofs.Directory.Published

/-! Whose entry a name leads to. The names of the entries and those that they point to go into one
registry in the order of the answer, so an entry keeps its own name as long as no later one points
to it, and the order of the answer matters as soon as one that points to it tells something else. -/
namespace NetNames.Published
variable {schema : Schema} {es before after : List DirectoryEntry} {e f : DirectoryEntry}
  {k : String}

/-- The name that an entry is published under for its own sake. -/
def ownKey? (schema : Schema) (e : DirectoryEntry) : Option String :=
  (e.firstValue? schema.nameAttribute).map upperCase

/-- The name of the object that an entry points to. -/
def pointedKey? (schema : Schema) (e : DirectoryEntry) : Option String :=
  match pointerOf schema e with
  | .named other => some (upperCase other)
  | _ => none

/-- An entry without a name is published nowhere, whatever it points to. -/
def PointsTo (schema : Schema) (e : DirectoryEntry) (k : String) : Prop :=
  (ownKey? schema e).isSome = true ∧ pointedKey? schema e = some k

instance (schema : Schema) (e : DirectoryEntry) (k : String) : Decidable (PointsTo schema e k) := by
  unfold PointsTo
  infer_instance

theorem mem_keysOf_iff :
    k ∈ keysOf schema e ↔ ownKey? schema e = some k ∨ PointsTo schema e k := by
  rw [keysOf, PointsTo, ownKey?, pointedKey?]
  cases e.firstValue? schema.nameAttribute with
  | none => simp
  | some name =>
    cases pointerOf schema e with
    | none => simp [eq_comm]
    | named other => simp [eq_comm, or_comm]
    | unreadable target => simp [eq_comm]

/-- A name that no later entry takes belongs to the entry. -/
theorem get?_ofEntries_split (hk : k ∈ keysOf schema e)
    (hafter : ∀ f ∈ after, k ∉ keysOf schema f) :
    (ofEntries schema (before ++ e :: after)).get? k = some (serviceAt schema k e) := by
  have hlast : (e :: after).filter (k ∈ keysOf schema ·) = [e] := by
    rw [List.filter_cons, if_pos (decide_eq_true hk), List.cons_eq_cons]
    exact ⟨rfl, List.filter_eq_nil_iff.mpr fun f hf h => hafter f hf (of_decide_eq_true h)⟩
  rw [get?_ofEntries_eq, List.filter_append, hlast, List.getLast?_concat]
  rfl

/-- Whoever takes a name in the rest of an answer has it. -/
theorem get?_ofEntries_append (schema : Schema) (before after : List DirectoryEntry) (k : String) :
    (ofEntries schema (before ++ after)).get? k =
      ((ofEntries schema after).get? k).or ((ofEntries schema before).get? k) := by
  simp only [get?_ofEntries_eq, List.filter_append, List.getLast?_append, Option.map_or]

/-- No name of the registry leads to the entry. -/
def Unpublished (schema : Schema) (es : List DirectoryEntry) (e : DirectoryEntry) : Prop :=
  ∀ s ∈ (ofEntries schema es).toList, Dn.key s.source ≠ Dn.key e.dn

instance (schema : Schema) (es : List DirectoryEntry) (e : DirectoryEntry) :
    Decidable (Unpublished schema es e) := by
  unfold Unpublished
  infer_instance

/-- An entry is not published if and only if each of its names is taken by a later entry. -/
theorem unpublished_iff (hkeys : es.Pairwise fun a b => Dn.key a.dn ≠ Dn.key b.dn)
    (hes : es = before ++ e :: after) :
    Unpublished schema es e ↔ ∀ k ∈ keysOf schema e, ∃ f ∈ after, k ∈ keysOf schema f := by
  subst hes
  constructor
  · intro hun k hk
    refine Classical.byContradiction fun hfree => ?_
    have hget : (ofEntries schema (before ++ e :: after)).get? k = some (serviceAt schema k e) :=
      get?_ofEntries_split hk fun f hf hkf => hfree ⟨f, hf, hkf⟩
    exact hun _ (Registry.mem_toList_iff.mpr ⟨k, hget⟩) rfl
  · intro htaken s hs hkey
    obtain ⟨k, hget⟩ := Registry.mem_toList_iff.mp hs
    obtain ⟨-, htail, hcross⟩ := List.pairwise_append.mp hkeys
    rw [List.append_cons, get?_ofEntries_append] at hget
    rcases Option.or_eq_some_iff.mp hget with hlater | ⟨hfree, hearlier⟩
    · obtain ⟨f, hf, -, hdn, -⟩ := exists_of_get?_ofEntries hlater
      exact (List.pairwise_cons.mp htail).1 f hf (hdn ▸ hkey).symm
    · obtain ⟨g, hg, hkg, hdn, -⟩ := exists_of_get?_ofEntries hearlier
      rcases List.mem_append.mp hg with hbefore | hself
      · exact hcross g hbefore e List.mem_cons_self (hdn ▸ hkey)
      · cases List.mem_singleton.mp hself
        obtain ⟨f, hf, hkf⟩ := htaken k hkg
        obtain ⟨f', -, -, htook⟩ := exists_get?_ofEntries hf hkf
        cases hfree.symm.trans htook

/-- Any entry of an answer has its names in some order of the answer. -/
theorem exists_perm_get?_ofEntries (he : e ∈ es) (hk : k ∈ keysOf schema e) :
    ∃ es' : List DirectoryEntry, es'.Perm es ∧
      (ofEntries schema es').get? k = some (serviceAt schema k e) := by
  obtain ⟨before, after, rfl⟩ := List.append_of_mem he
  refine ⟨before ++ after ++ [e], ?_, get?_ofEntries_split hk (by simp)⟩
  rw [List.append_assoc]
  exact (List.perm_append_singleton e after).append_left before

/-- Where own names are told apart, no two places of an answer have the same one. -/
private theorem pairwise_ownKey? (hd : (es.filterMap (ownKey? schema)).Nodup) (k : String) :
    es.Pairwise fun a b => ownKey? schema a = some k → ownKey? schema b ≠ some k :=
  (List.pairwise_filterMap.mp hd).imp fun {_ _} h ha hb => h k ha k hb rfl

private theorem eq_of_ownKey? (hd : (es.filterMap (ownKey? schema)).Nodup) (he : e ∈ es)
    (hf : f ∈ es) (hke : ownKey? schema e = some k) (hkf : ownKey? schema f = some k) : f = e := by
  obtain ⟨before, after, rfl⟩ := List.append_of_mem he
  obtain ⟨-, htail, hcross⟩ := List.pairwise_append.mp (pairwise_ownKey? hd k)
  rcases List.mem_append.mp hf with hbefore | hf
  · exact absurd hke (hcross f hbefore e List.mem_cons_self hkf)
  · rcases List.mem_cons.mp hf with rfl | hafter
    · rfl
    · exact absurd hkf ((List.pairwise_cons.mp htail).1 f hafter hke)

private theorem serviceAt_inj :
    serviceAt schema k f = serviceAt schema k e ↔
      f.dn = e.dn ∧ descriptionOf schema f = descriptionOf schema e := by
  constructor
  · intro h
    exact ⟨congrArg (·.source) h, congrArg (·.description) h⟩
  · rintro ⟨hdn, hdescription⟩
    rw [serviceAt, hdn, hdescription, ← serviceAt]

/-- No entry after the one with an own name takes the name, unless it points to it. -/
private theorem free_of_not_pointsTo
    (hd : ((before ++ e :: after).filterMap (ownKey? schema)).Nodup)
    (hown : ownKey? schema e = some k) (hf : f ∈ after) (hpoints : ¬ PointsTo schema f k) :
    k ∉ keysOf schema f := by
  intro hkf
  rcases mem_keysOf_iff.mp hkf with hownf | hpointsf
  · obtain ⟨-, htail, -⟩ := List.pairwise_append.mp (pairwise_ownKey? hd k)
    exact (List.pairwise_cons.mp htail).1 f hf hown hownf
  · exact hpoints hpointsf

/-- The order of an answer makes no difference to an own name if and only if all that point to it
stand under the same name with the same descriptor. -/
theorem order_irrelevant_iff (hd : (es.filterMap (ownKey? schema)).Nodup) (he : e ∈ es)
    (hown : ownKey? schema e = some k) :
    (∀ es' : List DirectoryEntry, es'.Perm es →
      (ofEntries schema es').get? k = (ofEntries schema es).get? k) ↔
    ∀ f ∈ es, PointsTo schema f k →
      f.dn = e.dn ∧ descriptionOf schema f = descriptionOf schema e := by
  have hk : k ∈ keysOf schema e := mem_keysOf_iff.mpr (.inl hown)
  constructor
  · intro horder f hf hpoints
    obtain ⟨es₁, hperm₁, hget₁⟩ := exists_perm_get?_ofEntries he hk
    obtain ⟨es₂, hperm₂, hget₂⟩ :=
      exists_perm_get?_ofEntries hf (mem_keysOf_iff.mpr (.inr hpoints))
    have hsame : some (serviceAt schema k f) = some (serviceAt schema k e) := by
      rw [← hget₁, ← hget₂, horder es₁ hperm₁, horder es₂ hperm₂]
    exact serviceAt_inj.mp (Option.some.inj hsame)
  · intro hagree es' hperm
    have hsame : ∀ f ∈ es, k ∈ keysOf schema f →
        serviceAt schema k f = serviceAt schema k e := by
      intro f hf hkf
      rcases mem_keysOf_iff.mp hkf with hownf | hpoints
      · rw [eq_of_ownKey? hd he hf hown hownf]
      · exact serviceAt_inj.mpr (hagree f hf hpoints)
    have hget' : (ofEntries schema es').get? k = some (serviceAt schema k e) :=
      get?_ofEntries_of_agree (hperm.mem_iff.mpr he) hk fun f hf => hsame f (hperm.mem_iff.mp hf)
    exact hget'.trans (get?_ofEntries_of_agree he hk hsame).symm

variable {σ : Type} [Directory σ] {layout : Layout} {d d' : σ}

/-- An answer is read as it comes. The name of an entry leads to that entry unless a later one
points to it, and then to the last that does. It leads to the same service in every order of the
answer if and only if all that point to it stand under the same name with the same descriptor. -/
theorem read_own_names (hsearch : (Directory.search layout.search d).value = (.ok es, d'))
    (hdistinct : (es.filterMap (ownKey? layout.schema)).Nodup) :
    let r := ofEntries layout.schema es
    (Published.read layout d).value = (.ok r, d') ∧
    ∀ before e after k, es = before ++ e :: after → ownKey? layout.schema e = some k →
      ((∀ f ∈ after, ¬ PointsTo layout.schema f k) →
        r.get? k = some (serviceAt layout.schema k e)) ∧
      (∀ mid f rest, after = mid ++ f :: rest → PointsTo layout.schema f k →
        (∀ g ∈ rest, ¬ PointsTo layout.schema g k) →
          r.get? k = some (serviceAt layout.schema k f)) ∧
      ((∀ es' : List DirectoryEntry, es'.Perm es →
          (ofEntries layout.schema es').get? k = r.get? k) ↔
        ∀ f ∈ es, PointsTo layout.schema f k →
          f.dn = e.dn ∧ descriptionOf layout.schema f = descriptionOf layout.schema e) := by
  intro r
  refine ⟨?_, ?_⟩
  · rw [Published.read, Logged.value_bind, hsearch]
    rfl
  rintro before e after k rfl hown
  refine ⟨?_, ?_, order_irrelevant_iff hdistinct (by simp) hown⟩
  · intro hnone
    exact get?_ofEntries_split (mem_keysOf_iff.mpr (.inl hown)) fun f hf =>
      free_of_not_pointsTo hdistinct hown hf (hnone f hf)
  · rintro mid f rest rfl hpoints hrest
    have hwhole : before ++ e :: (mid ++ f :: rest) = (before ++ e :: mid) ++ f :: rest := by simp
    have hget : (ofEntries layout.schema ((before ++ e :: mid) ++ f :: rest)).get? k =
        some (serviceAt layout.schema k f) :=
      get?_ofEntries_split (mem_keysOf_iff.mpr (.inr hpoints)) fun g hg =>
        free_of_not_pointsTo hdistinct hown (by simp [hg]) (hrest g hg)
    rw [← hwhole] at hget
    exact hget

private def portLayout : Layout := ⟨"dc=x", {}⟩
private def harbour : DirectoryEntry :=
  ⟨"cn=A,dc=x", .ofList [("objectClass", ["orclNetService"]), ("cn", ["A"]),
    ("orclNetDescString", ["a"])]⟩
private def ferry (dn : String) : DirectoryEntry :=
  ⟨dn, .ofList [("objectClass", ["orclNetService"]), ("cn", ["B"]), ("orclNetDescString", ["b"]),
    ("aliasedObjectName", ["cn=A,dc=x"])]⟩
private def port (dn : String) : DirectoryStore := .ofList [⟨"dc=x", ∅⟩, harbour, ferry dn]
private def portFound (dn : String) : List DirectoryEntry :=
  (portLayout.services (port dn)).map (·.project portLayout.search.attributes)

/-- An entry that is found before the one it points to leaves it its name. -/
theorem harbour_keeps_name :
    let r := ofEntries portLayout.schema (portFound "cn=0,dc=x")
    (Published.read portLayout (port "cn=0,dc=x")).value = (.ok r, port "cn=0,dc=x") ∧
      r.get? "A" = some (.define "A" "a" "cn=A,dc=x") ∧
      ¬ ∀ es' : List DirectoryEntry, es'.Perm (portFound "cn=0,dc=x") →
        (ofEntries portLayout.schema es').get? "A" = r.get? "A" := by
  have hsearch : (Directory.search portLayout.search (port "cn=0,dc=x")).value =
      (.ok (portFound "cn=0,dc=x"), port "cn=0,dc=x") := by
    rw [DirectoryStore.value_search,
      Layout.find_search Schema.usable_default (by decide +kernel) (by decide +kernel)]
    rfl
  obtain ⟨hread, hnames⟩ := read_own_names hsearch (by decide +kernel)
  obtain ⟨hkept, -, horder⟩ := hnames [(ferry "cn=0,dc=x").project portLayout.search.attributes]
    (harbour.project portLayout.search.attributes) [] "A" (by decide +kernel) (by decide +kernel)
  refine ⟨hread, ?_, fun hsame => ?_⟩
  · refine (hkept fun f hf => absurd hf List.not_mem_nil).trans ?_
    decide +kernel
  · have hdn := (horder.mp hsame ((ferry "cn=0,dc=x").project portLayout.search.attributes)
      (by decide +kernel) (by decide +kernel)).1
    exact absurd hdn (by decide +kernel)

/-- An entry that is found after the one it points to takes its name. -/
theorem not_forall_own_name_kept :
    ¬ ∀ (layout : Layout) (d : DirectoryStore) (es : List DirectoryEntry),
      d.find layout.search = .ok es → (es.filterMap (ownKey? layout.schema)).Nodup →
      ∃ r, (Published.read layout d).value = (.ok r, d) ∧
        ∀ e ∈ es, ∀ k, ownKey? layout.schema e = some k →
          ∃ s, r.get? k = some s ∧ s.source = e.dn ∧
            s.description = descriptionOf layout.schema e := by
  intro h
  have hfind : (port "cn=B,dc=x").find portLayout.search = .ok (portFound "cn=B,dc=x") :=
    Layout.find_search Schema.usable_default (by decide +kernel) (by decide +kernel)
  obtain ⟨r, hread, hnames⟩ := h portLayout (port "cn=B,dc=x") _ hfind (by decide +kernel)
  obtain ⟨s, hs, hsource, -⟩ := hnames (harbour.project portLayout.search.attributes)
    (by decide +kernel) "A" (by decide +kernel)
  rw [value_read, hfind] at hread
  cases Except.ok.inj (congrArg Prod.fst hread)
  have hferry : ((ofEntries portLayout.schema (portFound "cn=B,dc=x")).get? "A").map (·.source) =
      some "cn=B,dc=x" := by decide +kernel
  rw [hs, Option.map_some, hsource] at hferry
  exact absurd hferry (by decide +kernel)

end NetNames.Published
