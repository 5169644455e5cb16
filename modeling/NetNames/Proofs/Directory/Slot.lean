import NetNames.Proofs.Directory.Attributes

/-! A directory seen through one key: the entry under it, if any, and what the changes that were not
refused make of it one after another. An entry is added only where none is, and replaced or deleted
only where one is. -/
namespace NetNames

/-- From the entry under a key to the entry under it after some changes of it. -/
inductive Evolves : Option DirectoryEntry → List Change → Option DirectoryEntry → Prop
  | nil {s : Option DirectoryEntry} : Evolves s [] s
  | add {dn : String} {attributes : Attributes} {cs : List Change} {s : Option DirectoryEntry}
      (h : Evolves (some ⟨dn, Keyed.ofList attributes⟩) cs s) :
      Evolves none (.add dn attributes :: cs) s
  | replace {e : DirectoryEntry} {dn name : String} {values : List String} {cs : List Change}
      {s : Option DirectoryEntry} (h : Evolves (some (e.replace name values)) cs s) :
      Evolves (some e) (.replace dn name values :: cs) s
  | delete {e : DirectoryEntry} {dn : String} {cs : List Change} {s : Option DirectoryEntry}
      (h : Evolves none cs s) : Evolves (some e) (.delete dn :: cs) s

/-- An entry after changes that only replace the values of one attribute; the last values stay. -/
structure Keeps (name : String) (e : DirectoryEntry) (cs : List Change) (f : DirectoryEntry) :
    Prop where
  agrees : e.AgreesOutside name f
  modified : ∀ c ∈ cs, c.operation = .modify
  last : cs = [] ∧ f = e ∨ ∃ dn v, .replace dn name [v] ∈ cs ∧ f = e.replace name [v]

/-- An entry that is kept was neither added nor deleted. -/
theorem Keeps.ne {name : String} {e f : DirectoryEntry} {cs : List Change} (h : Keeps name e cs f)
    {operation : Operation} (hne : operation ≠ .modify) : ∀ c ∈ cs, c.operation ≠ operation :=
  fun c hc heq => hne (heq ▸ h.modified c hc)

namespace Evolves
variable {e : DirectoryEntry} {s : Option DirectoryEntry} {cs : List Change}

theorem of_kept {name : String} (h : Evolves (some e) cs s)
    (hdelete : ∀ c ∈ cs, c.operation ≠ .delete)
    (hreplace : ∀ c ∈ cs, c.operation = .modify → ∃ dn v, c = .replace dn name [v]) :
    ∃ f, s = some f ∧ Keeps name e cs f := by
  generalize he : some e = start at h
  induction h generalizing e with
  | nil => exact ⟨e, he.symm, .refl name e, by simp, .inl ⟨rfl, rfl⟩⟩
  | add => cases he
  | @replace e' dn n values cs s _ ih =>
    cases he
    obtain ⟨dn', v, hv⟩ := hreplace _ List.mem_cons_self rfl
    cases hv
    obtain ⟨f, hf, hkeeps⟩ := ih (fun c hc => hdelete c (List.mem_cons_of_mem _ hc))
      (fun c hc => hreplace c (List.mem_cons_of_mem _ hc)) rfl
    have hagrees := e'.agreesOutside_replace name (List.cons_ne_nil v [])
    refine ⟨f, hf, hagrees.trans hkeeps.agrees,
      List.forall_mem_cons.mpr ⟨rfl, hkeeps.modified⟩, .inr ?_⟩
    rcases hkeeps.last with ⟨-, rfl⟩ | ⟨dn', w, hw, rfl⟩
    · exact ⟨dn, v, List.mem_cons_self, rfl⟩
    · exact ⟨dn', w, List.mem_cons_of_mem _ hw, hagrees.replace_eq (by simp)⟩
  | delete => exact absurd rfl (hdelete _ List.mem_cons_self)

/-- An entry that was there is deleted before another one is added. -/
theorem deleted_of_added (h : Evolves (some e) cs s) (hadd : ∃ c ∈ cs, c.operation = .add) :
    ∃ c ∈ cs, c.operation = .delete := by
  generalize he : some e = start at h
  induction h generalizing e with
  | nil => simp at hadd
  | add => cases he
  | replace _ ih =>
    obtain ⟨c, hc, hoperation⟩ := hadd
    rcases List.mem_cons.mp hc with rfl | hc
    · cases hoperation
    · obtain ⟨c', hc', hdelete⟩ := ih ⟨c, hc, hoperation⟩ rfl
      exact ⟨c', List.mem_cons_of_mem _ hc', hdelete⟩
  | delete => exact ⟨_, List.mem_cons_self, rfl⟩

theorem of_nil {start : Option DirectoryEntry} (h : Evolves start [] s) : s = start := by
  cases h
  rfl

/-- An entry stays where nothing is deleted. -/
theorem of_not_deleted (h : Evolves (some e) cs s) (hdelete : ∀ c ∈ cs, c.operation ≠ .delete) :
    s ≠ none := by
  generalize he : some e = start at h
  induction h generalizing e with
  | nil => simp [← he]
  | add => cases he
  | replace _ ih => exact ih (fun c hc => hdelete c (List.mem_cons_of_mem _ hc)) rfl
  | delete => exact absurd rfl (hdelete _ List.mem_cons_self)

/-- Where there is no entry, or it is deleted, none is left unless one is added. -/
theorem of_not_added {start : Option DirectoryEntry} (h : Evolves start cs s)
    (hadd : ∀ c ∈ cs, c.operation ≠ .add)
    (hstart : start = none ∨ ∃ c ∈ cs, c.operation = .delete) : s = none := by
  induction h with
  | nil => simpa using hstart
  | add => exact absurd rfl (hadd _ List.mem_cons_self)
  | replace _ ih =>
    refine ih (fun c hc => hadd c (List.mem_cons_of_mem _ hc)) (.inr ?_)
    obtain ⟨c, hc, hoperation⟩ := hstart.resolve_left (by simp)
    rcases List.mem_cons.mp hc with rfl | hc
    · cases hoperation
    · exact ⟨c, hc, hoperation⟩
  | delete _ ih => exact ih (fun c hc => hadd c (List.mem_cons_of_mem _ hc)) (.inl rfl)

/-- An entry that is there withstands additions. -/
theorem of_present (h : Evolves (some e) cs s) (hadd : ∀ c ∈ cs, c.operation = .add) :
    s = some e := by
  cases h with
  | nil => rfl
  | replace => cases hadd _ List.mem_cons_self
  | delete => cases hadd _ List.mem_cons_self

/-- Where there is no entry and only additions are asked for, one of them at most goes through. -/
theorem of_absent (h : Evolves none cs s) (hadd : ∀ c ∈ cs, c.operation = .add) :
    cs = [] ∧ s = none ∨
      ∃ dn attributes, cs = [.add dn attributes] ∧ s = some ⟨dn, Keyed.ofList attributes⟩ := by
  cases h with
  | nil => exact .inl ⟨rfl, rfl⟩
  | @add dn attributes cs _ h =>
    cases h with
    | nil => exact .inr ⟨dn, attributes, rfl, rfl⟩
    | replace => cases hadd _ (List.mem_cons_of_mem _ List.mem_cons_self)
    | delete => cases hadd _ (List.mem_cons_of_mem _ List.mem_cons_self)

/-- An entry that is deleted, once and without being replaced, is gone or is added anew. -/
theorem of_deleted (h : Evolves (some e) cs s) (hreplace : ∀ c ∈ cs, c.operation ≠ .modify)
    (honce : cs.Pairwise fun a b => a.operation = .delete → b.operation ≠ .delete)
    (hdelete : ∃ c ∈ cs, c.operation = .delete) :
    ∃ dn, cs = [.delete dn] ∧ s = none ∨ ∃ dn' attributes,
      cs = [.delete dn, .add dn' attributes] ∧ s = some ⟨dn', Keyed.ofList attributes⟩ := by
  cases h with
  | nil => simp at hdelete
  | replace => exact absurd rfl (hreplace _ List.mem_cons_self)
  | @delete _ dn cs _ h =>
    obtain ⟨hfirst, -⟩ := List.pairwise_cons.mp honce
    have hadd : ∀ c ∈ cs, c.operation = .add := by
      intro c hc
      have hd := hfirst c hc rfl
      have hr := hreplace c (List.mem_cons_of_mem _ hc)
      cases c with
      | add => rfl
      | replace => exact absurd rfl hr
      | delete => exact absurd rfl hd
    refine ⟨dn, ?_⟩
    rcases of_absent h hadd with ⟨rfl, hs⟩ | ⟨dn', attributes, rfl, hs⟩
    · exact .inl ⟨rfl, hs⟩
    · exact .inr ⟨dn', attributes, rfl, hs⟩

/-- An entry that is added stays, where nothing is both deleted and replaced and nothing is deleted
twice. -/
theorem of_added {start : Option DirectoryEntry} {dn : String} {attributes : Attributes}
    (h : Evolves start cs s) (habsent : start = none → ∀ c ∈ cs, c.operation = .add)
    (hdeleted : (∃ c ∈ cs, c.operation = .delete) → ∀ c ∈ cs, c.operation ≠ .modify)
    (honce : cs.Pairwise fun a b => a.operation = .delete → b.operation ≠ .delete)
    (hadd : .add dn attributes ∈ cs) : s = some ⟨dn, Keyed.ofList attributes⟩ := by
  cases start with
  | none =>
    rcases h.of_absent (habsent rfl) with ⟨rfl, -⟩ | ⟨dn', attributes', rfl, hs⟩
    · cases hadd
    · cases List.mem_singleton.mp hadd
      exact hs
  | some e =>
    have hdelete := h.deleted_of_added ⟨_, hadd, rfl⟩
    obtain ⟨dn', ⟨rfl, -⟩ | ⟨dn'', attributes', rfl, hs⟩⟩ :=
      h.of_deleted (hdeleted hdelete) honce hdelete
    · cases List.mem_singleton.mp hadd
    · rcases List.mem_cons.mp hadd with heq | hadd
      · cases heq
      · cases List.mem_singleton.mp hadd
        exact hs

/-- What becomes of a key that is deleted at most once and not also replaced: an entry is kept, or
one is added, or nothing is left. -/
theorem turned {name : String} {start : Option DirectoryEntry} (h : Evolves start cs s)
    (habsent : start = none → ∀ c ∈ cs, c.operation = .add)
    (hreplace : ∀ c ∈ cs, c.operation = .modify → ∃ dn v, c = .replace dn name [v])
    (hdeleted : (∃ c ∈ cs, c.operation = .delete) → ∀ c ∈ cs, c.operation ≠ .modify)
    (honce : cs.Pairwise fun a b => a.operation = .delete → b.operation ≠ .delete) :
    (∃ e f, start = some e ∧ s = some f ∧ Keeps name e cs f) ∨
      (∃ dn attributes, .add dn attributes ∈ cs ∧ s = some ⟨dn, Keyed.ofList attributes⟩) ∨
      (s = none ∧ ∀ c ∈ cs, c.operation ≠ .add) := by
  cases start with
  | none =>
    rcases h.of_absent (habsent rfl) with ⟨rfl, hs⟩ | ⟨dn, attributes, rfl, hs⟩
    · exact .inr (.inr ⟨hs, by simp⟩)
    · exact .inr (.inl ⟨dn, attributes, List.mem_singleton_self _, hs⟩)
  | some e =>
    by_cases hdelete : ∃ c ∈ cs, c.operation = .delete
    · obtain ⟨dn, ⟨rfl, hs⟩ | ⟨dn', attributes, rfl, hs⟩⟩ :=
        h.of_deleted (hdeleted hdelete) honce hdelete
      · exact .inr (.inr ⟨hs, by simp [Change.operation]⟩)
      · exact .inr (.inl ⟨dn', attributes, by simp, hs⟩)
    · obtain ⟨f, hf, hkeeps⟩ := h.of_kept (fun c hc hcd => hdelete ⟨c, hc, hcd⟩) hreplace
      exact .inl ⟨e, f, rfl, hf, hkeeps⟩

end Evolves

namespace DirectoryStore
variable {d : DirectoryStore} {c : Change} {k : String}

/-- Every entry stands under the key of its own name. -/
def Filed (d : DirectoryStore) : Prop :=
  ∀ k e, d.entries.get? k = some e → Dn.key e.dn = k

theorem refusals_perform (d : DirectoryStore) (c : Change) :
    (d.perform c).2.refusals = d.refusals := by
  simp only [perform]
  split
  · rfl
  · split <;> rfl

/-- What a change answers, and the entries after it. -/
theorem perform_eq (d : DirectoryStore) (c : Change) :
    ((d.perform c).1, (d.perform c).2.entries) =
      if d.isRefused c.operation c.dn then
        (.error (.refused c.operation c.dn .injected), d.entries)
      else match d.changed c with
        | .error e => (.error e, d.entries)
        | .ok entries => (.ok (), entries) := by
  have hchanged : changed { d with attempts := d.attempts ++ [(c.operation, c.dn)] } c =
      d.changed c := rfl
  have hrefused : isRefused { d with attempts := d.attempts ++ [(c.operation, c.dn)] } c.operation
      c.dn = d.isRefused c.operation c.dn := rfl
  simp only [perform, hchanged, hrefused]
  split
  · rfl
  · cases d.changed c <;> rfl

/-- The entries after a change that is possible. -/
theorem changed_ok {entries : Keyed DirectoryEntry} (h : d.changed c = .ok entries) :
    (∃ dn attributes, c = .add dn attributes ∧ d.entries.get? (Dn.key c.dn) = none ∧
      entries = d.entries.insert (Dn.key c.dn) ⟨dn, Keyed.ofList attributes⟩) ∨
    (∃ dn name values e, c = .replace dn name values ∧
      d.entries.get? (Dn.key c.dn) = some e ∧
      entries = d.entries.insert (Dn.key c.dn) (e.replace name values)) ∨
    ∃ dn e, c = .delete dn ∧ d.entries.get? (Dn.key c.dn) = some e ∧
      entries = d.entries.erase (Dn.key c.dn) := by
  cases c with
  | add dn attributes =>
    rw [changed] at h
    split at h
    · cases h
    · rename_i hn
      cases h
      exact .inl ⟨dn, attributes, rfl, Option.not_isSome_iff_eq_none.mp hn, rfl⟩
  | replace dn name values =>
    rw [changed] at h
    split at h
    · cases h
    · rename_i e he
      cases h
      exact .inr (.inl ⟨dn, name, values, e, rfl, he, rfl⟩)
  | delete dn =>
    rw [changed] at h
    split at h
    · rename_i hs
      obtain ⟨e, he⟩ := Option.isSome_iff_exists.mp hs
      cases h
      exact .inr (.inr ⟨dn, e, rfl, he, rfl⟩)
    · cases h

theorem perform_ok (h : (d.perform c).1 = .ok ()) :
    d.changed c = .ok (d.perform c).2.entries := by
  have heq := d.perform_eq c
  rw [h] at heq
  split at heq
  · cases heq
  · cases hc : d.changed c with
    | error e =>
      rw [hc] at heq
      cases heq
    | ok entries =>
      rw [hc] at heq
      exact congrArg Except.ok (congrArg Prod.snd heq).symm

/-- A change that nothing is injected for fails only if it is an addition where an entry stands or
another change where none does. -/
theorem contains_of_perform_error {e : DirectoryError} (hr : d.isRefused c.operation c.dn = false)
    (h : (d.perform c).1 = .error e) : d.contains c.dn = true ↔ c.operation = .add := by
  have heq := d.perform_eq c
  rw [h, hr, if_neg Bool.false_ne_true] at heq
  have hchanged : d.changed c = .error e := by
    cases hc : d.changed c with
    | error e' =>
      rw [hc] at heq
      exact congrArg Except.error (Except.error.inj (congrArg Prod.fst heq)).symm
    | ok entries =>
      rw [hc] at heq
      cases heq
  cases c with
  | add dn attributes =>
    rw [changed] at hchanged
    split at hchanged
    · rename_i hcontains
      exact iff_of_true hcontains rfl
    · cases hchanged
  | replace dn name values =>
    rw [changed] at hchanged
    split at hchanged
    · rename_i hnone
      refine iff_of_false (fun hcontains => ?_) (by simp [Change.operation])
      rw [contains, Keyed.contains, Change.dn, ← get?, hnone] at hcontains
      cases hcontains
    · cases hchanged
  | delete dn =>
    rw [changed] at hchanged
    split at hchanged
    · cases hchanged
    · rename_i hcontains
      exact iff_of_false hcontains (by simp [Change.operation])

/-- A change that goes through concerns its own key only. -/
theorem get?_perform_of_ne (hk : k ≠ Dn.key c.dn) :
    (d.perform c).2.entries.get? k = d.entries.get? k := by
  cases h : (d.perform c).1 with
  | error e => rw [entries_of_perform_error h]
  | ok =>
    rcases changed_ok (perform_ok h) with ⟨dn, attributes, rfl, -, he⟩ |
      ⟨dn, name, values, e, rfl, -, he⟩ | ⟨dn, e, rfl, -, he⟩
    · rw [he, Keyed.get?_insert, if_neg hk]
    · rw [he, Keyed.get?_insert, if_neg hk]
    · rw [he, Keyed.get?_erase, if_neg hk]

theorem evolves_perform {cs : List Change} {s : Option DirectoryEntry}
    (hok : (d.perform c).1 = .ok ())
    (h : Evolves ((d.perform c).2.entries.get? (Dn.key c.dn)) cs s) :
    Evolves (d.entries.get? (Dn.key c.dn)) (c :: cs) s := by
  rcases changed_ok (perform_ok hok) with ⟨dn, attributes, rfl, hd, he⟩ |
    ⟨dn, name, values, e, rfl, hd, he⟩ | ⟨dn, e, rfl, hd, he⟩
  · rw [he, Keyed.get?_insert_self] at h
    rw [hd]
    exact .add h
  · rw [he, Keyed.get?_insert_self] at h
    rw [hd]
    exact .replace h
  · rw [he, Keyed.get?_erase, if_pos rfl] at h
    rw [hd]
    exact .delete h

theorem Filed.perform (hd : d.Filed) (c : Change) : (d.perform c).2.Filed := by
  intro k f hf
  by_cases hk : k = Dn.key c.dn
  · cases h : (d.perform c).1 with
    | error e =>
      rw [entries_of_perform_error h] at hf
      exact hd k f hf
    | ok =>
      subst hk
      rcases changed_ok (perform_ok h) with ⟨dn, attributes, rfl, -, he⟩ |
        ⟨dn, name, values, e, rfl, hs, he⟩ | ⟨dn, e, rfl, -, he⟩
      · rw [he, Keyed.get?_insert_self] at hf
        cases hf
        rfl
      · rw [he, Keyed.get?_insert_self] at hf
        cases hf
        exact hd _ e hs
      · rw [he, Keyed.get?_erase, if_pos rfl] at hf
        cases hf
  · rw [get?_perform_of_ne hk] at hf
    exact hd k f hf

theorem filed_empty : (∅ : DirectoryStore).Filed := by
  intro k e h
  cases h

theorem Filed.insert (hd : d.Filed) (e : DirectoryEntry) : (d.insert e).Filed := by
  intro k f hf
  rw [DirectoryStore.insert, Keyed.get?_insert] at hf
  split at hf
  · rename_i hk
    cases hf
    exact hk.symm
  · exact hd k f hf

theorem Filed.refuse (hd : d.Filed) (operation : Operation) (dn : String) :
    (d.refuse operation dn).Filed := hd

theorem filed_ofList (es : List DirectoryEntry) : (ofList es).Filed := by
  have key : ∀ d : DirectoryStore, d.Filed → (es.foldl DirectoryStore.insert d).Filed := by
    induction es with
    | nil => exact fun d hd => hd
    | cons e es ih => exact fun d hd => ih _ (hd.insert e)
  exact key ∅ filed_empty

end DirectoryStore
end NetNames
