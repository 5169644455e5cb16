import NetNames.Proofs.Directory.Slot
import NetNames.Proofs.Sync.Account

/-! What the calls of a pass make of one entry of a directory in memory. The calls on its key that
went through are its history; the rest of the directory has no part in it. -/
namespace NetNames

namespace Sync
variable {d d' : DirectoryStore} {calls : List Call} {c : Change} {k : String}

/-- The changes under a key that went through, in their order. -/
def history (k : String) (calls : List Call) : List Change :=
  (calls.filter fun call => call.refusal.isNone && Dn.key call.change.dn == k).map (·.change)

theorem mem_history : c ∈ history k calls ↔ ⟨c, none⟩ ∈ calls ∧ Dn.key c.dn = k := by
  rw [history, List.mem_map]
  constructor
  · rintro ⟨⟨c', refusal⟩, hmem, rfl⟩
    obtain ⟨hmem, hk⟩ := List.mem_filter.mp hmem
    rw [Bool.and_eq_true, Option.isNone_iff_eq_none, beq_iff_eq] at hk
    obtain ⟨rfl, hk⟩ := hk
    exact ⟨hmem, hk⟩
  · rintro ⟨hmem, hk⟩
    exact ⟨_, List.mem_filter.mpr ⟨hmem, by simp [hk]⟩, rfl⟩

theorem history_refused (k : String) (c : Change) (e : DirectoryError) (calls : List Call) :
    history k (⟨c, some e⟩ :: calls) = history k calls := rfl

theorem history_done (k : String) (c : Change) (calls : List Call) :
    history k (⟨c, none⟩ :: calls) =
      if Dn.key c.dn = k then c :: history k calls else history k calls := by
  rw [history, List.filter_cons]
  by_cases h : Dn.key c.dn = k <;> simp [h, history]

/-- Every entry goes through its own history. -/
theorem Carried.evolves (h : Carried d calls d') (k : String) :
    Evolves (d.entries.get? k) (history k calls) (d'.entries.get? k) := by
  induction h with
  | nil => exact .nil
  | @done d₁ d₂ d₃ c calls hd _ ih =>
    rw [DirectoryStore.value_perform] at hd
    rw [history_done]
    split
    · rename_i hk
      subst hk
      refine DirectoryStore.evolves_perform ?_ ?_
      · rw [hd]
      · rw [hd]
        exact ih
    · rename_i hk
      have hframe := DirectoryStore.get?_perform_of_ne (d := d₁) (Ne.symm hk)
      rw [hd] at hframe
      rw [← hframe]
      exact ih
  | @refused d₁ d₂ d₃ c e calls hd _ ih =>
    rw [DirectoryStore.value_perform] at hd
    have hframe : (d₁.perform c).2.entries = d₁.entries :=
      DirectoryStore.entries_of_perform_error (e := e) (by rw [hd])
    rw [hd] at hframe
    rw [history_refused, ← hframe]
    exact ih

/-- What every change preserves, done or refused, a whole sequence preserves. -/
theorem Carried.preserves {P : DirectoryStore → Prop} (h : Carried d calls d')
    (hperform : ∀ d c, P d → P (d.perform c).2) (hd : P d) : P d' := by
  induction h with
  | nil => exact hd
  | @done d₁ d₂ d₃ c calls hp _ ih =>
    rw [DirectoryStore.value_perform] at hp
    have hnext := hperform d₁ c hd
    rw [hp] at hnext
    exact ih hnext
  | @refused d₁ d₂ d₃ c e calls hp _ ih =>
    rw [DirectoryStore.value_perform] at hp
    have hnext := hperform d₁ c hd
    rw [hp] at hnext
    exact ih hnext

theorem Carried.refusals (h : Carried d calls d') : d'.refusals = d.refusals :=
  h.preserves (P := fun x => x.refusals = d.refusals)
    (fun x c hx => (x.refusals_perform c).trans hx) rfl

theorem Carried.filed (h : Carried d calls d') (hd : d.Filed) : d'.Filed :=
  h.preserves (fun _ c hx => hx.perform c) hd

/-- Every change that is asked for is written down, refused or not. -/
theorem Carried.attempts (h : Carried d calls d') : d'.attempts =
    d.attempts ++ calls.map fun call => (call.change.operation, call.change.dn) := by
  induction h with
  | nil => simp
  | @done d₁ d₂ d₃ c calls hp _ ih =>
    have hnext := d₁.perform_attempts c
    rw [← DirectoryStore.value_perform, hp] at hnext
    dsimp only at hnext
    rw [ih, hnext, List.append_assoc, List.map_cons, List.singleton_append]
  | @refused d₁ d₂ d₃ c e calls hp _ ih =>
    have hnext := d₁.perform_attempts c
    rw [← DirectoryStore.value_perform, hp] at hnext
    dsimp only at hnext
    rw [ih, hnext, List.append_assoc, List.map_cons, List.singleton_append]

/-- A history holds one deletion at most. -/
theorem DeletesOnce.history (h : DeletesOnce calls) (k : String) :
    (history k calls).Pairwise fun a b => a.operation = .delete → b.operation ≠ .delete := by
  refine List.pairwise_map.mpr ?_
  refine (h.filter _).imp_of_mem ?_
  intro a b ha hb hab hda hdb
  obtain ⟨-, hka⟩ := List.mem_filter.mp ha
  obtain ⟨-, hkb⟩ := List.mem_filter.mp hb
  rw [Bool.and_eq_true, beq_iff_eq] at hka hkb
  obtain ⟨ca, refusala⟩ := a
  obtain ⟨cb, refusalb⟩ := b
  cases ca with
  | add => cases hda
  | replace => cases hda
  | delete x =>
    cases cb with
    | add => cases hdb
    | replace => cases hdb
    | delete y => exact hab x y rfl rfl (hka.2.trans hkb.2.symm)

end Sync
end NetNames
