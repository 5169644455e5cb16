/-!
Finite maps from names to values, listed by ascending name.
Two maps with the same look-ups are equal, so a map is determined by what it holds.
-/
namespace NetNames

structure Keyed (α : Type) where
  entries : List (String × α)
  ascending : entries.Pairwise (fun a b => a.1 < b.1)
deriving DecidableEq

namespace Keyed

variable {α β : Type}

def put (k : String) (v : α) : List (String × α) → List (String × α)
  | [] => [(k, v)]
  | e :: r =>
    if k < e.1 then (k, v) :: e :: r
    else if k = e.1 then (k, v) :: r
    else e :: put k v r

def find (k : String) : List (String × α) → Option α
  | [] => none
  | e :: r => if e.1 = k then some e.2 else find k r

theorem mem_put {k : String} {v : α} {l : List (String × α)} {e : String × α}
    (h : e ∈ put k v l) : e = (k, v) ∨ e ∈ l := by
  induction l with
  | nil => simpa [put] using h
  | cons d r ih =>
    rw [put] at h
    split at h
    · simpa using h
    · split at h
      · simp only [List.mem_cons] at h ⊢
        exact h.imp_right .inr
      · simp only [List.mem_cons] at h ⊢
        rcases h with h | h
        · exact .inr (.inl h)
        · exact (ih h).imp_right .inr

theorem ascending_put (k : String) (v : α) {l : List (String × α)}
    (h : l.Pairwise (fun a b => a.1 < b.1)) :
    (put k v l).Pairwise (fun a b => a.1 < b.1) := by
  induction l with
  | nil => simp [put]
  | cons d r ih =>
    obtain ⟨hd, hr⟩ := List.pairwise_cons.mp h
    rw [put]
    split
    · rename_i hk
      refine List.pairwise_cons.mpr ⟨fun e he => ?_, h⟩
      rcases List.mem_cons.mp he with rfl | he
      · exact hk
      · exact String.lt_trans hk (hd e he)
    · rename_i hk
      split
      · rename_i he
        exact List.pairwise_cons.mpr ⟨fun e h' => he ▸ hd e h', hr⟩
      · rename_i hne
        refine List.pairwise_cons.mpr ⟨fun e he => ?_, ih hr⟩
        rcases mem_put he with rfl | he
        · exact Decidable.byContradiction fun hlt =>
            hne (String.le_antisymm (String.not_lt.mp hlt) (String.not_lt.mp hk))
        · exact hd e he

def empty : Keyed α := ⟨[], .nil⟩

instance : EmptyCollection (Keyed α) := ⟨empty⟩
instance : Inhabited (Keyed α) := ⟨empty⟩

def insert (m : Keyed α) (k : String) (v : α) : Keyed α :=
  ⟨put k v m.entries, ascending_put k v m.ascending⟩

def erase (m : Keyed α) (k : String) : Keyed α :=
  ⟨m.entries.filter (·.1 ≠ k), m.ascending.filter _⟩

/-- The entries whose name and value pass the test. -/
def filter (m : Keyed α) (p : String → α → Bool) : Keyed α :=
  ⟨m.entries.filter (fun e => p e.1 e.2), m.ascending.filter _⟩

def get? (m : Keyed α) (k : String) : Option α := find k m.entries
def contains (m : Keyed α) (k : String) : Bool := (m.get? k).isSome
def size (m : Keyed α) : Nat := m.entries.length
def isEmpty (m : Keyed α) : Bool := m.entries.isEmpty
def keys (m : Keyed α) : List String := m.entries.map (·.1)
def values (m : Keyed α) : List α := m.entries.map (·.2)

/-- Both maps together; where both hold a name, the value of `other` stays. -/
def merge (m other : Keyed α) : Keyed α :=
  other.entries.foldl (fun acc e => acc.insert e.1 e.2) m

def ofList (l : List (String × α)) : Keyed α :=
  l.foldl (fun acc e => acc.insert e.1 e.2) ∅

@[simp] theorem get?_empty (k : String) : (∅ : Keyed α).get? k = none := rfl

private theorem find_put (k x : String) (v : α) (l : List (String × α)) :
    find x (put k v l) = if x = k then some v else find x l := by
  induction l with
  | nil => simp [put, find, eq_comm]
  | cons d r ih =>
    rw [put]
    split
    · simp [find, eq_comm]
    · split
      · rename_i hk
        simp only [find, ← hk, eq_comm]
        split <;> rfl
      · rename_i hk
        by_cases h : d.1 = x
        · have hx : x ≠ k := fun he => hk (he ▸ h).symm
          simp [find, h, hx]
        · simp [find, h, ih]

theorem get?_insert (m : Keyed α) (k x : String) (v : α) :
    (m.insert k v).get? x = if x = k then some v else m.get? x :=
  find_put k x v m.entries

@[simp] theorem get?_insert_self (m : Keyed α) (k : String) (v : α) :
    (m.insert k v).get? k = some v := by simp [get?_insert]

theorem get?_erase (m : Keyed α) (k x : String) :
    (m.erase k).get? x = if x = k then none else m.get? x := by
  obtain ⟨l, h⟩ := m
  simp only [erase, get?]
  clear h
  induction l with
  | nil => simp [find]
  | cons d r ih =>
    by_cases hk : d.1 = k
    · rw [List.filter_cons_of_neg (by simpa using hk), ih]
      by_cases hx : x = k
      · simp [hx]
      · have hd : d.1 ≠ x := fun he => hx (he ▸ hk)
        simp [find, hx, hd]
    · rw [List.filter_cons_of_pos (by simpa using hk)]
      by_cases hx : d.1 = x
      · have hn : x ≠ k := hx ▸ hk
        simp [find, hx, hn]
      · simpa [find, hx] using ih

theorem mem_entries_iff {m : Keyed α} {k : String} {v : α} :
    (k, v) ∈ m.entries ↔ m.get? k = some v := by
  obtain ⟨l, h⟩ := m
  simp only [get?]
  induction l with
  | nil => simp [find]
  | cons d r ih =>
    obtain ⟨k', v'⟩ := d
    obtain ⟨hd, hr⟩ := List.pairwise_cons.mp h
    by_cases hk : k' = k
    · subst hk
      have hn : (k', v) ∉ r := fun hm => String.lt_irrefl _ (hd (k', v) hm)
      simp [find, hn, eq_comm]
    · simp [find, hk, Ne.symm hk, ih hr]

theorem mem_keys_iff {m : Keyed α} {k : String} : k ∈ m.keys ↔ (m.get? k).isSome := by
  simp only [keys, List.mem_map, Prod.exists, exists_and_right, exists_eq_right,
    mem_entries_iff, Option.isSome_iff_exists]

theorem keys_ascending (m : Keyed α) : m.keys.Pairwise (· < ·) :=
  List.pairwise_map.mpr m.ascending

private theorem eq_of_mem_iff {l r : List (String × α)}
    (hl : l.Pairwise (fun a b => a.1 < b.1)) (hr : r.Pairwise (fun a b => a.1 < b.1))
    (h : ∀ e, e ∈ l ↔ e ∈ r) : l = r := by
  induction l generalizing r with
  | nil => exact (List.eq_nil_iff_forall_not_mem.mpr fun e he => by simpa using (h e).mpr he).symm
  | cons d l ih =>
    cases r with
    | nil => simpa using (h d).mp (by simp)
    | cons e r =>
      obtain ⟨hd, hl'⟩ := List.pairwise_cons.mp hl
      obtain ⟨he, hr'⟩ := List.pairwise_cons.mp hr
      have hde : d = e := by
        rcases List.mem_cons.mp ((h d).mp (by simp)) with h1 | h1
        · exact h1
        · rcases List.mem_cons.mp ((h e).mpr (by simp)) with h2 | h2
          · exact h2.symm
          · exact absurd (hd e h2) (String.lt_asymm (he d h1))
      subst hde
      congr 1
      refine ih hl' hr' fun x => ?_
      have hx := h x
      simp only [List.mem_cons] at hx
      constructor
      · intro hm
        rcases hx.mp (.inr hm) with rfl | hm'
        · exact absurd (hd _ hm) (String.lt_irrefl _)
        · exact hm'
      · intro hm
        rcases hx.mpr (.inr hm) with rfl | hm'
        · exact absurd (he _ hm) (String.lt_irrefl _)
        · exact hm'

theorem ext {m n : Keyed α} (h : ∀ k, m.get? k = n.get? k) : m = n := by
  have he : m.entries = n.entries :=
    eq_of_mem_iff m.ascending n.ascending fun e => by
      obtain ⟨k, v⟩ := e
      rw [mem_entries_iff, mem_entries_iff, h]
  cases m
  cases n
  simp_all

private theorem get?_foldl_insert {l : List (String × α)}
    (h : l.Pairwise (fun a b => a.1 < b.1)) (m : Keyed α) (k : String) :
    (l.foldl (fun acc e => acc.insert e.1 e.2) m).get? k = (find k l).or (m.get? k) := by
  induction l generalizing m with
  | nil => simp [find]
  | cons d r ih =>
    obtain ⟨hd, hr⟩ := List.pairwise_cons.mp h
    rw [List.foldl_cons, ih hr, get?_insert]
    by_cases hk : d.1 = k
    · subst hk
      have hn : find d.1 r = none := by
        cases hf : find d.1 r with
        | none => rfl
        | some v =>
          have hm : (d.1, v) ∈ r := (mem_entries_iff (m := ⟨r, hr⟩)).mpr hf
          exact absurd (hd _ hm) (String.lt_irrefl _)
      simp [hn, find]
    · simp [find, hk, Ne.symm hk]

theorem get?_merge (m other : Keyed α) (k : String) :
    (m.merge other).get? k = (other.get? k).or (m.get? k) :=
  get?_foldl_insert other.ascending m k

end Keyed
end NetNames
