import NetNames.Directory.Layout
import NetNames.Directory.Store

/-! What is read from an entry depends only on the attributes of that name, in whatever case.
Projecting an entry to some names, or replacing another attribute, does not change it. -/
namespace NetNames

namespace Text

theorem sameIgnoringCase_iff {a b : String} :
    sameIgnoringCase a b = true ↔ lower a.toList = lower b.toList :=
  beq_iff_eq

@[simp] theorem sameIgnoringCase_self (a : String) : sameIgnoringCase a a = true :=
  sameIgnoringCase_iff.mpr rfl

theorem sameIgnoringCase_comm (a b : String) : sameIgnoringCase a b = sameIgnoringCase b a := by
  rw [Bool.eq_iff_iff, sameIgnoringCase_iff, sameIgnoringCase_iff, eq_comm]

theorem sameIgnoringCase_congr {a b : String} (h : sameIgnoringCase a b = true) (c : String) :
    sameIgnoringCase a c = sameIgnoringCase b c := by
  rw [sameIgnoringCase, sameIgnoringCase, sameIgnoringCase_iff.mp h]

end Text

open Text

theorem Keyed.get?_filter {α : Type} (m : Keyed α) (p : String → α → Bool) (k : String) :
    (m.filter p).get? k = (m.get? k).filter (p k) := by
  ext v
  rw [← mem_entries_iff, Option.filter_eq_some_iff, ← mem_entries_iff]
  exact List.mem_filter

namespace DirectoryEntry
variable {e a b c : DirectoryEntry} {name : String}

/-- The attributes of one name, in whatever case. -/
def named (e : DirectoryEntry) (name : String) : Keyed (List String) :=
  e.attributes.filter fun n _ => sameIgnoringCase n name

theorem get?_named (e : DirectoryEntry) (name n : String) :
    (e.named name).get? n = if sameIgnoringCase n name then e.attributes.get? n else none := by
  rw [named, Keyed.get?_filter]
  cases sameIgnoringCase n name <;> cases e.attributes.get? n <;> rfl

theorem values?_eq_head? (e : DirectoryEntry) (name : String) :
    e.values? name = (e.named name).entries.head?.map (·.2) := by
  rw [values?, named, Keyed.filter, List.head?_filter]
  rfl

theorem values?_congr (h : ∀ n, sameIgnoringCase n name = true →
    a.attributes.get? n = b.attributes.get? n) : a.values? name = b.values? name := by
  have hn : a.named name = b.named name := by
    apply Keyed.ext
    intro n
    rw [get?_named, get?_named]
    split
    · rename_i hs
      exact h n hs
    · rfl
  rw [values?_eq_head?, values?_eq_head?, hn]

theorem values?_of_only {n : String} {v : List String} (hn : sameIgnoringCase n name = true)
    (hv : e.attributes.get? n = some v)
    (honly : ∀ m w, sameIgnoringCase m name = true → e.attributes.get? m = some w → m = n) :
    e.values? name = some v := by
  have hmem : (n, v) ∈ (e.named name).entries := by
    rw [Keyed.mem_entries_iff, get?_named, if_pos hn, hv]
  rw [values?_eq_head?]
  cases hl : (e.named name).entries with
  | nil => simp [hl] at hmem
  | cons x r =>
    have hx : (e.named name).get? x.1 = some x.2 :=
      Keyed.mem_entries_iff.mp (hl ▸ List.mem_cons_self)
    rw [get?_named] at hx
    split at hx
    · rename_i hs
      rw [honly x.1 x.2 hs hx, hv] at hx
      exact hx.symm
    · cases hx

theorem values?_eq_none (h : ∀ n, sameIgnoringCase n name = true → e.attributes.get? n = none) :
    e.values? name = none := by
  have hempty : e.named name = ∅ := by
    apply Keyed.ext
    intro n
    rw [get?_named, Keyed.get?_empty]
    split
    · rename_i hs
      exact h n hs
    · rfl
  rw [values?_eq_head?, hempty]
  rfl

theorem get?_replace (e : DirectoryEntry) (name n : String) {values : List String}
    (hv : values ≠ []) : (e.replace name values).attributes.get? n =
      if n = name then some values
      else if sameIgnoringCase n name then none else e.attributes.get? n := by
  rw [replace, if_neg (by simpa using hv), Keyed.get?_insert]
  split
  · rfl
  · rw [Keyed.get?_filter]
    cases sameIgnoringCase n name <;> cases e.attributes.get? n <;> rfl

theorem values?_replace_self (e : DirectoryEntry) (name : String) {values : List String}
    (hv : values ≠ []) : (e.replace name values).values? name = some values := by
  refine values?_of_only (sameIgnoringCase_self name) ?_ fun m w hm hw => ?_
  · rw [get?_replace e name name hv, if_pos rfl]
  · rw [get?_replace e name m hv, if_pos hm] at hw
    split at hw
    · assumption
    · cases hw

theorem values?_project (e : DirectoryEntry) {names : List String} (h : name ∈ names) :
    (e.project names).values? name = e.values? name := by
  apply values?_congr
  intro n hn
  have hany : (names.isEmpty || names.any (sameIgnoringCase · n)) = true := by
    rw [Bool.or_eq_true, List.any_eq_true]
    exact .inr ⟨name, h, sameIgnoringCase_comm n name ▸ hn⟩
  rw [project, Keyed.get?_filter]
  cases e.attributes.get? n with
  | none => rfl
  | some v => simp only [Option.filter, hany, if_true]

/-- Two entries that may differ in one attribute. -/
structure AgreesOutside (name : String) (a b : DirectoryEntry) : Prop where
  dn : b.dn = a.dn
  attributes : ∀ n, sameIgnoringCase n name = false → b.attributes.get? n = a.attributes.get? n

namespace AgreesOutside

theorem refl (name : String) (a : DirectoryEntry) : AgreesOutside name a a :=
  ⟨rfl, fun _ _ => rfl⟩

theorem trans (h : AgreesOutside name a b) (h' : AgreesOutside name b c) :
    AgreesOutside name a c :=
  ⟨h'.dn.trans h.dn, fun n hn => (h'.attributes n hn).trans (h.attributes n hn)⟩

theorem values? (h : AgreesOutside name a b) {n : String} (hn : sameIgnoringCase n name = false) :
    b.values? n = a.values? n :=
  values?_congr fun m hm => h.attributes m ((sameIgnoringCase_congr hm name).trans hn)

/-- Replacing the attribute leaves nothing of what the entries differed in. -/
theorem replace_eq (h : AgreesOutside name a b) {values : List String} (hv : values ≠ []) :
    b.replace name values = a.replace name values := by
  have hattributes : (b.replace name values).attributes = (a.replace name values).attributes := by
    apply Keyed.ext
    intro n
    rw [get?_replace b name n hv, get?_replace a name n hv]
    split
    · rfl
    · cases hn : sameIgnoringCase n name with
      | true => rfl
      | false => exact h.attributes n hn
  have hdn : (b.replace name values).dn = (a.replace name values).dn := h.dn
  cases ha : a.replace name values
  cases hb : b.replace name values
  rw [ha, hb] at hattributes hdn
  rw [DirectoryEntry.mk.injEq]
  exact ⟨hdn, hattributes⟩

end AgreesOutside

theorem agreesOutside_replace (e : DirectoryEntry) (name : String) {values : List String}
    (hv : values ≠ []) : AgreesOutside name e (e.replace name values) := by
  refine ⟨rfl, fun n hn => ?_⟩
  rw [get?_replace e name n hv, hn]
  split
  · rename_i h
    rw [h, sameIgnoringCase_self] at hn
    cases hn
  · rfl

end DirectoryEntry
end NetNames
