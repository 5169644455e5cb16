import Mathlib.Data.List.Basic
import NetNames.FileTree

/-! A file that is written is found again under the path it was written to. Writing touches the place
of the file only, and the path to it leads through folders, so the same path still leads there. -/
namespace NetNames.FileTree

variable {t u : FileTree} {l m next : Location} {n : Node} {path name : String}
  {names : List String} {last : String} {bytes : List UInt8}

private theorem lookup_filter_ne {nodes : List (Location × Node)} (h : m ≠ l) :
    (nodes.filter (fun e => e.1 != l)).lookup m = nodes.lookup m := by
  induction nodes with
  | nil => rfl
  | cons e nodes ih =>
    by_cases he : e.1 = l
    · rw [List.filter_cons_of_neg (by simpa using he), ih, List.lookup_cons, he,
        beq_eq_false_iff_ne.mpr h]
    · rw [List.filter_cons_of_pos (by simpa using he), List.lookup_cons, List.lookup_cons, ih]

/-- At every other place the tree is what it was. -/
theorem node?_put_of_ne (h : m ≠ l) : (t.put l n).node? m = t.node? m := by
  rw [node?, node?, put, List.lookup_cons, beq_eq_false_iff_ne.mpr h, lookup_filter_ne h]

theorem node?_put_self (h : t.isFolder l = false) : (t.put l n).node? l = some n := by
  rw [isFolder, node?] at h
  split at h
  · simp at h
  · rename_i hprefix
    rw [node?, put, if_neg hprefix, List.lookup_cons, beq_self_eq_true]

/-- The folders of the tree stay folders where a file is put. -/
theorem ne_of_isFolder (hm : t.isFolder m = true) (hl : t.isFolder l = false) : m ≠ l := by
  rintro rfl
  rw [hm] at hl
  cases hl

theorem isFolder_put (hm : t.isFolder m = true) (hl : t.isFolder l = false) :
    (t.put l n).isFolder m = true := by
  rw [isFolder, node?_put_of_ne (ne_of_isFolder hm hl)]
  exact hm

theorem isFolder_of_enter (h : t.enter m name = .ok next) : t.isFolder m = true := by
  rw [enter] at h
  split at h
  · cases h
  · rename_i hm
    simpa using hm

/-- A step down or up depends on the folder it starts from only. -/
theorem enter_eq (ht : t.isFolder m = true) (hu : u.isFolder m = true) (name : String) :
    u.enter m name = t.enter m name := by
  rw [enter, enter, ht, hu]

theorem isFolder_of_walk (h : t.walk m names = .ok l) (hl : t.isFolder l = true) :
    t.isFolder m = true := by
  cases names with
  | nil =>
    rw [walk] at h
    split at h
    · cases h
      exact hl
    · cases h
  | cons name names =>
    rw [walk] at h
    split at h
    · cases h
    · split at h
      · rename_i hnext
        exact isFolder_of_enter hnext
      · cases h

theorem walk_cons (hm : t.isFolder m = true) (name : String) (names : List String) :
    t.walk m (name :: names) = match t.enter m name with
      | .ok next => t.walk next names
      | .error e => .error e := by
  have hsome : (t.node? m).isNone = false := by
    rw [isFolder, beq_iff_eq] at hm
    rw [hm]
    rfl
  rw [walk, hsome]
  rfl

/-- A walk that ends in a folder is the same after a file is put somewhere. -/
theorem walk_put (h : t.walk m names = .ok next) (hnext : t.isFolder next = true)
    (hl : t.isFolder l = false) : (t.put l n).walk m names = .ok next := by
  induction names generalizing m with
  | nil =>
    rw [walk] at h
    split at h
    · rename_i hsome
      cases h
      rw [walk, node?_put_of_ne (ne_of_isFolder hnext hl), if_pos hsome]
    · cases h
  | cons name names ih =>
    have hm := isFolder_of_walk h hnext
    have hput := isFolder_put (n := n) hm hl
    rw [walk_cons hm] at h
    rw [walk_cons hput, enter_eq hm hput]
    split at h
    · exact ih h
    · cases h

theorem walk_append (h : t.walk m names = .ok next) (hnext : t.isFolder next = true)
    (rest : List String) : t.walk m (names ++ rest) = t.walk next rest := by
  induction names generalizing m with
  | nil =>
    rw [walk] at h
    split at h
    · cases h
      rfl
    · cases h
  | cons name names ih =>
    have hm := isFolder_of_walk h hnext
    rw [walk_cons hm] at h
    rw [List.cons_append, walk_cons hm]
    split at h
    · exact ih h
    · cases h

/-- The pieces before the last lead to the folder `m`, in which the last one names the place `l`
for a file. -/
structure Leads (t : FileTree) (path : String) (names : List String) (last : String)
    (m l : Location) : Prop where
  checked : checkText path = .ok ()
  segments : Path.segments path = names ++ [last]
  last_ne : last ≠ ""
  walk : t.walk (t.start path) names = .ok m
  folder : t.isFolder m = true
  enter : t.enter m last = .ok l
  not_folder : t.isFolder l = false

private theorem bind_eq_ok_iff {ε α β : Type} {x : Except ε α} {f : α → Except ε β} {b : β} :
    x >>= f = .ok b ↔ ∃ a, x = .ok a ∧ f a = .ok b := by
  cases x <;> simp [bind, Except.bind]

theorem target_ok_iff_of_segments (h : Path.segments path = names ++ [last]) (hlast : last ≠ "") :
    t.target path = .ok l ↔ ∃ m, t.Leads path names last m l := by
  have hpieces : ((names ++ [last]).reverse.dropWhile (· == "")).reverse = names ++ [last] := by
    simp [hlast]
  have hnamed : ((names ++ [last]).isEmpty || (names ++ [last]).reverse.head? == some "") =
      false := by
    simp [hlast]
  have htarget : t.target path = do
      checkText path
      let m ← t.walk (t.start path) names
      if !t.isFolder m then throw .notFolder
      let next ← t.enter m last
      if t.isFolder next then throw .isFolder
      return next := by
    simp only [target, h, hpieces, hnamed, List.dropLast_concat, List.getLast?_concat]
    rfl
  rw [htarget, bind_eq_ok_iff]
  constructor
  · rintro ⟨⟨⟩, hchecked, hrest⟩
    obtain ⟨m, hwalk, hrest⟩ := bind_eq_ok_iff.mp hrest
    split at hrest
    · cases hrest
    · rename_i hm
      obtain ⟨next, henter, hrest⟩ := bind_eq_ok_iff.mp hrest
      split at hrest
      · cases hrest
      · rename_i hnext
        cases hrest
        exact ⟨m, hchecked, h, hlast, hwalk, by simpa using hm, henter, by simpa using hnext⟩
  · rintro ⟨m, hleads⟩
    refine ⟨(), hleads.checked, ?_⟩
    rw [hleads.walk]
    simp only [bind, Except.bind, hleads.folder, hleads.enter, hleads.not_folder]
    rfl

/-- With nothing behind its last slash a path names no place for a file. -/
theorem target_ne_ok (h : (Path.segments path).reverse.head?.getD "" = "") :
    t.target path ≠ .ok l := by
  have hnone : (((Path.segments path).reverse.dropWhile (· == "")).reverse.isEmpty ||
      (Path.segments path).reverse.head? == some "") = true := by
    cases hpieces : (Path.segments path).reverse with
    | nil => rfl
    | cons last names =>
      rw [hpieces] at h
      simpa using Or.inr h
  simp only [target, hnone]
  generalize List.reverse _ = names
  cases checkText path with
  | error e => nofun
  | ok _ =>
    cases t.walk (t.start path) names.dropLast with
    | error e => nofun
    | ok m =>
      cases hm : t.isFolder m <;>
        simp [hm, bind, Except.bind, throw, throwThe, MonadExceptOf.throw]

theorem target_ok_iff : t.target path = .ok l ↔ ∃ names last m, t.Leads path names last m l := by
  constructor
  · intro h
    have hlast : (Path.segments path).reverse.head?.getD "" ≠ "" := fun hnone => target_ne_ok hnone h
    rcases List.eq_nil_or_concat' (Path.segments path) with hnil | ⟨names, last, hsegments⟩
    · exact absurd (by rw [hnil]; rfl) hlast
    · rw [hsegments, List.reverse_concat] at hlast
      exact ⟨names, last, (target_ok_iff_of_segments hsegments hlast).mp h⟩
  · rintro ⟨names, last, m, h⟩
    exact (target_ok_iff_of_segments h.segments h.last_ne).mpr ⟨m, h⟩

/-- A file put there leaves the way to it as it is. -/
theorem Leads.put (h : t.Leads path names last m l) (bytes : List UInt8) :
    (t.put l (.file bytes)).Leads path names last m l := by
  have hm := isFolder_put (n := .file bytes) h.folder h.not_folder
  refine ⟨h.checked, h.segments, h.last_ne, walk_put h.walk h.folder h.not_folder, hm, ?_, ?_⟩
  · rw [enter_eq h.folder hm, h.enter]
  · rw [isFolder, node?_put_self h.not_folder]
    rfl

theorem Leads.locate (h : t.Leads path names last m l) (hl : (t.node? l).isSome = true) :
    t.locate path = .ok l := by
  rw [FileTree.locate, h.checked, h.segments]
  dsimp only
  rw [walk_append h.walk h.folder, walk_cons h.folder, h.enter]
  dsimp only
  rw [FileTree.walk, if_pos hl]

/-- The same path can be written again. -/
theorem target_put (h : t.target path = .ok l) (bytes : List UInt8) :
    (t.put l (.file bytes)).target path = .ok l := by
  obtain ⟨names, last, m, hleads⟩ := target_ok_iff.mp h
  exact target_ok_iff.mpr ⟨names, last, m, hleads.put bytes⟩

theorem node?_put_of_target (h : t.target path = .ok l) (n : Node) :
    (t.put l n).node? l = some n := by
  obtain ⟨names, last, m, hleads⟩ := target_ok_iff.mp h
  exact node?_put_self hleads.not_folder

theorem locate_put (h : t.target path = .ok l) (bytes : List UInt8) :
    (t.put l (.file bytes)).locate path = .ok l := by
  obtain ⟨names, last, m, hleads⟩ := target_ok_iff.mp h
  exact (hleads.put bytes).locate (by rw [node?_put_self hleads.not_folder]; rfl)

theorem readAt_put (h : t.target path = .ok l) (bytes : List UInt8) :
    (t.put l (.file bytes)).readAt l = .ok bytes := by
  rw [readAt, node?_put_of_target h]

theorem write_of_target (h : t.target path = .ok l) (bytes : List UInt8) :
    t.write path bytes = .ok (t.put l (.file bytes)) := by
  rw [write, h]

/-- What is written is read back. -/
theorem read_write (h : t.write path bytes = .ok u) : u.read path = .ok bytes := by
  rw [write] at h
  split at h
  · rename_i l htarget
    cases h
    rw [read, locate_put htarget]
    exact readAt_put htarget bytes
  · cases h

end NetNames.FileTree
