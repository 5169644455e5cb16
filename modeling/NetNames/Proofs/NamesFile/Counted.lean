import NetNames.Proofs.NamesFile.Chained
import NetNames.Proofs.NamesFile.Rendered

/-! How many entries of a registry are written, and how many aliases a reader of the text finds. The
reader finds all that are written, and the others have no descriptor. -/
namespace NetNames.NamesFile

open Text

/-- The entries that a rendered text holds. -/
def written (r : Registry) : List ServiceEntry := r.toList.filter hasDescriptor

/-- The entries that it leaves out. -/
def leftOut (r : Registry) : List ServiceEntry := r.toList.filter (!hasDescriptor ·)

variable {r : Registry} {stamp : String}

theorem size_eq (r : Registry) : r.size = (written r).length + (leftOut r).length := by
  rw [written, leftOut, ← List.length_eq_length_filter_add, Registry.toList, Keyed.values,
    List.length_map]
  rfl

theorem size_eq_written_iff :
    r.size = (written r).length ↔ ∀ e ∈ r.toList, hasDescriptor e = true := by
  rw [size_eq, Nat.add_eq_left, List.length_eq_zero_iff, leftOut, List.filter_eq_nil_iff]
  simp

theorem written_renderable (hr : r.Canonical)
    (hrenderable : ∀ e ∈ r.toList, hasDescriptor e = true → Renderable e) :
    ∀ e ∈ written r, Renderable e ∧ upperCase e.name = e.name := by
  intro e he
  obtain ⟨he, hdescriptor⟩ := List.mem_filter.mp he
  exact ⟨hrenderable e he hdescriptor, (hr e.name e (hr.mem_toList_iff.mp he)).2⟩

/-- What a rendered text is read as, wherever it is read from. -/
theorem value_readWith_render (hr : r.Canonical) (hstamp : '\n' ∉ stamp.toList)
    (hrenderable : ∀ e ∈ r.toList, hasDescriptor e = true → Renderable e) (follow : Follow)
    (source folder : String) :
    (readWith follow source folder (render stamp r).toList).value =
      .ofList ((written r).map fun e => .define e.name e.description source) := by
  have hes := written_renderable hr hrenderable
  refine value_readWith_definitions source folder (fun e he => (List.mem_filter.mp he).2) ?_
  rw [ofText_render hstamp fun e he => (hes e he).1.isWord.feed_not_mem, ← written,
    ofLines_renderable hes]

/-- An entry that is written is found in the text, wherever it is read from. -/
theorem get?_readWith_render {e : ServiceEntry} (hr : r.Canonical) (hstamp : '\n' ∉ stamp.toList)
    (hrenderable : ∀ e ∈ r.toList, hasDescriptor e = true → Renderable e) (follow : Follow)
    (source folder : String) (he : e ∈ r.toList) (hdescriptor : hasDescriptor e = true) :
    (readWith follow source folder (render stamp r).toList).value.get? e.name =
      some (.define e.name e.description source) := by
  have hupper : ∀ e ∈ written r, upperCase e.name = e.name :=
    fun e he => (written_renderable hr hrenderable e he).2
  rw [value_readWith_render hr hstamp hrenderable, get?_ofList_define hupper
    (hr.names_ascending hasDescriptor).nodup]
  exact ⟨e, List.mem_filter.mpr ⟨he, hdescriptor⟩, rfl, rfl⟩

/-- The number of aliases in a rendered text, wherever it is read from. -/
theorem size_readWith_render (hr : r.Canonical) (hstamp : '\n' ∉ stamp.toList)
    (hrenderable : ∀ e ∈ r.toList, hasDescriptor e = true → Renderable e) (follow : Follow)
    (source folder : String) :
    (readWith follow source folder (render stamp r).toList).value.size = (written r).length := by
  have hes := written_renderable hr hrenderable
  have hnames : ((written r).map fun e =>
      ServiceEntry.define e.name e.description source).map (fun e => upperCase e.name) =
      (written r).map (·.name) := by
    rw [List.map_map]
    refine List.map_congr_left fun e he => ?_
    rw [Function.comp_apply, ServiceEntry.define, (hes e he).2, (hes e he).2]
  rw [value_readWith_render hr hstamp hrenderable,
    Registry.size_ofList (hnames ▸ (hr.names_ascending hasDescriptor).nodup), List.length_map,
    written]

/-- A file that can be read is loaded as its text. -/
theorem value_load_of_read {v : FileView} {path : String} {bytes : List UInt8}
    (h : v.read path = .ok bytes) (recursive : Bool) :
    ∃ follow, (load v path recursive).value =
      .ok (readWith follow path (Path.parent path) (decodeLossy bytes)).value := by
  have hopened := opened_nil v path
  rw [h] at hopened
  rw [value_load, value_readChained]
  cases hfile : opened v [] path with
  | error e =>
    rw [hfile] at hopened
    cases hopened
  | ok file =>
    rw [hfile] at hopened
    cases hopened
    exact ⟨_, rfl⟩

end NetNames.NamesFile
