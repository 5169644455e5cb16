import NetNames.NamesFile.Reader

/-!
Reading names files that include each other. The files being read form a chain of distinct
locations; a file already on the chain is refused, so inclusion ends when the files are used up.
-/
namespace NetNames.NamesFile

/-- The files that are not being read. -/
def unread (t : FileView) (chain : List Location) : List Location :=
  t.files.filter (fun l => !chain.contains l)

theorem unread_cons_lt {t : FileView} {chain : List Location} {l : Location}
    (hl : l ∈ t.files) (hc : l ∉ chain) :
    (unread t (l :: chain)).length < (unread t chain).length := by
  have he : unread t (l :: chain) = (unread t chain).filter (fun x => x != l) := by
    simp only [unread, List.filter_filter]
    congr 1
    funext x
    by_cases hx : x = l <;> simp [hx]
  rw [he]
  refine List.length_filter_lt_length_iff_exists.mpr ⟨l, ?_, by simp⟩
  exact List.mem_filter.mpr ⟨hl, by simpa using hc⟩

/-- Reads the file at `path`; `chain` holds the locations of the files being read. -/
def readChained (t : FileView) (recursive : Bool) (chain : List Location) (path : String) :
    Logged (Except NamesError Registry) :=
  match t.locate path with
  | .error fault => pure (.error (.unreadable path fault))
  | .ok l =>
    if hc : l ∈ chain then pure (.error (.inclusionCycle path))
    else
      match hr : t.readAt l with
      | .error fault => pure (.error (.unreadable path fault))
      | .ok bytes =>
        have := unread_cons_lt (t.mem_files_of_readAt hr) hc
        let follow : Follow :=
          if recursive then some (readChained t recursive (l :: chain)) else none
        .ok <$> readWith follow path (Path.parent path) (Text.decodeLossy bytes)
  termination_by (unread t chain).length

/-- The registry of the file at `path` and, if asked for, of the files it includes. -/
def load (t : FileView) (path : String) (recursive : Bool) :
    Logged (Except NamesError Registry) := do
  .note .info "parsing tnsnames file" [("path", .bare path), ("recursive", .flag recursive)]
  match ← readChained t recursive [] path with
  | .ok r =>
    .note .debug "parsed tnsnames entries" [("count", .number r.size)]
    return .ok r
  | .error e => return .error e

/-- The registry of a text that did not come from a file. -/
def loadText (t : FileView) (text source folder : String) (recursive : Bool) : Logged Registry :=
  readWith (if recursive then some (readChained t recursive []) else none) source folder text.toList

end NetNames.NamesFile
