import NetNames.NamesFile.Inclusion

/-! What reading a file comes to, by the files that are being read already. A file is opened if it
can be read and is not on the chain; then its text is read, and its include lines are followed with
the file on the chain. Induction on the files off the chain covers every inclusion. -/
namespace NetNames.NamesFile
variable {v : FileView} {chain : List Location} {path : String} {l : Location}
  {bytes : List UInt8}

/-- The location and the bytes of a file that is read next, or why it is not. -/
def opened (v : FileView) (chain : List Location) (path : String) :
    Except NamesError (Location × List UInt8) :=
  match v.locate path with
  | .error fault => .error (.unreadable path fault)
  | .ok l =>
    if chain.contains l then .error (.inclusionCycle path)
    else match v.readAt l with
      | .error fault => .error (.unreadable path fault)
      | .ok bytes => .ok (l, bytes)

theorem opened_ok_iff : opened v chain path = .ok (l, bytes) ↔
    v.locate path = .ok l ∧ l ∉ chain ∧ v.readAt l = .ok bytes := by
  rw [opened]
  cases v.locate path with
  | error fault => simp
  | ok l' =>
    simp only [List.contains_iff_mem]
    split
    · rename_i hc
      simp only [reduceCtorEq, Except.ok.injEq, false_iff, not_and]
      rintro rfl hn
      exact absurd hc hn
    · rename_i hc
      cases hr : v.readAt l' with
      | error fault =>
        simp only [reduceCtorEq, Except.ok.injEq, false_iff, not_and]
        rintro rfl -
        simp [hr]
      | ok bytes' =>
        simp only [Except.ok.injEq, Prod.mk.injEq]
        constructor
        · rintro ⟨rfl, rfl⟩
          exact ⟨rfl, hc, hr⟩
        · rintro ⟨rfl, -, hr'⟩
          exact ⟨rfl, Except.ok.inj (hr.symm.trans hr')⟩

theorem unread_lt_of_opened (h : opened v chain path = .ok (l, bytes)) :
    (unread v (l :: chain)).length < (unread v chain).length := by
  obtain ⟨-, hc, hr⟩ := opened_ok_iff.mp h
  exact unread_cons_lt (v.mem_files_of_readAt hr) hc

/-- No file is on the chain at the top, so only what cannot be read is not opened there. -/
theorem opened_nil (v : FileView) (path : String) :
    (opened v [] path).map (·.2) =
      (v.read path).mapError fun fault => .unreadable path fault := by
  rw [opened, FileView.read]
  cases v.locate path with
  | error fault => rfl
  | ok l =>
    dsimp only [List.contains_nil]
    cases v.readAt l <;> rfl

/-- How the include lines of a file are followed while it is on the chain. -/
def following (v : FileView) (recursive : Bool) (chain : List Location) : Follow :=
  if recursive then some (readChained v recursive chain) else none

theorem value_readChained (v : FileView) (recursive : Bool) (chain : List Location)
    (path : String) : (readChained v recursive chain path).value =
      (opened v chain path).map fun file =>
        (readWith (following v recursive (file.1 :: chain)) path (Path.parent path)
          (Text.decodeLossy file.2)).value := by
  rw [readChained, opened]
  cases v.locate path with
  | error fault => rfl
  | ok l =>
    simp only [List.contains_iff_mem]
    split
    · rfl
    · split
      · rename_i hr
        rw [hr]
        rfl
      · rename_i hr
        rw [hr]
        rfl

theorem value_load (v : FileView) (recursive : Bool) (path : String) :
    (load v path recursive).value = (readChained v recursive [] path).value := by
  rw [load, Logged.value_bind, Logged.value_bind]
  cases (readChained v recursive [] path).value <;> rfl

/-- What holds of a file as soon as it holds of all files that it includes holds of every file. -/
theorem chain_induction {motive : List Location → String → Prop} (v : FileView)
    (step : ∀ chain path,
      (∀ l bytes, opened v chain path = .ok (l, bytes) → ∀ target, motive (l :: chain) target) →
        motive chain path) (chain : List Location) (path : String) : motive chain path := by
  induction hn : (unread v chain).length using Nat.strongRecOn generalizing chain path with
  | ind n ih =>
    subst hn
    exact step chain path fun l bytes hopened target =>
      ih _ (unread_lt_of_opened hopened) (l :: chain) target rfl

end NetNames.NamesFile
