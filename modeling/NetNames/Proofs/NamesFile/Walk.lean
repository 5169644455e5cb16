import Mathlib.Data.List.Dedup
import Mathlib.Data.List.Perm.Subperm
import Mathlib.Logic.Relation
import NetNames.Proofs.NamesFile.Chained

/-! Reading names files step by step, with the one chain that all calls share. A call to read a file
puts its location on the chain and a return takes the last one off; nothing else touches it. The
calls that wait for others are kept apart from the chain, so that it is a theorem, and not a
convention, that a call returns with the chain it was made with. -/
namespace NetNames.NamesFile
variable {v : FileView} {recursive : Bool}

/-- A text as far as it was read: its entries so far and the blocks that are left. -/
structure Reading where
  source : String
  folder : String
  registry : Registry
  rest : List Block

def Reading.ofText (source folder : String) (text : List Char) : Reading :=
  ⟨source, folder, ∅, Block.ofText text⟩

/-- The registry of a text once the rest of it is read. -/
def Reading.finish (follow : Follow) (a : Reading) : Registry :=
  a.rest.foldl (fun r b => (b.enter follow a.source a.folder r).value) a.registry

theorem value_readWith_eq_finish (follow : Follow) (source folder : String) (text : List Char) :
    (readWith follow source folder text).value =
      (Reading.ofText source folder text).finish follow := by
  rw [readWith, Logged.value_foldlM]
  rfl

/-- Takes in what an include line brought; a file that failed brings nothing. -/
def Reading.take (a : Reading) : Except NamesError Registry → Reading
  | .ok included => { a with registry := a.registry.merge included }
  | .error _ => a

theorem value_includeFile_some (read : String → Logged (Except NamesError Registry)) (path : String)
    (a : Reading) :
    (includeFile (some read) path a.registry).value = (a.take (read path).value).registry := by
  rw [includeFile, Logged.value_bind]
  cases (read path).value <;> rfl

/-- A call that waits for another: one that reads the file at a location waits for its text, one
that reads a text waits for a file. -/
inductive Caller where
  | file (location : Location)
  | text (reading : Reading)

def Caller.location? : Caller → Option Location
  | .file l => some l
  | .text _ => none

/-- What is done next: a call to read a file or what is left of a text, or a return of either. -/
inductive Task where
  | file (path : String)
  | text (reading : Reading)
  | fileRead (result : Except NamesError Registry)
  | textRead (registry : Registry)

def Task.isReturn : Task → Bool
  | .file _ | .text _ => false
  | .fileRead _ | .textRead _ => true

structure Walk where
  task : Task
  callers : List Caller
  chain : List Location

namespace Walk

/-- The next step of a walk; `none` at a return that no call waits for. -/
def next (v : FileView) (recursive : Bool) : Walk → Option Walk
  | ⟨.file path, callers, chain⟩ =>
    match opened v chain path with
    | .error e => some ⟨.fileRead (.error e), callers, chain⟩
    | .ok (l, bytes) =>
      some ⟨.text (.ofText path (Path.parent path) (Text.decodeLossy bytes)), .file l :: callers,
        l :: chain⟩
  | ⟨.text ⟨_, _, r, []⟩, callers, chain⟩ => some ⟨.textRead r, callers, chain⟩
  | ⟨.text ⟨source, folder, r, b :: rest⟩, callers, chain⟩ =>
    match recursive, b with
    | true, .inclusion target =>
      some ⟨.file (targetPath folder target), .text ⟨source, folder, r, rest⟩ :: callers, chain⟩
    | _, b => some ⟨.text ⟨source, folder, (b.enter none source folder r).value, rest⟩, callers, chain⟩
  | ⟨.fileRead result, .text a :: callers, chain⟩ => some ⟨.text (a.take result), callers, chain⟩
  | ⟨.textRead r, .file _ :: callers, chain⟩ => some ⟨.fileRead (.ok r), callers, chain.tail⟩
  | ⟨.fileRead _, _, _⟩ => none
  | ⟨.textRead _, _, _⟩ => none

/-- One step that leaves the callers in `base` waiting. -/
def StepsAbove (v : FileView) (recursive : Bool) (base : List Caller) (s t : Walk) : Prop :=
  s.next v recursive = some t ∧ base <:+ t.callers

/-- Steps one after another that all leave the callers in `base` waiting. -/
def Above (v : FileView) (recursive : Bool) (base : List Caller) : Walk → Walk → Prop :=
  Relation.ReflTransGen (StepsAbove v recursive base)

/-- The steps of a walk, as far as they may go. -/
abbrev Reaches (v : FileView) (recursive : Bool) : Walk → Walk → Prop := Above v recursive []

/-- The call that is made in `s` returns in `t`. -/
def Returns (v : FileView) (recursive : Bool) (s t : Walk) : Prop :=
  Above v recursive s.callers s t ∧ t.callers = s.callers ∧ t.task.isReturn = true

theorem Above.mono {base base' : List Caller} {s t : Walk} (hb : base' <:+ base)
    (h : Above v recursive base s t) : Above v recursive base' s t := by
  have hstep : StepsAbove v recursive base ≤ StepsAbove v recursive base' :=
    fun _ _ hstep => ⟨hstep.1, hb.trans hstep.2⟩
  exact Relation.ReflTransGen.mono hstep s t h

/-- A step takes no caller away unless it is a return. -/
theorem callers_of_next {s t : Walk} (h : s.next v recursive = some t)
    (hs : s.task.isReturn = true) : ∃ c, s.callers = c :: t.callers := by
  obtain ⟨task, callers, chain⟩ := s
  cases task with
  | file path => cases hs
  | text a => cases hs
  | fileRead result =>
    match callers with
    | .text a :: callers =>
      cases h
      exact ⟨_, rfl⟩
  | textRead r =>
    match callers with
    | .file l :: callers =>
      cases h
      exact ⟨_, rfl⟩

/-- The step after the return of a call goes on with its caller, which waits no more. -/
theorem Returns.not_stepsAbove {s t u : Walk} (h : s.Returns v recursive t) :
    ¬ StepsAbove v recursive s.callers t u := by
  rintro ⟨hnext, hsuffix⟩
  obtain ⟨c, hc⟩ := callers_of_next hnext h.2.2
  have hlength := hsuffix.length_le
  rw [← h.2.1, hc, List.length_cons] at hlength
  omega

theorem stepsAbove_unique (base : List Caller) :
    Relator.RightUnique (StepsAbove v recursive base) :=
  fun _ _ _ ht hu => Option.some.inj (ht.1.symm.trans hu.1)

theorem Returns.eq_of_above {s t u : Walk} (h : s.Returns v recursive t)
    (hu : Above v recursive s.callers t u) : u = t := by
  obtain rfl | ⟨w, hw, -⟩ := Relation.ReflTransGen.cases_head hu
  · rfl
  · exact absurd hw h.not_stepsAbove

/-- A call returns once. -/
theorem Returns.unique {s t u : Walk} (ht : s.Returns v recursive t)
    (hu : s.Returns v recursive u) : u = t := by
  rcases Relation.ReflTransGen.total_of_right_unique (stepsAbove_unique s.callers) ht.1 hu.1
    with h | h
  · exact ht.eq_of_above h
  · exact (hu.eq_of_above h).symm

theorem Returns.refl {s : Walk} (hs : s.task.isReturn = true) : s.Returns v recursive s :=
  ⟨.refl, rfl, hs⟩

/-- A step within a call. -/
theorem Returns.of_next {s u t : Walk} (hnext : s.next v recursive = some u)
    (hcallers : u.callers = s.callers) (h : u.Returns v recursive t) : s.Returns v recursive t := by
  obtain ⟨habove, ht, hreturn⟩ := h
  rw [hcallers] at habove ht
  exact ⟨.head ⟨hnext, hcallers ▸ List.suffix_rfl⟩ habove, ht, hreturn⟩

/-- A call within a call, from the step that makes it to the step after its return. -/
theorem Returns.of_call {s u u' w t : Walk} {c : Caller} (hcall : s.next v recursive = some u)
    (hu : u.callers = c :: s.callers) (hreturned : u.Returns v recursive u')
    (hback : u'.next v recursive = some w) (hw : w.callers = s.callers)
    (h : w.Returns v recursive t) : s.Returns v recursive t := by
  have hsuffix : s.callers <:+ u.callers := hu ▸ List.suffix_cons c s.callers
  obtain ⟨habove, ht, hreturn⟩ := h
  rw [hw] at habove ht
  have hinner : Above v recursive s.callers u u' := hreturned.1.mono hsuffix
  have houter : Above v recursive s.callers u' t :=
    habove.head ⟨hback, hw ▸ List.suffix_rfl⟩
  exact ⟨(hinner.trans houter).head ⟨hcall, hsuffix⟩, ht, hreturn⟩

end Walk

/-- A text is read to its end if the files that it may include are. -/
theorem text_returns_of {chain : List Location}
    (hfiles : ∀ path callers, Walk.Returns v recursive ⟨.file path, callers, chain⟩
      ⟨.fileRead (readChained v recursive chain path).value, callers, chain⟩)
    (a : Reading) (callers : List Caller) :
    Walk.Returns v recursive ⟨.text a, callers, chain⟩
      ⟨.textRead (a.finish (following v recursive chain)), callers, chain⟩ := by
  obtain ⟨source, folder, r, rest⟩ := a
  induction rest generalizing r with
  | nil => exact .of_next rfl rfl (.refl rfl)
  | cons b rest ih =>
    cases recursive with
    | false => exact .of_next rfl rfl (ih _)
    | true =>
      cases b with
      | definition name body => exact .of_next rfl rfl (ih _)
      | stray line => exact .of_next rfl rfl (ih _)
      | inclusion target =>
        have hfile := hfiles (targetPath folder target) (.text ⟨source, folder, r, rest⟩ :: callers)
        refine .of_call rfl rfl hfile rfl rfl ?_
        have hinclude := value_includeFile_some (readChained v true chain)
          (targetPath folder target) ⟨source, folder, r, rest⟩
        rw [Reading.finish, List.foldl_cons, Block.enter, following, if_pos rfl, hinclude]
        cases (readChained v true chain (targetPath folder target)).value <;> exact ih _

/-- By induction on the files off the chain: whatever is on it, a call to read a file returns. -/
theorem file_returns (v : FileView) (recursive : Bool) (chain : List Location) (path : String)
    (callers : List Caller) : Walk.Returns v recursive ⟨.file path, callers, chain⟩
      ⟨.fileRead (readChained v recursive chain path).value, callers, chain⟩ := by
  induction chain, path using chain_induction v generalizing callers with
  | step chain path ih =>
    rw [value_readChained]
    cases hopened : opened v chain path with
    | error e =>
      refine .of_next (u := ⟨.fileRead (.error e), callers, chain⟩) ?_ rfl (.refl rfl)
      rw [Walk.next, hopened]
    | ok file =>
      obtain ⟨l, bytes⟩ := file
      have htext := text_returns_of (ih l bytes hopened)
        (.ofText path (Path.parent path) (Text.decodeLossy bytes)) (.file l :: callers)
      rw [← value_readWith_eq_finish] at htext
      refine .of_call ?_ rfl htext rfl rfl (.refl rfl)
      rw [Walk.next, hopened]

namespace Walk

/-- The chain holds the files that calls are reading, the innermost first, and each of them once. -/
structure Sound (v : FileView) (s : Walk) : Prop where
  chain_eq : s.chain = s.callers.filterMap Caller.location?
  nodup : s.chain.Nodup
  files : s.chain ⊆ v.files

theorem Sound.next {s t : Walk} (hs : s.Sound v) (h : s.next v recursive = some t) : t.Sound v := by
  obtain ⟨task, callers, chain⟩ := s
  obtain ⟨hchain, hnodup, hfiles⟩ := hs
  cases task with
  | file path =>
    rw [Walk.next] at h
    cases hopened : opened v chain path with
    | error e =>
      rw [hopened] at h
      cases h
      exact ⟨hchain, hnodup, hfiles⟩
    | ok file =>
      rw [hopened] at h
      cases h
      obtain ⟨-, hnew, hread⟩ := opened_ok_iff.mp hopened
      exact ⟨congrArg (file.1 :: ·) hchain, hnodup.cons hnew,
        List.cons_subset.mpr ⟨v.mem_files_of_readAt hread, hfiles⟩⟩
  | text a =>
    -- A text leaves the chain alone, and the calls it makes wait on no file of their own.
    obtain ⟨source, folder, r, rest⟩ := a
    have hkeep : t.chain = chain ∧
        t.callers.filterMap Caller.location? = callers.filterMap Caller.location? := by
      cases rest with
      | nil =>
        cases h
        exact ⟨rfl, rfl⟩
      | cons b rest => cases recursive <;> cases b <;> cases h <;> exact ⟨rfl, rfl⟩
    exact ⟨by rw [hkeep.1, hkeep.2, ← hchain], hkeep.1 ▸ hnodup, hkeep.1 ▸ hfiles⟩
  | fileRead result =>
    match callers with
    | .text a :: callers =>
      cases h
      exact ⟨hchain, hnodup, hfiles⟩
  | textRead r =>
    match callers with
    | .file l :: callers =>
      cases h
      exact ⟨congrArg List.tail hchain, hnodup.tail, fun l hl => hfiles (List.mem_of_mem_tail hl)⟩

theorem Sound.reaches {s t : Walk} (hs : s.Sound v) (h : s.Reaches v recursive t) : t.Sound v := by
  induction h with
  | refl => exact hs
  | tail _ hstep ih => exact ih.next hstep.1

theorem Sound.mem_chain_iff {s : Walk} (hs : s.Sound v) (l : Location) :
    l ∈ s.chain ↔ Caller.file l ∈ s.callers := by
  rw [hs.chain_eq, List.mem_filterMap]
  constructor
  · rintro ⟨c, hc, hl⟩
    cases c with
    | file l' =>
      cases hl
      exact hc
    | text a => cases hl
  · intro hc
    exact ⟨_, hc, rfl⟩

/-- There are no more files on the chain than there are files. -/
theorem Sound.chain_length_le {s : Walk} (hs : s.Sound v) :
    s.chain.length ≤ v.files.dedup.length :=
  (List.Nodup.subperm hs.nodup fun _ hl => List.mem_dedup.mpr (hs.files hl)).length_le

/-- Every call returns, whatever waits for it, and finds the chain again that it was made with. -/
theorem exists_returns (v : FileView) (recursive : Bool) (s : Walk) :
    ∃ t, s.Returns v recursive t ∧ t.chain = s.chain := by
  obtain ⟨task, callers, chain⟩ := s
  cases task with
  | file path => exact ⟨_, file_returns v recursive chain path callers, rfl⟩
  | text a => exact ⟨_, text_returns_of (file_returns v recursive chain) a callers, rfl⟩
  | fileRead result => exact ⟨_, .refl rfl, rfl⟩
  | textRead r => exact ⟨_, .refl rfl, rfl⟩

end Walk

/-- Reading a file comes to an end, whatever files include each other and however their paths are
spelled. Every call returns just once, with the chain that it was made with. The files that are
being read at a time are distinct, so they are no more than there are files; and a call reads its
file unless one that reads the same file has not returned yet, however often it was read before. -/
theorem reading_ends (v : FileView) (recursive : Bool) (path : String) :
    let start : Walk := ⟨.file path, [], []⟩
    let final : Walk := ⟨.fileRead (load v path recursive).value, [], []⟩
    start.Reaches v recursive final ∧ final.next v recursive = none ∧
    (∀ s : Walk, ∃ t, s.Returns v recursive t ∧ t.chain = s.chain ∧
      ∀ u, s.Returns v recursive u → u = t) ∧
    ∀ s, start.Reaches v recursive s →
      s.Reaches v recursive final ∧
      s.chain = s.callers.filterMap Caller.location? ∧
      s.chain.Nodup ∧ s.chain.length ≤ v.files.dedup.length ∧
      ∀ again l bytes, s.task = .file again → v.locate again = .ok l → v.readAt l = .ok bytes →
        ((∃ r, s.Returns v recursive ⟨.fileRead (.ok r), s.callers, s.chain⟩) ↔
          Caller.file l ∉ s.callers) := by
  intro start final
  have hfinal : start.Returns v recursive final := by
    have h := file_returns v recursive [] path []
    rwa [← value_load] at h
  have hstart : start.Sound v := ⟨rfl, List.nodup_nil, List.nil_subset _⟩
  have hcalls (s : Walk) : ∃ t, s.Returns v recursive t ∧ t.chain = s.chain ∧
      ∀ u, s.Returns v recursive u → u = t := by
    obtain ⟨t, ht, hchain⟩ := Walk.exists_returns v recursive s
    exact ⟨t, ht, hchain, fun u hu => ht.unique hu⟩
  refine ⟨hfinal.1, rfl, hcalls, fun s hreaches => ?_⟩
  have hs : s.Sound v := hstart.reaches hreaches
  refine ⟨?_, hs.chain_eq, hs.nodup, hs.chain_length_le, ?_⟩
  · rcases Relation.ReflTransGen.total_of_right_unique (Walk.stepsAbove_unique []) hreaches hfinal.1
      with h | h
    · exact h
    · rw [hfinal.eq_of_above h]
      exact .refl
  · intro again l bytes htask hlocate hread
    obtain ⟨task, callers, chain⟩ := s
    cases htask
    have hreturns := file_returns v recursive chain again callers
    rw [value_readChained] at hreturns
    rw [← hs.mem_chain_iff]
    constructor
    · rintro ⟨r, hr⟩ hl
      have hrefused : opened v chain again = .error (.inclusionCycle again) := by
        rw [opened, hlocate]
        exact if_pos (List.contains_iff_mem.mpr hl)
      rw [hrefused] at hreturns
      cases hr.unique hreturns
    · intro hl
      rw [opened_ok_iff.mpr ⟨hlocate, hl, hread⟩] at hreturns
      exact ⟨_, hreturns⟩

end NetNames.NamesFile
