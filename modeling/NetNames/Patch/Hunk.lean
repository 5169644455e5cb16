import NetNames.Patch.Alignment
import NetNames.Text.Lines

/-!
Unified patches. Changes with few common lines between them share a hunk, which shows three common
lines around them; in a change the deletions come first.
-/
namespace NetNames.Patch

open Text

abbrev Line := List Char

/-- A change and the common lines before it. -/
structure Block where
  common : List Line
  deleted : List Line
  inserted : List Line
deriving DecidableEq, Repr

/-- The blocks of an edit script and the common lines after the last one. -/
def blocks : List (Edit Line) → List Block × List Line
  | [] => ([], [])
  | .keep a :: r =>
    match blocks r with
    | ([], rest) => ([], a :: rest)
    | (b :: bs, rest) => ({ b with common := a :: b.common } :: bs, rest)
  | .delete a :: r => change (fun b => { b with deleted := a :: b.deleted }) (blocks r)
  | .insert a :: r => change (fun b => { b with inserted := a :: b.inserted }) (blocks r)
where
  /-- Adds to the first block if no common line stands before it. -/
  change (add : Block → Block) (found : List Block × List Line) : List Block × List Line :=
    match found with
    | (b :: bs, rest) =>
      if b.common.isEmpty then (add b :: bs, rest) else (add ⟨[], [], []⟩ :: b :: bs, rest)
    | ([], rest) => ([add ⟨[], [], []⟩], rest)

/-- Lines from `oldStart` on in the first text become lines from `newStart` on in the second. -/
structure Hunk where
  oldStart : Nat
  newStart : Nat
  lines : List (Edit Line)
deriving DecidableEq, Repr

def contextSize : Nat := 3

def Block.edits (b : Block) : List (Edit Line) :=
  b.common.map .keep ++ b.deleted.map .delete ++ b.inserted.map .insert

/-- Whether a change joins the hunk of the change before it. If it only adds lines at the end of
the text, one more common line may stand between them. -/
def joins (b : Block) (atEnd : Bool) : Bool :=
  b.common.length < 2 * contextSize ||
    (b.common.length == 2 * contextSize && b.deleted.isEmpty && atEnd)

/-- The blocks that continue a hunk, and those that start others. -/
def spanHunk (rest : List Line) : List Block → List Block × List Block
  | [] => ([], [])
  | b :: bs =>
    if joins b (bs.isEmpty && rest.isEmpty) then
      let (more, others) := spanHunk rest bs
      (b :: more, others)
    else ([], b :: bs)

theorem length_spanHunk (rest : List Line) (bs : List Block) :
    (spanHunk rest bs).2.length ≤ bs.length := by
  induction bs with
  | nil => simp [spanHunk]
  | cons b bs ih =>
    rw [spanHunk]
    split
    · simp only [List.length_cons]
      omega
    · simp

/-- The hunks of blocks that start after `old` and `new` lines of the two texts. -/
def hunks (rest : List Line) (old new : Nat) : List Block → List Hunk
  | [] => []
  | b :: bs =>
    let span := spanHunk rest bs
    let skipped := b.common.length - contextSize
    let first : Block := { b with common := b.common.drop skipped }
    let following := (span.2.head?.map (·.common)).getD rest
    let changed := (first :: span.1).flatMap Block.edits
    let hunk : Hunk :=
      ⟨old + skipped, new + skipped, changed ++ (following.take contextSize).map .keep⟩
    hunk :: hunks rest (old + skipped + (before changed).length)
      (new + skipped + (after changed).length) span.2
  termination_by bs => bs.length
  decreasing_by exact Nat.lt_succ_of_le (length_spanHunk rest bs)

/-- A start and a length; the length is left out when it is one, and the start counts from one
unless there are no lines. -/
def rangeText (start length : Nat) : String :=
  let start := toString (if length = 0 then start else start + 1)
  if length = 1 then start else start ++ "," ++ toString length

/-- A line with its sign. An empty common line has none, and a line without an ending is marked. -/
def lineText (sign : Char) (l : Line) : List Char :=
  let marked := if sign == ' ' && l == ['\n'] then l else sign :: l
  if l.getLast? == some '\n' then marked
  else marked ++ "\n\\ No newline at end of file\n".toList

def editText : Edit Line → List Char
  | .keep l => lineText ' ' l
  | .delete l => lineText '-' l
  | .insert l => lineText '+' l

def Hunk.text (h : Hunk) : List Char :=
  let oldRange := rangeText h.oldStart (before h.lines).length
  let newRange := rangeText h.newStart (after h.lines).length
  ("@@ -" ++ oldRange ++ " +" ++ newRange ++ " @@\n").toList ++ h.lines.flatMap editText

/-- The patch that turns the first text into the second. -/
def text (old new : String) : String :=
  let (bs, rest) := blocks (align (cutLines old.toList) (cutLines new.toList))
  String.ofList ("--- original\n+++ modified\n".toList ++ (hunks rest 0 0 bs).flatMap Hunk.text)

end NetNames.Patch
