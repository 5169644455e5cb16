/-!
A shortest edit script between two lists. The elements kept form a longest common subsequence,
and the elements kept and deleted are the first list, those kept and inserted the second.
-/
namespace NetNames.Patch

inductive Edit (α : Type) where
  | keep (a : α)
  | delete (a : α)
  | insert (a : α)
deriving DecidableEq, Repr

variable {α : Type}

/-- The elements of the first list. -/
def before : List (Edit α) → List α
  | [] => []
  | .keep a :: r => a :: before r
  | .delete a :: r => a :: before r
  | .insert _ :: r => before r

/-- The elements of the second list. -/
def after : List (Edit α) → List α
  | [] => []
  | .keep a :: r => a :: after r
  | .delete _ :: r => after r
  | .insert a :: r => a :: after r

theorem before_map_insert (b : List α) : before (b.map .insert) = [] := by
  induction b <;> simp_all [before]

theorem before_map_delete (a : List α) : before (a.map .delete) = a := by
  induction a <;> simp_all [before]

theorem after_map_insert (b : List α) : after (b.map .insert) = b := by
  induction b <;> simp_all [after]

theorem after_map_delete (a : List α) : after (a.map .delete) = [] := by
  induction a <;> simp_all [after]

variable [DecidableEq α]

/-- For each end of the second list, the length of a longest common subsequence with `x` and what
follows it; `below` holds the lengths without `x`. -/
def row (x : α) : List α → List Nat → List Nat
  | y :: ys, d :: below =>
    let right := row x ys below
    (if x = y then below.headD 0 + 1 else max d (right.headD 0)) :: right
  | _, _ => [0]

/-- One row for each end of the first list, the longest first. -/
def rows (b : List α) : List α → List (List Nat)
  | [] => [List.replicate (b.length + 1) 0]
  | x :: xs =>
    let below := rows b xs
    row x b (below.headD []) :: below

/-- Follows the rows, keeping whatever can be kept. -/
def follow : List α → List α → List (List Nat) → List (Edit α)
  | [], b, _ => b.map .insert
  | a, [], _ => a.map .delete
  | x :: xs, y :: ys, table =>
    if x = y then .keep x :: follow xs ys (table.tail.map List.tail)
    else
      let lengthBelow := (table.tail.headD []).headD 0
      let lengthRight := (table.headD []).tail.headD 0
      if lengthRight ≤ lengthBelow then .delete x :: follow xs (y :: ys) table.tail
      else .insert y :: follow (x :: xs) ys (table.map List.tail)
  termination_by a b => a.length + b.length

def align (a b : List α) : List (Edit α) := follow a b (rows b a)

theorem before_follow (a b : List α) (table : List (List Nat)) : before (follow a b table) = a := by
  fun_induction follow a b table <;>
    simp_all [before, before_map_insert, before_map_delete]

theorem after_follow (a b : List α) (table : List (List Nat)) : after (follow a b table) = b := by
  fun_induction follow a b table <;> simp_all [after, after_map_insert, after_map_delete]

theorem before_align (a b : List α) : before (align a b) = a := before_follow a b _
theorem after_align (a b : List α) : after (align a b) = b := after_follow a b _

end NetNames.Patch
