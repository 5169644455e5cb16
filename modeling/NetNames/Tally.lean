import NetNames.Status

/-!
The work of one pass: how many aliases ended in each state, and why the skipped ones failed.
-/
namespace NetNames

/-- An alias whose directory entry was not brought to its intended state. -/
structure Failure where
  name : String
  intended : Status
  reason : String
deriving DecidableEq, Repr

/-- A state that was never counted may have no count at all. -/
structure Tally where
  counts : Status → Option Nat
  failures : List Failure

namespace Tally

@[ext] theorem ext {s t : Tally} (hc : ∀ x, s.counts x = t.counts x)
    (hf : s.failures = t.failures) : s = t := by
  cases s
  cases t
  simp_all [funext_iff]

def empty : Tally := ⟨fun _ => some 0, []⟩

instance : EmptyCollection Tally := ⟨empty⟩
instance : Inhabited Tally := ⟨empty⟩

def count (t : Tally) (s : Status) : Nat := (t.counts s).getD 0

def record (t : Tally) (s : Status) : Tally :=
  { t with counts := fun x => if x = s then some (t.count s + 1) else t.counts x }

/-- Counts a skip and keeps the reason. -/
def recordFailure (t : Tally) (f : Failure) : Tally :=
  { t.record .skip with failures := t.failures ++ [f] }

def total (t : Tally) : Nat := Status.all.foldr (fun s n => t.count s + n) 0
def isConverged (t : Tally) : Bool := t.count .skip == 0

def text (t : Tally) : String :=
  ", ".intercalate (Status.all.map fun s => s.text ++ ": " ++ toString (t.count s))

@[simp] theorem count_empty (s : Status) : (∅ : Tally).count s = 0 := rfl

@[simp] theorem count_record (t : Tally) (s x : Status) :
    (t.record s).count x = t.count x + if x = s then 1 else 0 := by
  by_cases h : x = s
  · subst h
    simp [record, count]
  · simp [record, count, h]

@[simp] theorem count_recordFailure (t : Tally) (f : Failure) (x : Status) :
    (t.recordFailure f).count x = t.count x + if x = .skip then 1 else 0 :=
  count_record t .skip x

theorem total_record (t : Tally) (s : Status) : (t.record s).total = t.total + 1 := by
  cases s <;> simp [total, Status.all] <;> omega

theorem total_recordFailure (t : Tally) (f : Failure) : (t.recordFailure f).total = t.total + 1 :=
  total_record t .skip

end Tally
end NetNames
