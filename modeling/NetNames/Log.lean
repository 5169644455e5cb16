/-!
Records of what a run notices, kept in order beside the value it computes.
Dropping the records commutes with every operation, so a statement on values can ignore them.
-/
namespace NetNames

inductive Level where
  | error | warn | info | debug | trace
deriving DecidableEq, Repr

def Level.rank : Level → Nat
  | .error => 1 | .warn => 2 | .info => 3 | .debug => 4 | .trace => 5

/-- The value of a field: bare text, quoted text, a number, a truth value, or quoted text that
may be missing. -/
inductive FieldValue where
  | bare (s : String)
  | quoted (s : String)
  | number (n : Nat)
  | flag (b : Bool)
  | optional (s : Option String)
deriving DecidableEq, Repr

structure Record where
  level : Level
  message : String
  fields : List (String × FieldValue)
deriving DecidableEq, Repr

abbrev Log := List Record

structure Logged (α : Type) where
  value : α
  log : Log

namespace Logged

variable {α β : Type}

instance : Monad Logged where
  pure a := ⟨a, []⟩
  bind x f := ⟨(f x.value).value, x.log ++ (f x.value).log⟩

def note (level : Level) (message : String) (fields : List (String × FieldValue)) : Logged Unit :=
  ⟨(), [⟨level, message, fields⟩]⟩

def tell (log : Log) : Logged Unit := ⟨(), log⟩

@[simp] theorem value_pure (a : α) : (pure a : Logged α).value = a := rfl
@[simp] theorem value_bind (x : Logged α) (f : α → Logged β) :
    (x >>= f).value = (f x.value).value := rfl
@[simp] theorem value_map (f : α → β) (x : Logged α) : (f <$> x).value = f x.value := rfl
@[simp] theorem log_pure (a : α) : (pure a : Logged α).log = [] := rfl
@[simp] theorem log_bind (x : Logged α) (f : α → Logged β) :
    (x >>= f).log = x.log ++ (f x.value).log := rfl

theorem value_foldlM (f : β → α → Logged β) (b : β) (l : List α) :
    (l.foldlM f b).value = l.foldl (fun b a => (f b a).value) b := by
  induction l generalizing b with
  | nil => rfl
  | cons a l ih => simp [ih]

instance : LawfulMonad Logged :=
  LawfulMonad.mk' Logged
    (fun x => by cases x; simp [Functor.map])
    (fun a f => by simp [bind, pure])
    (fun x f g => by simp [bind])

end Logged
end NetNames
