import NetNames.Log.Line
import NetNames.Server.Session
import NetNames.Sync.Plan

/-!
The steps of a command. A step may show something, change the world and fail; what was shown and
changed before a failure stays.
-/
namespace NetNames

/-- What a run finds around it: files, variables, perhaps a server, and the time. -/
structure World where
  tree : FileTree
  environment : Environment
  server : Option Server
  now : String

inductive Shown where
  | line (s : String)
  | record (r : Record)
deriving DecidableEq, Repr

/-- Why a command failed, each text caused by the next. -/
abbrev Causes := List String

def NamesError.causes (e : NamesError) : Causes :=
  e.message :: match e with
    | .unreadable _ fault => [fault.message]
    | .unwritable fault => [fault.message]
    | _ => []

def DirectoryError.causes (e : DirectoryError) : Causes :=
  e.message :: match e with
    | .emptyValues => ["empty value set for Add"]
    | _ => []

def SettingsError.causes (e : SettingsError) : Causes :=
  e.message :: match e with
    | .unreadable fault => [fault.message]
    | _ => []

def Sync.SyncError.causes (e : SyncError) : Causes :=
  e.message :: match e with
    | .names e => e.causes
    | .directory e => e.causes

structure Progress (α : Type) where
  shown : List Shown
  world : World
  value : Except Causes α

def Action (α : Type) := World → Progress α

namespace Action

variable {α β ε : Type}

instance : Monad Action where
  pure a := fun w => ⟨[], w, .ok a⟩
  bind x f := fun w =>
    match x w with
    | ⟨shown, w, .ok a⟩ => { f a w with shown := shown ++ (f a w).shown }
    | ⟨shown, w, .error e⟩ => ⟨shown, w, .error e⟩

def world : Action World := fun w => ⟨[], w, .ok w⟩
def setTree (tree : FileTree) : Action Unit := fun w => ⟨[], { w with tree }, .ok ()⟩
def setServer (server : Option Server) : Action Unit := fun w => ⟨[], { w with server }, .ok ()⟩
def say (s : String) : Action Unit := fun w => ⟨[.line s], w, .ok ()⟩
def fail (causes : Causes) : Action α := fun w => ⟨[], w, .error causes⟩

/-- A value with the records noted on the way to it. -/
def noted (x : Logged α) : Action α := fun w => ⟨x.log.map .record, w, .ok x.value⟩

/-- Fails with the causes of the error. -/
def orFail (causes : ε → Causes) : Except ε α → Action α
  | .ok a => pure a
  | .error e => fail (causes e)

/-- Fails with a text of its own before the causes of the error. -/
def because (context : String) (causes : ε → Causes) : Except ε α → Action α :=
  orFail fun e => context :: causes e

@[simp] theorem bind_ok {x : Action α} {w v : World} {shown : List Shown} {a : α}
    (h : x w = ⟨shown, v, .ok a⟩) (f : α → Action β) :
    (x >>= f) w = { f a v with shown := shown ++ (f a v).shown } := by
  simp [bind, h]

/-- A failure ends the steps. -/
theorem bind_error {x : Action α} {w v : World} {shown : List Shown} {e : Causes}
    (h : x w = ⟨shown, v, .error e⟩) (f : α → Action β) :
    (x >>= f) w = ⟨shown, v, .error e⟩ := by
  simp [bind, h]

end Action
end NetNames
