import NetNames.Classification
import NetNames.Json.Reader
import NetNames.Registry
import NetNames.Sync.Report

/-!
The JSON forms of entries, registries, classifications and reports. A record is read from an
object, whose unknown members are passed over, or from an array with the fields in their order.
-/
namespace NetNames.Json

namespace Value

def text? : Value → Option String
  | .string (some s) => some (String.ofList s)
  | _ => none

def below? (limit : Nat) : Value → Option Nat
  | .whole n => if n < limit then some n else none
  | _ => none

def list? {α : Type} (read : Value → Option α) : Value → Option (List α)
  | .array vs => vs.mapM read
  | _ => none

/-- The members of an object as a map, where the last of several with one name stays. -/
def map? {α : Type} (read : Value → Option α) : Value → Option (Keyed α)
  | .object ms => do
    let es ← ms.mapM fun (k, v) => do return (String.ofList (← k), ← read v)
    return Keyed.ofList es
  | _ => none

end Value

/-- The fields found for a record, in the order of their names, and whether their places told
which is which. -/
structure Found where
  byPlace : Bool
  values : List (Option Value)

/-- A name that comes twice, and an array with too many elements, are refused. -/
def fields? (names : List String) : Value → Option Found
  | .object ms => do
    let ms ← ms.mapM fun (k, v) => do return (String.ofList (← k), v)
    let values ← names.mapM fun name =>
      match ms.filter (·.1 == name) with
      | [] => some none
      | [m] => some (some m.2)
      | _ => none
    return ⟨false, values⟩
  | .array vs =>
    if vs.length ≤ names.length then
      some ⟨true, vs.map some ++ List.replicate (names.length - vs.length) none⟩
    else none
  | _ => none

def countLimit : Nat := 0x10000000000000000

def ofAddress (a : Address) : Value :=
  .record [("host", .text a.host), ("port", .whole a.number.toNat)]

def address? (v : Value) : Option Address := do
  match (← fields? ["host", "port"] v).values with
  | [some host, some number] =>
    return ⟨← host.text?, UInt16.ofNat (← number.below? UInt16.size)⟩
  | _ => none

def ofEntry (e : ServiceEntry) : Value :=
  .record [("name", .text e.name), ("description", .text e.description),
    ("source", .text e.source), ("service", .text e.service),
    ("addresses", .array (e.addresses.map ofAddress))]

/-- An entry is taken as it is written, its service and addresses included. -/
def entry? (v : Value) : Option ServiceEntry := do
  match (← fields? ["name", "description", "source", "service", "addresses"] v).values with
  | [some name, some description, some source, some service, some addresses] =>
    return ⟨← name.text?, ← description.text?, ← source.text?, ← service.text?,
      ← addresses.list? address?⟩
  | _ => none

def ofMap {α : Type} (write : α → Value) (m : Keyed α) : Value :=
  .record (m.entries.map fun e => (e.1, write e.2))

def ofRegistry (r : Registry) : Value := .record [("entries", ofMap ofEntry r.entries)]

def registry? (v : Value) : Option Registry := do
  match (← fields? ["entries"] v).values with
  | [some entries] => return ⟨← entries.map? entry?⟩
  | _ => none

def ofStatus (s : Status) : Value := .text s.text

/-- A state is its name, or an object whose only member has that name and no value. -/
def status? : Value → Option Status
  | .string (some s) => Status.ofText? (String.ofList s)
  | .object [(some s, .null)] => Status.ofText? (String.ofList s)
  | _ => none

def ofClassification (c : Classification) : Value := .record [("states", ofMap ofStatus c.states)]

def classification? (v : Value) : Option Classification := do
  match (← fields? ["states"] v).values with
  | [some states] => return ⟨← states.map? status?⟩
  | _ => none

def ofFailure (f : Failure) : Value :=
  .record [("alias", .text f.name), ("intended", ofStatus f.intended), ("reason", .text f.reason)]

def failure? (v : Value) : Option Failure := do
  match (← fields? ["alias", "intended", "reason"] v).values with
  | [some name, some intended, some reason] =>
    return ⟨← name.text?, ← status? intended, ← reason.text?⟩
  | _ => none

def ofCounts (counts : Status → Option Nat) : Value :=
  .record (Status.all.filterMap fun s => (counts s).map fun n => (s.text, .whole n))

def counts? (v : Value) : Option (Status → Option Nat) := do
  let m ← v.map? (·.below? countLimit)
  if m.keys.all (fun k => (Status.ofText? k).isSome) then some fun s => m.get? s.text else none

/-- The list of failures is left out when it is empty. -/
def ofTally (t : Tally) : Value :=
  .record (("counts", ofCounts t.counts) ::
    if t.failures.isEmpty then [] else [("failures", .array (t.failures.map ofFailure))])

def tally? (v : Value) : Option Tally := do
  match (← fields? ["counts", "failures"] v).values with
  | [some counts, none] => return ⟨← counts? counts, []⟩
  | [some counts, some failures] => return ⟨← counts? counts, ← failures.list? failure?⟩
  | _ => none

def ofReport (r : Sync.Report) : Value :=
  .record [("tally", ofTally r.tally), ("local_count", .whole r.localCount),
    ("mirror_count", .whole r.publishedCount), ("started_at", .text r.startedAt),
    ("completed_at", (r.completedAt.map .text).getD .null)]

def time? : Value → Option (Option String)
  | .null => some none
  | v => some <$> v.text?

/-- The time of completion may be missing from an object, though not from an array. -/
def report? (v : Value) : Option Sync.Report := do
  let found ←
    fields? ["tally", "local_count", "mirror_count", "started_at", "completed_at"] v
  match found.values with
  | [some tally, some localCount, some publishedCount, some startedAt, completedAt] =>
    let completedAt ←
      match completedAt with
      | some v => time? v
      | none => if found.byPlace then none else some none
    return ⟨← tally? tally, ← localCount.below? countLimit, ← publishedCount.below? countLimit,
      ← startedAt.text?, completedAt⟩
  | _ => none

end NetNames.Json
