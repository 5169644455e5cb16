import NetNames.Log
import NetNames.Text.Class

/-!
Which records are shown. A filter lists levels, each for everything or for the parts of the program
whose path starts with a target; the longest target that fits decides.
-/
namespace NetNames

/-- `none` lets nothing pass. -/
abbrev Threshold := Option Level

structure LogRule where
  target : String
  threshold : Threshold
deriving DecidableEq, Repr

namespace LogRule

open Text

/-- The threshold of a level's name or number. -/
def threshold? (s : List Char) : Option Threshold :=
  match String.ofList (lower s) with
  | "off" | "0" => some none
  | "error" | "1" => some (some .error)
  | "warn" | "2" => some (some .warn)
  | "info" | "3" => some (some .info)
  | "debug" | "4" => some (some .debug)
  | "trace" | "5" => some (some .trace)
  | _ => none

def isTargetChar (c : Char) : Bool := isWord c || c == ':' || c == '-'

/-- A target without a level lets everything pass. -/
def parse? (s : List Char) : Option LogRule :=
  match threshold? s with
  | some t => some ⟨"", t⟩
  | none =>
    let target := String.ofList (s.takeWhile isTargetChar)
    if target == "" then none
    else match s.dropWhile isTargetChar with
      | [] | ['='] => some ⟨target, some .trace⟩
      | '=' :: level => (threshold? level).map (⟨target, ·⟩)
      | _ => none

/-- The path that the records of this library come from. -/
def origin : String := "tnsync_core::"

def applies (r : LogRule) : Bool := r.target.isPrefixOf origin

end LogRule

/-- A filter without rules lets errors pass. -/
structure LogFilter where
  rules : List LogRule
deriving DecidableEq, Repr

namespace LogFilter

/-- The parts of the text between commas; empty ones do not count. -/
def parts (s : String) : List (List Char) := (s.toList.splitOn ',').filter (!·.isEmpty)

/-- The filter of a text whose every part is a rule. -/
def ofText? (s : String) : Option LogFilter := LogFilter.mk <$> (parts s).mapM LogRule.parse?

/-- The filter of the parts that are rules. -/
def ofText (s : String) : LogFilter := ⟨(parts s).filterMap LogRule.parse?⟩

/-- What is said of the parts that are no rules. -/
def ignored (s : String) : List String :=
  ((parts s).filter fun p => (LogRule.parse? p).isNone).map fun p =>
    "ignoring `" ++ String.ofList p ++ "`: invalid filter directive"

/-- Of rules with targets of the same length the last one decides. -/
def threshold (f : LogFilter) : Threshold :=
  if f.rules.isEmpty then some .error
  else
    let better (best : Option LogRule) (r : LogRule) : Option LogRule :=
      match best with
      | some b => if b.target.length ≤ r.target.length then some r else some b
      | none => some r
    ((f.rules.filter LogRule.applies).foldl better none).bind (·.threshold)

def passes (f : LogFilter) (r : Record) : Bool :=
  f.threshold.any fun limit => r.level.rank ≤ limit.rank

end LogFilter
end NetNames
