import NetNames.Tally

/-!
The report of a whole pass. The counts of both registries are those before the pass.
-/
namespace NetNames.Sync

structure Report where
  tally : Tally
  localCount : Nat
  publishedCount : Nat
  startedAt : String
  completedAt : Option String

end NetNames.Sync
