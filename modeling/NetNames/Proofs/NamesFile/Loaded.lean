import NetNames.NamesFile.Inclusion
import NetNames.Proofs.Registry.Canonical

/-! Whatever is read from names files is a canonical registry, however the files include each
other. -/
namespace NetNames.NamesFile

open Registry

variable {r : Registry} {follow : Follow} {source folder path : String}

/-- Files are followed to canonical registries only. -/
def Follow.Sound (follow : Follow) : Prop :=
  ∀ read ∈ follow, ∀ path r, (read path).value = .ok r → r.Canonical

theorem canonical_define (hr : r.Canonical) (source : String) (name body : List Char) :
    (define source r name body).value.Canonical := by
  rw [define]
  split
  · exact hr
  · dsimp only
    rw [Logged.value_bind]
    split <;> exact hr.insert _

theorem canonical_includeFile (hf : follow.Sound) (path : String) (hr : r.Canonical) :
    (includeFile follow path r).value.Canonical := by
  cases follow with
  | none => exact hr
  | some read =>
    simp only [includeFile]
    rw [Logged.value_bind]
    cases hread : (read path).value with
    | error e => exact hr
    | ok included => exact hr.merge (hf read rfl path included hread)

theorem canonical_enter (hf : follow.Sound) (source folder : String) (hr : r.Canonical)
    (b : Block) : (b.enter follow source folder r).value.Canonical := by
  cases b with
  | definition name body => exact canonical_define hr source name body
  | inclusion target => exact canonical_includeFile hf _ hr
  | stray line => exact hr

theorem canonical_readWith (hf : follow.Sound) (source folder : String) (text : List Char) :
    (readWith follow source folder text).value.Canonical := by
  have key : ∀ (blocks : List Block) (r : Registry), r.Canonical →
      (blocks.foldl (fun r b => (b.enter follow source folder r).value) r).Canonical := by
    intro blocks
    induction blocks with
    | nil => exact fun r hr => hr
    | cons b blocks ih => exact fun r hr => ih _ (canonical_enter hf source folder hr b)
  rw [readWith, Logged.value_foldlM]
  exact key _ ∅ canonical_empty

/-- By induction on the files that are not being read yet. -/
theorem canonical_readChained (t : FileView) (recursive : Bool) (chain : List Location)
    (path : String) (r : Registry) (h : (readChained t recursive chain path).value = .ok r) :
    r.Canonical := by
  induction chain, path using readChained.induct t recursive generalizing r with
  | case1 chain path fault hl =>
    rw [readChained, hl] at h
    cases h
  | case2 chain path l hl hc =>
    rw [readChained, hl] at h
    simp only [dif_pos hc] at h
    cases h
  | case3 chain path l hl hc fault hr =>
    rw [readChained, hl] at h
    simp only [dif_neg hc] at h
    split at h
    · cases h
    · rename_i bytes hr'
      cases hr.symm.trans hr'
  | case4 chain path l hl hc bytes hr _ ih =>
    rw [readChained, hl] at h
    simp only [dif_neg hc] at h
    split at h
    · cases h
    · cases h
      refine canonical_readWith ?_ _ _ _
      intro read hread path r hvalue
      split at hread
      · cases hread
        exact ih path r hvalue
      · cases hread

theorem canonical_load {t : FileView} {path : String} {recursive : Bool} {r : Registry}
    (h : (load t path recursive).value = .ok r) : r.Canonical := by
  rw [load, Logged.value_bind, Logged.value_bind] at h
  cases hr : (readChained t recursive [] path).value with
  | error e =>
    rw [hr] at h
    cases h
  | ok found =>
    rw [hr] at h
    cases h
    exact canonical_readChained t recursive [] path r hr

end NetNames.NamesFile
