import NetNames.Console.Remote
import NetNames.Proofs.Console.Steps
import NetNames.Proofs.Files.Written
import NetNames.Proofs.NamesFile.Counted
import NetNames.Proofs.Registry.Built
import NetNames.Proofs.Text.Utf8

/-! What an export says and what it leaves in the file. The header counts the entries that are
written, and a reader of the file finds as many aliases, but the message counts all entries of the
registry. The numbers are the same exactly if no published entry is without a descriptor. -/
namespace NetNames.Console

open NetNames.Action Text NamesFile

/-- The registry of what the directory of the configuration publishes, read in a session. -/
def readNames (config : String) : Action Registry := do
  let s ← engine config
  inSession s "failed to read directory entries" (Sync.readPublished s)

/-- Writes the registry and says how many aliases it holds. -/
def writeNames (output : String) (published : Registry) : Action Unit := do
  create output
  let w ← world
  let text ← noted (renderLogged w.now published)
  setTree (← because "failed to write tnsnames file" NamesError.causes
    ((w.tree.write output (encode text.toList)).mapError (.unwritable ∘ .file)))
  say (success s!"Exported {published.size} alias(es) to {output}")

theorem exportTo_eq (config output : String) :
    exportTo config output = readNames config >>= writeNames output := by
  rw [readNames, bind_assoc]
  rfl

variable {config output : String} {v w : World} {r published : Registry} {l : Location}

/-- A session gives what its work in it gives. -/
theorem exists_of_inSession {α : Type} {s : Settings} {context : String}
    {work : Session → Logged (Except Sync.SyncError α × Session)} {a : α}
    (h : (inSession s context work w).value = .ok a) : ∃ session,
      (work session).value.1 = .ok a := by
  obtain ⟨session, -, h⟩ := exists_of_bind_ok h
  obtain ⟨result, hwork, h⟩ := exists_of_bind_ok h
  obtain ⟨-, -, h⟩ := exists_of_bind_ok h
  cases hwork
  exact ⟨session, eq_ok_of_because h⟩

theorem canonical_of_readNames (h : (readNames config w).value = .ok r) : r.Canonical := by
  obtain ⟨s, -, h⟩ := exists_of_bind_ok h
  obtain ⟨session, h⟩ := exists_of_inSession h
  rw [Sync.readPublished, Logged.value_bind] at h
  rcases hread : (Published.read s.layout session).value with ⟨e | found, d⟩
  · rw [hread] at h
    cases h
  · rw [hread] at h
    cases h
    obtain ⟨es, rfl⟩ := Registry.ofEntries_of_read hread
    exact Registry.canonical_ofList _

/-- Reading writes no file. -/
theorem leavesFiles_readNames (config : String) : (readNames config).LeavesFiles := by
  have hload : (loadSettings config).LeavesFiles :=
    leavesFiles_world.bind fun w => (leavesFiles_noted _).bind fun s => leavesFiles_because ..
  have hengine : (engine config).LeavesFiles :=
    hload.bind fun s => (leavesFiles_noted _).bind fun _ => leavesFiles_pure s
  have hsession (s : Settings) : (openSession s).LeavesFiles :=
    (leavesFiles_because ..).bind fun _ => leavesFiles_world.bind fun w =>
      (leavesFiles_noted _).bind fun opened => (leavesFiles_setServer opened.2).bind fun _ =>
        leavesFiles_because ..
  exact hengine.bind fun s => (hsession s).bind fun session => (leavesFiles_noted _).bind
    fun result => (leavesFiles_setServer _).bind fun _ => leavesFiles_because ..

/-- Where a file can be written, the text of the registry is written, and the last thing that is
said is how many aliases the registry holds. -/
theorem writeNames_eq (h : v.tree.target output = .ok l) (r : Registry) :
    let bytes := encode (render v.now r).toList
    writeNames output r v =
      ⟨(renderLogged v.now r).log.map .record ++
          [.line (success s!"Exported {r.size} alias(es) to {output}")],
        { v with tree := (v.tree.put l (.file [])).put l (.file bytes) }, .ok ()⟩ := by
  intro bytes
  have hcreate : create output v = ⟨[], { v with tree := v.tree.put l (.file []) }, .ok ()⟩ := by
    rw [create, world_bind, FileTree.write_of_target h, because_bind]
    rfl
  rw [writeNames, bind_ok hcreate, world_bind, noted_bind, value_renderLogged,
    FileTree.write_of_target (FileTree.target_put h []), Except.mapError, because_bind,
    setTree_bind]
  rfl

/-- An export that could read the directory leaves the text of the registry in its file. -/
theorem exportTo_of_read (hread : (readNames config w).value = .ok published)
    (htarget : w.tree.target output = .ok l) :
    let p := exportTo config output w
    let line := .line (success s!"Exported {published.size} alias(es) to {output}")
    p.value = .ok () ∧ p.world.now = w.now ∧ p.shown.getLast? = some line ∧
    p.world.tree.read output = .ok (encode (render w.now published).toList) := by
  have hquiet := leavesFiles_readNames config
  rw [← hquiet.tree w] at htarget
  have hread := eq_of_value_ok hread
  dsimp only
  rw [exportTo_eq, bind_ok hread, writeNames_eq htarget]
  dsimp only
  rw [hquiet.now, ← List.append_assoc, List.getLast?_concat]
  exact ⟨rfl, rfl, rfl, FileTree.read_write
    (FileTree.write_of_target (FileTree.target_put htarget []) _)⟩

/-- As many aliases are read back as were written. -/
theorem load_exported (hread : (readNames config w).value = .ok published)
    (htarget : w.tree.target output = .ok l) (hstamp : '\n' ∉ w.now.toList)
    (hrenderable : ∀ e ∈ published.toList, hasDescriptor e = true → Renderable e)
    (recursive : Bool) : ∃ again,
      (load (exportTo config output w).world.tree output recursive).value = .ok again ∧
      again.size = (written published).length := by
  obtain ⟨-, -, -, htext⟩ := exportTo_of_read hread htarget
  obtain ⟨follow, hload⟩ := value_load_of_read (v := FileTree.view _) htext recursive
  rw [decodeLossy_encode] at hload
  exact ⟨_, hload, size_readWith_render (canonical_of_readNames hread) hstamp hrenderable _ _ _⟩

/-- An export says how many entries the registry has, with a descriptor or without. Its header
counts those that are written, and as many are read back. -/
theorem exported_counts (hread : (readNames config w).value = .ok published)
    (htarget : w.tree.target output = .ok l) (hstamp : '\n' ∉ w.now.toList)
    (hrenderable : ∀ e ∈ published.toList, hasDescriptor e = true → Renderable e) :
    let p := exportTo config output w
    p.value = .ok () ∧
    p.shown.getLast? = some (.line
      (success s!"Exported {published.size} alias(es) to {output}")) ∧
    (∃ definitions, p.world.tree.read output = .ok (encode
      (header (written published).length w.now ++ definitions).toList)) ∧
    (∀ recursive, ∃ again, (load p.world.tree output recursive).value = .ok again ∧
      again.size = (written published).length) ∧
    published.size = (written published).length + (leftOut published).length ∧
    (published.size = (written published).length ↔
      ∀ e ∈ published.toList, hasDescriptor e = true) := by
  obtain ⟨hvalue, -, hline, htext⟩ := exportTo_of_read hread htarget
  exact ⟨hvalue, hline, ⟨_, htext⟩, load_exported hread htarget hstamp hrenderable,
    size_eq published, size_eq_written_iff⟩

private def dockSettings : String :=
  "[tns]\nfile = \"names\"\n\n[ldap]\nurl = \"ldap://h\"\nbase_dn = \"dc=x\"\n"

private def service (name : String) (descriptors : List String) : DirectoryEntry :=
  ⟨s!"cn={name},cn=OracleContext,dc=x", .ofList [("objectClass", ["orclNetService"]),
    ("cn", [name]), ("orclNetDescString", descriptors)]⟩

/-- A dock with a descriptor and a slip without one. -/
private def piers : DirectoryStore :=
  .ofList [⟨"cn=OracleContext,dc=x", ∅⟩, service "DOCK" ["(SID=d)"], service "SLIP" []]

private def dock : World where
  tree := ⟨["w"], [(["w", "settings"], .file (encode dockSettings.toList))]⟩
  environment := []
  server := some { store := piers }
  now := "2024"

private def dockNames : Registry :=
  .ofList [.define "DOCK" "(SID=d)" "cn=DOCK,cn=OracleContext,dc=x",
    .define "SLIP" "" "cn=SLIP,cn=OracleContext,dc=x"]

private theorem value_readNames_dock : (readNames "settings" dock).value = .ok dockNames := by
  decide +kernel

private theorem target_dock : dock.tree.target "out" = .ok ["w", "out"] := by decide +kernel

private theorem stamp_dock : '\n' ∉ dock.now.toList := by decide

private theorem renderable_dock :
    ∀ e ∈ dockNames.toList, hasDescriptor e = true → Renderable e := by
  decide +kernel

private theorem size_dock : dockNames.size = 2 := by decide +kernel

private theorem written_dock : (written dockNames).length = 1 := by decide +kernel

/-- The slip is left out, so it is not counted in the header and not read back. -/
theorem slip_left_out :
    let p := exportTo "settings" "out" dock
    (readNames "settings" dock).value = .ok dockNames ∧
      dock.tree.target "out" = .ok ["w", "out"] ∧ '\n' ∉ dock.now.toList ∧
      (∀ e ∈ dockNames.toList, hasDescriptor e = true → Renderable e) ∧
      p.shown.getLast? = some (.line (success "Exported 2 alias(es) to out")) ∧
      (∃ definitions, p.world.tree.read "out" =
        .ok (encode (header 1 "2024" ++ definitions).toList)) ∧
      ∀ recursive, ∃ again, (load p.world.tree "out" recursive).value = .ok again ∧
        again.size = 1 := by
  obtain ⟨-, hline, hheader, hload, -⟩ :=
    exported_counts value_readNames_dock target_dock stamp_dock renderable_dock
  rw [size_dock] at hline
  rw [written_dock] at hheader hload
  exact ⟨value_readNames_dock, target_dock, stamp_dock, renderable_dock, hline, hheader,
    hload⟩

/-- The number that an export says can be another than that of the aliases it wrote. -/
theorem not_forall_exported_counts : ¬ ∀ (config output : String) (w : World) (l : Location)
    (published : Registry), (readNames config w).value = .ok published →
    w.tree.target output = .ok l → '\n' ∉ w.now.toList →
    (∀ e ∈ published.toList, hasDescriptor e = true → Renderable e) →
    let p := exportTo config output w
    ∃ n : Nat, p.shown.getLast? = some (.line (success s!"Exported {n} alias(es) to {output}")) ∧
      (∃ definitions, p.world.tree.read output =
        .ok (encode (header n w.now ++ definitions).toList)) ∧
      ∃ again, (load p.world.tree output false).value = .ok again ∧ again.size = n := by
  intro h
  have hp := h "settings" "out" dock ["w", "out"] dockNames value_readNames_dock target_dock
    stamp_dock renderable_dock
  obtain ⟨-, -, hsaid, -⟩ := exportTo_of_read value_readNames_dock target_dock
  obtain ⟨found, hfound, hcount⟩ := load_exported value_readNames_dock target_dock stamp_dock
    renderable_dock false
  dsimp only at hp hsaid
  generalize exportTo "settings" "out" dock = p at hp hsaid hfound
  obtain ⟨n, hline, -, again, hload, hsize⟩ := hp
  cases hload.symm.trans hfound
  rw [written_dock] at hcount
  rw [size_dock, hline, ← hsize, hcount] at hsaid
  exact absurd hsaid (by decide +kernel)

end NetNames.Console
