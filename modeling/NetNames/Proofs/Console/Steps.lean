import NetNames.Console.Action

/-! Laws of the steps of a command. Steps can be grouped as one likes, what succeeds has succeeded in
every step, and most steps leave the files and the time alone. -/
namespace NetNames.Action
variable {α β γ : Type} {w v : World}

theorem bind_assoc (x : Action α) (f : α → Action β) (g : β → Action γ) :
    x >>= f >>= g = x >>= fun a => f a >>= g := by
  funext w
  rcases hx : x w with ⟨shown, v, e | a⟩
  · rw [bind_error hx, bind_error (bind_error hx f)]
  · rcases hf : f a v with ⟨shown', v', e | b⟩
    · have hxf : (x >>= f) w = ⟨shown ++ shown', v', .error e⟩ := by rw [bind_ok hx, hf]
      rw [bind_error hxf, bind_ok hx, bind_error hf]
    · have hxf : (x >>= f) w = ⟨shown ++ shown', v', .ok b⟩ := by rw [bind_ok hx, hf]
      rw [bind_ok hxf, bind_ok hx, bind_ok hf, List.append_assoc]

theorem world_bind (f : World → Action β) : (world >>= f) w = f w w := rfl

theorem setTree_bind (tree : FileTree) (f : Unit → Action β) :
    (setTree tree >>= f) w = f () { w with tree } := rfl

theorem noted_bind (x : Logged α) (f : α → Action β) : (noted x >>= f) w =
    { f x.value w with shown := x.log.map .record ++ (f x.value w).shown } := rfl

theorem because_bind {ε : Type} (context : String) (causes : ε → Causes) (a : α)
    (f : α → Action β) : because context causes (.ok a) >>= f = f a := rfl

theorem eq_of_value_ok {x : Action α} {a : α} (h : (x w).value = .ok a) :
    x w = ⟨(x w).shown, (x w).world, .ok a⟩ := by
  rw [← h]

theorem exists_of_bind_ok {x : Action α} {f : α → Action β} {b : β}
    (h : ((x >>= f) w).value = .ok b) :
    ∃ a, (x w).value = .ok a ∧ (f a (x w).world).value = .ok b := by
  rcases hx : x w with ⟨shown, v, e | a⟩
  · rw [bind_error hx] at h
    cases h
  · rw [bind_ok hx] at h
    exact ⟨a, rfl, h⟩

theorem eq_ok_of_because {ε : Type} {context : String} {causes : ε → Causes} {x : Except ε α}
    {a : α} (h : (because context causes x w).value = .ok a) : x = .ok a := by
  cases x with
  | error e => cases h
  | ok _ =>
    cases h
    rfl

/-- Steps that leave the files and the time as they are. -/
structure LeavesFiles (x : Action α) : Prop where
  tree : ∀ w, (x w).world.tree = w.tree
  now : ∀ w, (x w).world.now = w.now

theorem LeavesFiles.bind {x : Action α} {f : α → Action β} (hx : x.LeavesFiles)
    (hf : ∀ a, (f a).LeavesFiles) : (x >>= f).LeavesFiles := by
  have hstep (w : World) : ((x >>= f) w).world = (x w).world ∨
      ∃ a, ((x >>= f) w).world = (f a (x w).world).world := by
    rcases hrun : x w with ⟨shown, v, e | a⟩
    · exact .inl (by rw [bind_error hrun])
    · exact .inr ⟨a, by rw [bind_ok hrun]⟩
  constructor <;> intro w <;> rcases hstep w with h | ⟨a, h⟩
  · rw [h, hx.tree]
  · rw [h, (hf a).tree, hx.tree]
  · rw [h, hx.now]
  · rw [h, (hf a).now, hx.now]

theorem leavesFiles_pure (a : α) : (pure a : Action α).LeavesFiles := ⟨fun _ => rfl, fun _ => rfl⟩

theorem leavesFiles_world : world.LeavesFiles := ⟨fun _ => rfl, fun _ => rfl⟩

theorem leavesFiles_noted (x : Logged α) : (noted x).LeavesFiles := ⟨fun _ => rfl, fun _ => rfl⟩

theorem leavesFiles_setServer (server : Option Server) : (setServer server).LeavesFiles :=
  ⟨fun _ => rfl, fun _ => rfl⟩

theorem leavesFiles_because {ε : Type} (context : String) (causes : ε → Causes) (x : Except ε α) :
    (because context causes x).LeavesFiles := by
  cases x <;> exact ⟨fun _ => rfl, fun _ => rfl⟩

end NetNames.Action
