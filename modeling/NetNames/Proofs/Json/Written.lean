import NetNames.Proofs.Json.Reading

/-! Both written forms of a value spell it, so both are read back as the value. That holds of the
values that are written at all: their numbers are whole and the texts of their strings are known. -/
namespace NetNames.Json

variable {v : Value} {vs : List Value} {m : Option (List Char) × Value}
  {ms : List (Option (List Char) × Value)} {gap gap' : List Char}

/-- No part of the value lost what was read of it. -/
inductive Value.Plain : Value → Prop where
  | null : Plain .null
  | bool (b : Bool) : Plain (.bool b)
  | whole (n : Nat) : Plain (.whole n)
  | string (s : List Char) : Plain (.string (some s))
  | array {vs : List Value} : (∀ v ∈ vs, Plain v) → Plain (.array vs)
  | object {ms : List (Option (List Char) × Value)} : (∀ m ∈ ms, m.1.isSome = true) →
    (∀ m ∈ ms, Plain m.2) → Plain (.object ms)

/-- Elements in a row, given what is written for each and for those behind it. -/
theorem spells_elements (write : Value → List Char) (more : List Value → List Char)
    (hgap : IsGap gap) (hgap' : IsGap gap') (hnil : more [] = gap' ++ [']'])
    (hcons : ∀ v vs, more (v :: vs) = ',' :: (gap ++ (write v ++ more vs)))
    (hvs : ∀ w ∈ v :: vs, Spells (.value w) (write w)) :
    Spells (.elements (v :: vs)) (gap ++ (write v ++ more vs)) := by
  induction vs generalizing v with
  | nil =>
    rw [hnil]
    exact .element hgap hgap' (hvs v List.mem_cons_self)
  | cons w vs ih =>
    rw [hcons]
    obtain ⟨hv, hvs⟩ := List.forall_mem_cons.mp hvs
    exact .elements hgap hv (ih hvs)

theorem spells_members (write : Value → List Char) (member : _ × Value → List Char)
    (more : List (Option (List Char) × Value) → List Char) {colon : List Char}
    (hgap : IsGap gap) (hcolon : IsGap colon) (hgap' : IsGap gap')
    (hmember : ∀ k v, member (some k, v) = quote k ++ ':' :: (colon ++ write v))
    (hnil : more [] = gap' ++ ['\x7d'])
    (hcons : ∀ m ms, more (m :: ms) = ',' :: (gap ++ (member m ++ more ms)))
    (hnames : ∀ n ∈ m :: ms, n.1.isSome = true)
    (hms : ∀ n ∈ m :: ms, Spells (.value n.2) (write n.2)) :
    Spells (.members (m :: ms)) (gap ++ (member m ++ more ms)) := by
  induction ms generalizing m with
  | nil =>
    obtain ⟨_ | k, v⟩ := m
    · exact absurd (hnames _ List.mem_cons_self) nofun
    · rw [hnil, hmember]
      simpa using Spells.member (k := k) hgap hcolon hgap' (hms _ List.mem_cons_self)
  | cons n ms ih =>
    obtain ⟨_ | k, v⟩ := m
    · exact absurd (hnames _ List.mem_cons_self) nofun
    · obtain ⟨hm, hms⟩ := List.forall_mem_cons.mp hms
      rw [hcons, hmember]
      simpa using Spells.members (k := k) hgap hcolon hm
        (ih (List.forall_mem_cons.mp hnames).2 hms)

theorem Value.Plain.spells_compact (h : v.Plain) : Spells (.value v) (compact v) := by
  induction h with
  | null => exact .null
  | bool b => cases b <;> exact .bool _
  | whole n => exact .whole n
  | string s => exact .string s
  | @array vs _ ih =>
    cases vs with
    | nil => exact .noElements
    | cons v vs =>
      rw [compact]
      exact .array (spells_elements compact compactMore .nil .nil rfl (fun _ _ => rfl) ih)
  | @object ms hnames _ ih =>
    cases ms with
    | nil => exact .noMembers
    | cons m ms =>
      rw [compact]
      exact .object (spells_members compact compactMember compactMembers .nil .nil .nil
        (fun _ _ => rfl) rfl (fun _ _ => rfl) hnames ih)

/-- The blanks of a new line. -/
def indent (level : Nat) : List Char := '\n' :: List.replicate (2 * level) ' '

theorem isGap_indent (level : Nat) : IsGap (indent level) := by
  refine List.forall_mem_cons.mpr ⟨rfl, fun c hc => ?_⟩
  rw [List.eq_of_mem_replicate hc]
  rfl

theorem Value.Plain.spells_indented (h : v.Plain) (level : Nat) :
    Spells (.value v) (indented level v) := by
  have hcolon : IsGap [' '] := List.forall_mem_singleton.mpr rfl
  induction h generalizing level with
  | null => exact .null
  | bool b => cases b <;> exact .bool _
  | whole n => exact .whole n
  | string s => exact .string s
  | @array vs _ ih =>
    cases vs with
    | nil => exact .noElements
    | cons v vs =>
      have hcons (v : Value) (vs : List Value) : indentedMore level (v :: vs) =
          ',' :: (indent (level + 1) ++ (indented (level + 1) v ++ indentedMore level vs)) := by
        rw [indentedMore, List.append_assoc]
        rfl
      rw [indented, List.append_assoc]
      exact .array (spells_elements _ _ (isGap_indent _) (isGap_indent _) rfl hcons
        fun w hw => ih w hw _)
  | @object ms hnames _ ih =>
    cases ms with
    | nil => exact .noMembers
    | cons m ms =>
      have hcons (m : _) (ms : _) : indentedMembers level (m :: ms) = ',' ::
          (indent (level + 1) ++ (indentedMember (level + 1) m ++ indentedMembers level ms)) := by
        rw [indentedMembers, List.append_assoc]
        rfl
      rw [indented, List.append_assoc]
      exact .object (spells_members _ _ _ (isGap_indent _) hcolon (isGap_indent _)
        (fun _ _ => rfl) rfl hcons hnames fun n hn => ih n hn _)

theorem Value.Plain.read?_compactText (h : v.Plain) : read? v.compactText.toList = some v := by
  rw [Value.compactText, String.toList_ofList]
  exact h.spells_compact.read?

theorem Value.Plain.read?_indentedText (h : v.Plain) : read? v.indentedText.toList = some v := by
  rw [Value.indentedText, String.toList_ofList]
  exact (h.spells_indented 0).read?

end NetNames.Json
