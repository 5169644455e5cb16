import Mathlib.Logic.Function.Iterate
import NetNames.Proofs.Directory.EntryDn

/-! What lies under a base. Going up from a name cuts at commas that no backslash escapes and trims
what is left, while the subtree scope only looks for the base behind a comma at the end of the name.
The two part where that comma is escaped and where blanks follow it. -/
namespace NetNames.Dn

open Text

variable {e : Bool} {s p r b g k m : List Char} {base dn : String}

/-- Whether the first character after the text is escaped. -/
def escapesFrom (e : Bool) (s : List Char) : Bool := s.foldl (fun e c => c == '\\' && !e) e

def Escapes (s : List Char) : Prop := escapesFrom false s = true

/-- The name is the base, or the base is reached by going up from it. -/
def Under (base dn : String) : Prop := ∃ n : Nat, key (parent^[n] dn) = key base

/-- The base stands at the end of the name, behind a comma that belongs to the value before it. -/
def EscapedAbove (base dn : String) : Prop :=
  ∃ p, keyText dn.toList = p ++ ',' :: keyText base.toList ∧ Escapes p

/-- The base stands at the end of the name, with blanks between it and the comma before it. -/
def SpacedAbove (base dn : String) : Prop :=
  ∃ p g, g ≠ [] ∧ (∀ c ∈ g, isBlank c = true) ∧ ¬ Escapes p ∧
    keyText dn.toList = p ++ ',' :: (g ++ keyText base.toList)

@[simp] theorem escapesFrom_nil (e : Bool) : escapesFrom e [] = e := rfl

@[simp] theorem escapesFrom_cons (e : Bool) (c : Char) (s : List Char) :
    escapesFrom e (c :: s) = escapesFrom (c == '\\' && !e) s := rfl

theorem escapesFrom_append (e : Bool) (p s : List Char) :
    escapesFrom e (p ++ s) = escapesFrom (escapesFrom e p) s := List.foldl_append

/-- Blanks are no escapes. -/
theorem escapesFrom_blank (hg : ∀ c ∈ g, isBlank c = true) (s : List Char) :
    escapesFrom false (g ++ s) = escapesFrom false s := by
  induction g with
  | nil => rfl
  | cons c g ih =>
    obtain ⟨hc, hg⟩ := List.forall_mem_cons.mp hg
    have hne : c ≠ '\\' := by
      rintro rfl
      cases hc
    rw [List.cons_append, escapesFrom_cons, beq_eq_false_iff_ne.mpr hne, Bool.false_and, ih hg]

theorem escapes_append_comma : Escapes (p ++ ',' :: s) ↔ Escapes s := by
  rw [Escapes, escapesFrom_append]
  rfl

theorem escapes_blank_append (hg : ∀ c ∈ g, isBlank c = true) : Escapes (g ++ s) ↔ Escapes s := by
  rw [Escapes, escapesFrom_blank hg, Escapes]

/-- The cut falls on the first comma that is not escaped. -/
theorem cut_append (e : Bool) (p s : List Char) : cut e (p ++ s) =
    match (cut e p).2 with
    | some r => ((cut e p).1, some (r ++ s))
    | none => (p ++ (cut (escapesFrom e p) s).1, (cut (escapesFrom e p) s).2) := by
  induction p generalizing e with
  | nil => rfl
  | cons c p ih =>
    rw [List.cons_append, cut]
    by_cases hc : c = ',' ∧ e = false
    · rw [if_pos hc, cut, if_pos hc]
    · rw [if_neg hc, ih, cut, if_neg hc]
      dsimp only
      cases (cut (c == '\\' && !e) p).2 <;> rfl

theorem cut_comma (s : List Char) : cut false (',' :: s) = ([], some s) := rfl

/-- What a cut leaves stands behind a comma that is not escaped. -/
theorem exists_of_cut (h : (cut e s).2 = some r) :
    ∃ p, s = p ++ ',' :: r ∧ escapesFrom e p = false := by
  induction s generalizing e with
  | nil => cases h
  | cons c s ih =>
    rw [cut] at h
    split at h
    · rename_i hc
      cases h
      exact ⟨[], by rw [hc.1, List.nil_append], hc.2⟩
    · obtain ⟨p, rfl, hp⟩ := ih h
      exact ⟨c :: p, rfl, hp⟩

theorem cut_of_blank (e : Bool) (hg : ∀ c ∈ g, isBlank c = true) : (cut e g).2 = none := by
  induction g generalizing e with
  | nil => rfl
  | cons c g ih =>
    obtain ⟨hc, hg⟩ := List.forall_mem_cons.mp hg
    have hne : c ≠ ',' := by
      rintro rfl
      cases hc
    rw [cut, if_neg fun h => hne h.1]
    exact ih _ hg

theorem above_blank_append (hg : ∀ c ∈ g, isBlank c = true) (s : List Char) :
    above (g ++ s) = above s := by
  have hescapes : escapesFrom false g = false := by
    rw [← List.append_nil g, escapesFrom_blank hg, escapesFrom_nil]
  rw [above, cut_append, cut_of_blank false hg, hescapes]
  rfl

theorem above_append_blank (hg : ∀ c ∈ g, isBlank c = true) (s : List Char) :
    above (s ++ g) = above s := by
  rw [above, above, cut_append]
  cases (cut false s).2 with
  | none => simp [cut_of_blank _ hg]
  | some r => exact trim_append_blank hg r

theorem above_trim (s : List Char) : above (trim s) = above s := by
  obtain ⟨g, hs, hg⟩ := exists_append_trimEnd (trimStart s)
  have hstart : s = s.takeWhile isBlank ++ trimStart s := List.takeWhile_append_dropWhile.symm
  calc above (trim s) = above (trim s ++ g) := (above_append_blank hg _).symm
    _ = above (trimStart s) := by rw [trim, ← hs]
    _ = above (s.takeWhile isBlank ++ trimStart s) :=
        (above_blank_append (fun c hc => List.mem_takeWhile_imp hc) _).symm
    _ = above s := by rw [← hstart]

theorem cut_lower (e : Bool) (s : List Char) :
    cut e (lower s) = (lower (cut e s).1, (cut e s).2.map lower) := by
  induction s generalizing e with
  | nil => rfl
  | cons c s ih =>
    have hcomma : c.toLower = ',' ↔ c = ',' :=
      ⟨eq_of_toLower (.inr rfl), fun h => by rw [h]; rfl⟩
    have hslash : (c.toLower == '\\') = (c == '\\') := by
      rw [Bool.eq_iff_iff, beq_iff_eq, beq_iff_eq]
      exact ⟨eq_of_toLower (.inl rfl), fun h => by rw [h]; rfl⟩
    rw [lower_cons, cut, cut]
    by_cases hc : c = ',' ∧ e = false
    · rw [if_pos hc, if_pos ⟨hcomma.mpr hc.1, hc.2⟩]
      rfl
    · rw [if_neg hc, if_neg fun h => hc ⟨hcomma.mp h.1, h.2⟩, hslash, ih]
      rfl

theorem above_lower (s : List Char) : above (lower s) = lower (above s) := by
  rw [above, cut_lower, above]
  cases (cut false s).2 with
  | none => rfl
  | some r => exact trim_lower r

theorem keyText_keyText (s : List Char) : keyText (keyText s) = keyText s := by
  rw [keyText, keyText, trim_lower, trim_trim, lower_lower]

theorem trim_of_keyText (h : keyText s = s) : trim s = s := by
  rw [← h, keyText, trim_lower, trim_trim]

theorem lower_of_keyText (h : keyText s = s) : lower s = s := by
  rw [← h, keyText, lower_lower]

/-- One step up, between keys. -/
def keyAbove (s : List Char) : List Char := keyText (above s)

theorem semiconj_keyText : Function.Semiconj keyText above keyAbove := by
  intro s
  rw [keyAbove, keyText, keyText, keyText, above_lower, above_trim, trim_lower, lower_lower]

theorem toList_iterate_parent (n : Nat) (dn : String) :
    (parent^[n] dn).toList = above^[n] dn.toList := by
  have hstep : Function.Semiconj String.toList parent above := fun _ => String.toList_ofList
  exact hstep.iterate_right n dn

theorem under_iff : Under base dn ↔
    ∃ n : Nat, keyAbove^[n] (keyText dn.toList) = keyText base.toList := by
  refine exists_congr fun n => ?_
  rw [key, key, String.ofList_inj, toList_iterate_parent,
    semiconj_keyText.iterate_right n dn.toList]

theorem keyAbove_of_cut_eq_none (h : (cut false s).2 = none) : keyAbove s = [] := by
  rw [keyAbove, above, h]
  rfl

theorem iterate_keyAbove_nil (n : Nat) : keyAbove^[n] [] = [] :=
  Function.iterate_fixed rfl n

/-- In a key, what is left above a comma loses nothing but the blanks at its start. -/
theorem keyAbove_append (h : keyText (p ++ ',' :: r) = p ++ ',' :: r)
    (hcut : (cut false (p ++ ',' :: r)).2 = some r) : keyAbove (p ++ ',' :: r) = trimStart r := by
  have hend : trimEnd r = r := by
    have hr := trimEnd_eq_self (trim_of_keyText h)
    rw [trimEnd_append_cons p r (by decide)] at hr
    exact (List.cons.inj (List.append_cancel_left hr)).2
  have hlower : lower r = r := by
    have hr := lower_of_keyText h
    rw [lower_append, lower_cons] at hr
    exact (List.cons.inj (List.append_inj_right hr (List.length_map _))).2
  rw [keyAbove, above, hcut, Option.getD_some, keyText, trim_trim, ← trim_lower, hlower,
    trim_eq_trimStart hend]

/-- The text stands at the end behind an open comma, with nothing but blanks between them. -/
def StandsAbove (k b : List Char) : Prop :=
  ∃ p g, (∀ c ∈ g, isBlank c = true) ∧ ¬ Escapes p ∧ k = p ++ ',' :: (g ++ b)

theorem standsAbove_keyAbove (h : keyText k = k) (hcut : (cut false k).2 = some r) :
    StandsAbove k (keyAbove k) := by
  obtain ⟨p, rfl, hp⟩ := exists_of_cut hcut
  refine ⟨p, r.takeWhile isBlank, fun c hc => List.mem_takeWhile_imp hc, ?_, ?_⟩
  · rw [Escapes, hp]
    decide
  · rw [keyAbove_append h hcut, trimStart, List.takeWhile_append_dropWhile]

theorem StandsAbove.trans (hk : StandsAbove k m) (hm : StandsAbove m b) : StandsAbove k b := by
  obtain ⟨p, g, hg, hp, rfl⟩ := hk
  obtain ⟨q, g', hg', hq, rfl⟩ := hm
  refine ⟨p ++ ',' :: (g ++ q), g', hg', ?_, by simp⟩
  rwa [escapes_append_comma, escapes_blank_append hg]

theorem standsAbove_of_iterate {n : Nat} (hk : keyText k = k) (hb : b ≠ [])
    (h : keyAbove^[n] k = b) : k = b ∨ StandsAbove k b := by
  induction n generalizing k with
  | zero => exact .inl h
  | succ n ih =>
    rw [Function.iterate_succ_apply] at h
    cases hcut : (cut false k).2 with
    | none =>
      rw [keyAbove_of_cut_eq_none hcut, iterate_keyAbove_nil] at h
      exact absurd h.symm hb
    | some r =>
      have habove := standsAbove_keyAbove hk hcut
      rcases ih (keyText_keyText _) h with rfl | hup
      · exact .inr habove
      · exact .inr (habove.trans hup)

/-- Going up passes over every open comma before that of the text. -/
theorem exists_iterate_of_standsAbove (hk : keyText k = k) (hb : keyText b = b)
    (h : StandsAbove k b) : ∃ n : Nat, keyAbove^[n] k = b := by
  obtain ⟨p, g, hg, hp, rfl⟩ := h
  induction hlen : p.length using Nat.strong_induction_on generalizing p with
  | _ len ih =>
    have hcut := cut_append false p (',' :: (g ++ b))
    cases hfirst : (cut false p).2 with
    | none =>
      rw [hfirst, Bool.eq_false_iff.mpr hp, cut_comma] at hcut
      refine ⟨1, ?_⟩
      have habove := keyAbove_append hk (by rw [hcut])
      rw [Function.iterate_one, habove, trimStart, List.dropWhile_append_of_pos hg]
      exact trimStart_eq_self (trim_of_keyText hb)
    | some r =>
      rw [hfirst] at hcut
      obtain ⟨q, rfl, hq⟩ := exists_of_cut hfirst
      rw [List.append_assoc, List.cons_append] at hk hcut ⊢
      have habove := keyAbove_append hk (by rw [hcut])
      rw [trimStart_append_cons r (g ++ b) (x := ',') (by decide)] at habove
      have hr : ¬ Escapes (trimStart r) := by
        rwa [escapes_append_comma, ← List.takeWhile_append_dropWhile (p := isBlank) (l := r),
          escapes_blank_append fun c hc => List.mem_takeWhile_imp hc] at hp
      have hshort : (trimStart r).length < len := by
        have hle : (trimStart r).length ≤ r.length := (List.dropWhile_suffix _).length_le
        simp only [List.length_append, List.length_cons] at hlen
        omega
      obtain ⟨n, hn⟩ := ih _ hshort (trimStart r) hr (habove ▸ keyText_keyText _) rfl
      exact ⟨n + 1, by rw [Function.iterate_succ_apply, habove, hn]⟩

theorem under_iff_standsAbove (hb : keyText base.toList ≠ []) : Under base dn ↔
    keyText dn.toList = keyText base.toList ∨
      StandsAbove (keyText dn.toList) (keyText base.toList) := by
  rw [under_iff]
  constructor
  · rintro ⟨n, hn⟩
    exact standsAbove_of_iterate (keyText_keyText _) hb hn
  · rintro (h | h)
    · exact ⟨0, h⟩
    · exact exists_iterate_of_standsAbove (keyText_keyText _) (keyText_keyText _) h

/-- Going up from any name ends at the blank one. -/
theorem exists_iterate_eq_nil (k : List Char) : ∃ n : Nat, keyAbove^[n] k = [] := by
  induction hlen : k.length using Nat.strong_induction_on generalizing k with
  | _ len ih =>
    by_cases hk : k = []
    · exact ⟨0, hk⟩
    · have hkey : (keyAbove k).length = (trim (above k)).length := List.length_map _
      have htrim := length_trim_le (above k)
      have habove : (above k).length < k.length :=
        Nat.lt_of_not_le fun hle => hk (eq_nil_of_length_above hle)
      obtain ⟨n, hn⟩ := ih _ (by omega) (keyAbove k) rfl
      exact ⟨n + 1, hn⟩

theorem ne_append_comma (p g b : List Char) : b ≠ p ++ ',' :: (g ++ b) := by
  intro h
  have hlen := congrArg List.length h
  simp only [List.length_append, List.length_cons] at hlen
  omega

/-- A text stands behind one comma only. -/
theorem eq_of_append_comma (hg : ∀ c ∈ g, isBlank c = true)
    (h : p ++ ',' :: b = s ++ ',' :: (g ++ b)) : p = s ∧ g = [] := by
  rw [List.append_cons, List.append_cons s, ← List.append_assoc] at h
  have hends := List.append_cancel_right h
  rcases List.eq_nil_or_concat g with rfl | ⟨g', c, rfl⟩
  · rw [List.append_nil] at hends
    exact ⟨List.append_cancel_right hends, rfl⟩
  · rw [List.concat_eq_append, ← List.append_assoc] at hends
    have hc : ',' = c := List.singleton_inj.mp (List.append_inj' hends rfl).2
    have hblank := hg c (by simp)
    rw [← hc] at hblank
    cases hblank

end NetNames.Dn

namespace NetNames.Scope

open Dn Text

variable {base dn : String}

theorem reaches_base_iff : Scope.base.reaches base dn = true ↔ key dn = key base := by
  simp [Scope.reaches, key, String.ofList_inj]

theorem reaches_subtree_iff : Scope.subtree.reaches base dn = true ↔
    keyText dn.toList = keyText base.toList ∨
      ∃ p, keyText dn.toList = p ++ ',' :: keyText base.toList := by
  simp only [Scope.reaches, Bool.or_eq_true, beq_iff_eq, List.isSuffixOf_iff_suffix]
  exact or_congr_right (exists_congr fun p => eq_comm)

theorem under_of_oneLevel (h : Scope.oneLevel.reaches base dn = true) : Under base dn :=
  under_iff.mpr ⟨1, by simpa [Scope.reaches, keyAbove] using h⟩

variable (hb : keyText base.toList ≠ [])
include hb

theorem under_of_spacedAbove (h : SpacedAbove base dn) : Under base dn := by
  obtain ⟨p, g, -, hg, hp, hk⟩ := h
  exact (under_iff_standsAbove hb).mpr (.inr ⟨p, g, hg, hp, hk⟩)

/-- What lies under the base is found unless there are blanks in between. -/
theorem reaches_subtree_of_under (h : Under base dn) :
    Scope.subtree.reaches base dn = true ↔ ¬ SpacedAbove base dn := by
  rw [reaches_subtree_iff]
  constructor
  · rintro hsub ⟨p, g, hne, hg, -, hk⟩
    rcases hsub with heq | ⟨q, hq⟩
    · exact ne_append_comma _ _ _ (heq.symm.trans hk)
    · exact hne (eq_of_append_comma hg (hq.symm.trans hk)).2
  · intro hspace
    rcases (under_iff_standsAbove hb).mp h with heq | ⟨p, g, hg, hp, hk⟩
    · exact .inl heq
    · by_cases hne : g = []
      · exact .inr ⟨p, by rw [hk, hne, List.nil_append]⟩
      · exact absurd ⟨p, g, hne, hg, hp, hk⟩ hspace

/-- What is found lies under the base unless the comma in between is escaped. -/
theorem under_of_reaches_subtree (h : Scope.subtree.reaches base dn = true) :
    Under base dn ↔ ¬ EscapedAbove base dn := by
  rw [under_iff_standsAbove hb]
  rw [reaches_subtree_iff] at h
  constructor
  · rintro hunder ⟨p, hk, hp⟩
    rcases hunder with heq | ⟨q, g, hg, hq, hk'⟩
    · exact ne_append_comma p [] _ (heq.symm.trans hk)
    · rw [(eq_of_append_comma hg (hk.symm.trans hk')).1] at hp
      exact hq hp
  · intro hescaped
    rcases h with heq | ⟨p, hk⟩
    · exact .inl heq
    · refine .inr ⟨p, [], fun c hc => absurd hc List.not_mem_nil, fun hp => ?_, hk⟩
      exact hescaped ⟨p, hk, hp⟩

omit hb

/-- The subtree scope is what lies under the base, itself included, except where the comma before the
base is escaped and where blanks follow that comma; then even an entry one level below is missed.
Every name lies under a blank base, but only a blank one and those that end with a comma are found. -/
theorem subtree_is_under (base dn : String) :
    (key base ≠ "" →
      ((Scope.subtree.reaches base dn = true ↔ Under base dn) ↔
        ¬ EscapedAbove base dn ∧ ¬ SpacedAbove base dn) ∧
      (Scope.oneLevel.reaches base dn = true →
        Under base dn ∧ (Scope.subtree.reaches base dn = true ↔ ¬ SpacedAbove base dn))) ∧
    (key base = "" → Under base dn ∧
      (Scope.subtree.reaches base dn = true ↔
        key dn = "" ∨ ∃ p, keyText dn.toList = p ++ [','])) ∧
    (Scope.base.reaches base dn = true →
      Under base dn ∧ Scope.subtree.reaches base dn = true) := by
  have hkey (s : String) : key s = "" ↔ keyText s.toList = [] :=
    @String.ofList_inj _ []
  refine ⟨fun hb => ?_, fun hb => ?_, fun hbase => ?_⟩
  · rw [Ne, hkey] at hb
    refine ⟨⟨fun hiff => ⟨fun hescaped => ?_, fun hspaced => ?_⟩, ?_⟩, fun hone => ?_⟩
    · obtain ⟨p, hp, -⟩ := id hescaped
      have hsub := reaches_subtree_iff.mpr (.inr ⟨p, hp⟩)
      exact (under_of_reaches_subtree hb hsub).mp (hiff.mp hsub) hescaped
    · have hunder := under_of_spacedAbove hb hspaced
      exact (reaches_subtree_of_under hb hunder).mp (hiff.mpr hunder) hspaced
    · rintro ⟨hescaped, hspaced⟩
      exact ⟨fun hsub => (under_of_reaches_subtree hb hsub).mpr hescaped,
        fun hunder => (reaches_subtree_of_under hb hunder).mpr hspaced⟩
    · have hunder := under_of_oneLevel hone
      exact ⟨hunder, reaches_subtree_of_under hb hunder⟩
  · rw [hkey] at hb
    rw [under_iff, reaches_subtree_iff, hb, hkey]
    exact ⟨exists_iterate_eq_nil _, Iff.rfl⟩
  · have heq := reaches_base_iff.mp hbase
    exact ⟨⟨0, heq⟩, reaches_subtree_iff.mpr (.inl (String.ofList_inj.mp heq))⟩

/-- A blank behind the comma hides an entry from the subtree that it is one level below. -/
theorem spaced_ledge_missed : key "dc=x" ≠ "" ∧
    Scope.oneLevel.reaches "dc=x" "cn=LEDGE, dc=x" = true ∧
    Under "dc=x" "cn=LEDGE, dc=x" ∧ SpacedAbove "dc=x" "cn=LEDGE, dc=x" := by
  have hkey : key "dc=x" ≠ "" := by decide +kernel
  have hone : Scope.oneLevel.reaches "dc=x" "cn=LEDGE, dc=x" = true := by decide +kernel
  have hsub : ¬ Scope.subtree.reaches "dc=x" "cn=LEDGE, dc=x" = true := by decide +kernel
  obtain ⟨hunder, hiff⟩ := ((subtree_is_under "dc=x" "cn=LEDGE, dc=x").1 hkey).2 hone
  exact ⟨hkey, hone, hunder, by_contra fun hspaced => hsub (hiff.mpr hspaced)⟩

/-- Not everything that lies under a base is in its subtree scope, even one level below. -/
theorem not_forall_subtree_is_under : ¬ ∀ base dn : String, base ≠ "" →
    (Scope.subtree.reaches base dn = true ↔ Under base dn) ∧
      (Scope.base.reaches base dn = true ∨ Scope.oneLevel.reaches base dn = true →
        Scope.subtree.reaches base dn = true) := by
  intro h
  have hone : Scope.oneLevel.reaches "dc=x" "cn=LEDGE, dc=x" = true := by decide +kernel
  have hsub : ¬ Scope.subtree.reaches "dc=x" "cn=LEDGE, dc=x" = true := by decide +kernel
  exact hsub ((h "dc=x" "cn=LEDGE, dc=x" (by decide)).2 (.inr hone))

end NetNames.Scope
