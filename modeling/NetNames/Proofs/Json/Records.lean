import Mathlib.Data.List.Nodup
import NetNames.Json.Codec
import NetNames.Proofs.Json.Written

/-! Records, lists and maps as JSON. The fields of a record are found again by their names, which are
distinct, and the keys of a map by their order. So every value that is written is read back, and with
it every value that was read before, from whatever text. -/
namespace NetNames

namespace Keyed
variable {α : Type} {m : Keyed α} {l : List (String × α)} {k : String} {v : α}

theorem ofList_entries (m : Keyed α) : ofList m.entries = m := by
  refine ext fun k => ?_
  have hmerge := get?_merge (∅ : Keyed α) m k
  rwa [get?_empty, Option.or_none] at hmerge

theorem ofList_concat (l : List (String × α)) (e : String × α) :
    ofList (l ++ [e]) = (ofList l).insert e.1 e.2 := by
  rw [ofList, List.foldl_append]
  rfl

theorem mem_of_get?_ofList (h : (ofList l).get? k = some v) : (k, v) ∈ l := by
  induction l using List.reverseRecOn with
  | nil => cases h
  | append_singleton l e ih =>
    rw [ofList_concat, get?_insert] at h
    split at h
    · rename_i hk
      cases h
      simp [hk]
    · exact List.mem_append_left _ (ih h)

theorem get?_ofList_eq_some_iff (h : (l.map (·.1)).Nodup) :
    (ofList l).get? k = some v ↔ (k, v) ∈ l := by
  refine ⟨mem_of_get?_ofList, fun hmem => ?_⟩
  induction l using List.reverseRecOn with
  | nil => cases hmem
  | append_singleton l e ih =>
    rw [List.map_append, List.nodup_append] at h
    obtain ⟨hl, -, hlast⟩ := h
    rw [ofList_concat, get?_insert]
    rcases List.mem_append.mp hmem with hmem | hmem
    · rw [if_neg (hlast k (List.mem_map_of_mem hmem) e.1 (by simp))]
      exact ih hl hmem
    · rw [← List.mem_singleton.mp hmem, if_pos rfl]

end Keyed

namespace Json

variable {α β : Type} {a : α} {as : List α} {v : Value}

private theorem mapM_eq_some {f : α → Option β} {g : α → β} (h : ∀ a ∈ as, f a = some (g a)) :
    as.mapM f = some (as.map g) := by
  induction as with
  | nil => rfl
  | cons a as ih =>
    obtain ⟨ha, has⟩ := List.forall_mem_cons.mp h
    rw [List.mapM_cons, ha, ih has]
    rfl

theorem text?_text (s : String) : (Value.text s).text? = some s := by
  rw [Value.text, Value.text?, String.ofList_toList]

theorem below?_whole {n limit : Nat} (h : n < limit) : (Value.whole n).below? limit = some n :=
  if_pos h

theorem below?_eq_some {n limit : Nat} (h : v.below? limit = some n) : n < limit := by
  cases v with
  | whole m =>
    rw [Value.below?, Option.ite_none_right_eq_some] at h
    cases h.2
    exact h.1
  | _ => cases h

theorem list?_array {read : Value → Option α} {write : α → Value}
    (h : ∀ a ∈ as, read (write a) = some a) :
    (Value.array (as.map write)).list? read = some as := by
  rw [Value.list?, List.mapM_map, mapM_eq_some (f := read ∘ write) (g := id) h, List.map_id]

theorem map?_record {read : Value → Option α} {write : α → Value} {es : List (String × α)}
    (h : ∀ e ∈ es, read (write e.2) = some e.2) :
    (Value.record (es.map fun e => (e.1, write e.2))).map? read = some (.ofList es) := by
  simp only [Value.record, Value.map?, List.map_map, List.mapM_map]
  rw [mapM_eq_some (g := id)]
  · simp
  · intro e he
    simp [h e he]

theorem map?_ofMap {read : Value → Option α} {write : α → Value} {m : Keyed α}
    (h : ∀ a ∈ m.values, read (write a) = some a) : (ofMap write m).map? read = some m := by
  rw [ofMap, map?_record fun e he => h e.2 (List.mem_map_of_mem he), Keyed.ofList_entries]

/-- A name that comes once finds its field. -/
theorem filter_name {ms : List (String × α)} (h : (ms.map (·.1)).Nodup) (name : String) :
    ms.filter (·.1 == name) = ((ms.lookup name).map fun a => (name, a)).toList := by
  induction ms with
  | nil => rfl
  | cons m ms ih =>
    obtain ⟨hm, hms⟩ := List.nodup_cons.mp h
    by_cases hname : m.1 = name
    · subst hname
      have hnone : ms.filter (·.1 == m.1) = [] :=
        List.filter_eq_nil_iff.mpr fun n hn he =>
          hm (List.mem_map.mpr ⟨n, hn, beq_iff_eq.mp he⟩)
      rw [List.filter_cons_of_pos (by simp), hnone, List.lookup_cons, beq_self_eq_true]
      rfl
    · rw [List.filter_cons_of_neg (by simpa using hname), ih hms, List.lookup_cons,
        beq_eq_false_iff_ne.mpr (Ne.symm hname)]

/-- The fields of a record are found by their names, and what is not there is missing. -/
theorem fields?_record {ms : List (String × Value)} (h : (ms.map (·.1)).Nodup)
    (names : List String) :
    fields? names (.record ms) = some ⟨false, names.map fun name => ms.lookup name⟩ := by
  have hms : (ms.map fun m => (some m.1.toList, m.2)).mapM
      (fun (m : Option (List Char) × Value) => do return (String.ofList (← m.1), m.2)) =
        some ms := by
    rw [List.mapM_map, mapM_eq_some (g := id), List.map_id]
    intro m _
    simp
  simp only [Value.record, fields?]
  rw [hms]
  simp only [Option.bind_eq_bind, Option.bind_some]
  rw [mapM_eq_some (g := fun name => ms.lookup name)]
  · rfl
  · intro name _
    rw [filter_name h]
    cases ms.lookup name <;> rfl

theorem address?_ofAddress (a : Address) : address? (ofAddress a) = some a := by
  rw [address?, ofAddress, fields?_record (by simp)]
  simp [List.lookup_cons, text?_text, below?_whole a.number.toNat_lt]

theorem entry?_ofEntry (e : ServiceEntry) : entry? (ofEntry e) = some e := by
  rw [ entry?, ofEntry, fields?_record (by simp)]
  simp [List.lookup_cons, text?_text, list?_array fun a _ => address?_ofAddress a]

theorem registry?_ofRegistry (r : Registry) : registry? (ofRegistry r) = some r := by
  rw [ registry?, ofRegistry, fields?_record (by simp)]
  simp [List.lookup_cons, map?_ofMap fun e _ => entry?_ofEntry e]

theorem status?_ofStatus (s : Status) : status? (ofStatus s) = some s := by
  rw [ofStatus, Value.text, status?, String.ofList_toList, Status.ofText?_text]

theorem classification?_ofClassification (c : Classification) :
    classification? (ofClassification c) = some c := by
  rw [classification?, ofClassification, fields?_record (by simp)]
  simp [List.lookup_cons, map?_ofMap fun s _ => status?_ofStatus s]

theorem failure?_ofFailure (f : Failure) : failure? (ofFailure f) = some f := by
  rw [failure?, ofFailure, fields?_record (by simp)]
  simp [List.lookup_cons, text?_text, status?_ofStatus]

/-! Counts. -/

theorem text_inj {s t : Status} (h : s.text = t.text) : s = t := by
  have hs := Status.ofText?_text s
  rw [h, Status.ofText?_text] at hs
  exact (Option.some.inj hs).symm

/-- The counts that there are, in the order of the states. -/
def countsList (counts : Status → Option Nat) : List (String × Nat) :=
  Status.all.filterMap fun s => (counts s).map fun n => (s.text, n)

theorem exists_of_mem_countsList {counts : Status → Option Nat} {e : String × Nat}
    (h : e ∈ countsList counts) : ∃ s, s.text = e.1 ∧ counts s = some e.2 := by
  obtain ⟨s, -, hs⟩ := List.mem_filterMap.mp h
  obtain ⟨n, hn, rfl⟩ := Option.map_eq_some_iff.mp hs
  exact ⟨s, rfl, hn⟩

theorem mem_countsList {counts : Status → Option Nat} {s : Status} {n : Nat} :
    (s.text, n) ∈ countsList counts ↔ counts s = some n := by
  constructor
  · intro h
    obtain ⟨t, hname, ht⟩ := exists_of_mem_countsList h
    exact text_inj hname ▸ ht
  · intro h
    exact List.mem_filterMap.mpr ⟨s, s.mem_all, by rw [h]; rfl⟩

theorem nodup_countsList (counts : Status → Option Nat) :
    ((countsList counts).map (·.1)).Nodup := by
  rw [countsList, List.map_filterMap]
  refine List.Nodup.filterMap (fun s t name hs ht => ?_) (by decide)
  simp only [Option.map_map, Option.mem_def, Option.map_eq_some_iff] at hs ht
  obtain ⟨_, -, rfl⟩ := hs
  obtain ⟨_, -, hname⟩ := ht
  exact (text_inj hname).symm

theorem ofCounts_eq (counts : Status → Option Nat) :
    ofCounts counts = .record ((countsList counts).map fun e => (e.1, .whole e.2)) := by
  rw [ofCounts, countsList, List.map_filterMap]
  simp only [Option.map_map]
  rfl

/-- The counts fit in 64 bits. -/
def CountsFit (counts : Status → Option Nat) : Prop := ∀ s n, counts s = some n → n < countLimit

theorem counts?_ofCounts {counts : Status → Option Nat} (h : CountsFit counts) :
    counts? (ofCounts counts) = some counts := by
  have hbelow : ∀ e ∈ countsList counts, (Value.whole e.2).below? countLimit = some e.2 := by
    intro e he
    obtain ⟨s, -, hs⟩ := exists_of_mem_countsList he
    exact below?_whole (h s e.2 hs)
  have hknown : (Keyed.ofList (countsList counts)).keys.all
      (fun k => (Status.ofText? k).isSome) = true := by
    refine List.all_eq_true.mpr fun k hk => ?_
    obtain ⟨n, hn⟩ := Option.isSome_iff_exists.mp (Keyed.mem_keys_iff.mp hk)
    obtain ⟨s, rfl, -⟩ := exists_of_mem_countsList (Keyed.mem_of_get?_ofList hn)
    rw [Status.ofText?_text]
    rfl
  rw [counts?, ofCounts_eq, map?_record hbelow]
  simp only [Option.bind_eq_bind, Option.bind_some, hknown, if_true, Option.some.injEq]
  funext s
  refine Option.ext fun n => ?_
  rw [Keyed.get?_ofList_eq_some_iff (nodup_countsList counts), mem_countsList]

def ReportFits (r : Sync.Report) : Prop :=
  CountsFit r.tally.counts ∧ r.localCount < countLimit ∧ r.publishedCount < countLimit

theorem tally?_ofTally {t : Tally} (h : CountsFit t.counts) : tally? (ofTally t) = some t := by
  obtain ⟨counts, failures⟩ := t
  cases failures with
  | nil =>
    rw [tally?, ofTally, fields?_record (by simp)]
    simp [List.lookup_cons, counts?_ofCounts h]
  | cons f fs =>
    rw [tally?, ofTally, fields?_record (by simp)]
    have hfailures : (Value.array ((f :: fs).map ofFailure)).list? failure? = some (f :: fs) :=
      list?_array fun f _ => failure?_ofFailure f
    rw [List.map_cons] at hfailures
    simp [List.lookup_cons, counts?_ofCounts h, hfailures]

theorem time?_of (c : Option String) : time? ((c.map .text).getD .null) = some c := by
  cases c with
  | none => rfl
  | some s => exact congrArg (Option.map some) (text?_text s)

theorem report?_ofReport {r : Sync.Report} (h : ReportFits r) : report? (ofReport r) = some r := by
  obtain ⟨htally, hlocal, hpublished⟩ := h
  rw [report?, ofReport, fields?_record (by simp)]
  simp [List.lookup_cons, tally?_ofTally htally, below?_whole hlocal, below?_whole hpublished,
    text?_text, time?_of]

/-! What is accepted. -/

private theorem exists_of_mem_mapM {f : α → Option β} {bs : List β} (h : as.mapM f = some bs)
    {b : β} (hb : b ∈ bs) : ∃ a ∈ as, f a = some b := by
  induction as generalizing bs with
  | nil =>
    cases h
    cases hb
  | cons a as ih =>
    rw [List.mapM_cons] at h
    obtain ⟨c, hc, h⟩ := Option.bind_eq_some_iff.mp h
    obtain ⟨cs, hcs, h⟩ := Option.bind_eq_some_iff.mp h
    cases h
    rcases List.mem_cons.mp hb with rfl | hb
    · exact ⟨a, List.mem_cons_self, hc⟩
    · obtain ⟨d, hd, hdb⟩ := ih hcs hb
      exact ⟨d, List.mem_cons_of_mem _ hd, hdb⟩

theorem exists_of_map? {read : Value → Option α} {m : Keyed α} {k : String}
    (h : v.map? read = some m) (hk : m.get? k = some a) : ∃ w, read w = some a := by
  cases v with
  | object ms =>
    obtain ⟨es, hes, h⟩ := Option.bind_eq_some_iff.mp h
    cases h
    obtain ⟨⟨name, w⟩, -, hw⟩ := exists_of_mem_mapM hes (Keyed.mem_of_get?_ofList hk)
    obtain ⟨_, -, hw⟩ := Option.bind_eq_some_iff.mp hw
    obtain ⟨_, hread, hw⟩ := Option.bind_eq_some_iff.mp hw
    cases hw
    exact ⟨w, hread⟩
  | _ => cases h

/-- Only counts that fit are accepted. -/
theorem countsFit_of_counts? {counts : Status → Option Nat} (h : counts? v = some counts) :
    CountsFit counts := by
  obtain ⟨m, hm, h⟩ := Option.bind_eq_some_iff.mp h
  rw [Option.ite_none_right_eq_some] at h
  cases h.2
  intro s n hn
  obtain ⟨w, hw⟩ := exists_of_map? hm hn
  exact below?_eq_some hw

theorem countsFit_of_tally? {t : Tally} (h : tally? v = some t) : CountsFit t.counts := by
  obtain ⟨found, -, h⟩ := Option.bind_eq_some_iff.mp h
  split at h
  · obtain ⟨counts, hcounts, h⟩ := Option.bind_eq_some_iff.mp h
    cases h
    exact countsFit_of_counts? hcounts
  · obtain ⟨counts, hcounts, h⟩ := Option.bind_eq_some_iff.mp h
    obtain ⟨failures, -, h⟩ := Option.bind_eq_some_iff.mp h
    cases h
    exact countsFit_of_counts? hcounts
  · cases h

theorem reportFits_of_report? {r : Sync.Report} (h : report? v = some r) : ReportFits r := by
  obtain ⟨found, -, h⟩ := Option.bind_eq_some_iff.mp h
  split at h
  · rename_i tally localCount publishedCount startedAt completedAt _
    have hfields : ∃ c, (do return ⟨← tally? tally, ← localCount.below? countLimit,
        ← publishedCount.below? countLimit, ← startedAt.text?, c⟩ : Option Sync.Report) =
          some r := by
      dsimp only at h
      split at h
      · obtain ⟨c, -, h⟩ := Option.bind_eq_some_iff.mp h
        exact ⟨c, h⟩
      · split at h
        · cases h
        · exact ⟨none, h⟩
    obtain ⟨_, h⟩ := hfields
    obtain ⟨tally, htally, h⟩ := Option.bind_eq_some_iff.mp h
    obtain ⟨localCount, hlocal, h⟩ := Option.bind_eq_some_iff.mp h
    obtain ⟨publishedCount, hpublished, h⟩ := Option.bind_eq_some_iff.mp h
    obtain ⟨startedAt, -, h⟩ := Option.bind_eq_some_iff.mp h
    cases h
    exact ⟨countsFit_of_tally? htally, below?_eq_some hlocal, below?_eq_some hpublished⟩
  · cases h

/-! Written values are plain. -/

theorem plain_text (s : String) : (Value.text s).Plain := .string _

theorem plain_record {ms : List (String × Value)} (h : ∀ m ∈ ms, m.2.Plain) :
    (Value.record ms).Plain := by
  refine .object (fun m hm => ?_) (fun m hm => ?_)
  · obtain ⟨_, -, rfl⟩ := List.mem_map.mp hm
    rfl
  · obtain ⟨n, hn, rfl⟩ := List.mem_map.mp hm
    exact h n hn

theorem plain_array {write : α → Value} (h : ∀ a ∈ as, (write a).Plain) :
    (Value.array (as.map write)).Plain := by
  refine .array fun v hv => ?_
  obtain ⟨a, ha, rfl⟩ := List.mem_map.mp hv
  exact h a ha

theorem plain_ofMap {write : α → Value} {m : Keyed α} (h : ∀ a, (write a).Plain) :
    (ofMap write m).Plain := by
  refine plain_record fun n hn => ?_
  obtain ⟨e, -, rfl⟩ := List.mem_map.mp hn
  exact h e.2

theorem plain_ofAddress (a : Address) : (ofAddress a).Plain := by
  refine plain_record ?_
  simp [plain_text, Value.Plain.whole]

theorem plain_ofEntry (e : ServiceEntry) : (ofEntry e).Plain := by
  refine plain_record ?_
  simp [plain_text, plain_array fun a _ => plain_ofAddress a]

theorem plain_ofRegistry (r : Registry) : (ofRegistry r).Plain :=
  plain_record (List.forall_mem_singleton.mpr (plain_ofMap plain_ofEntry))

theorem plain_ofStatus (s : Status) : (ofStatus s).Plain := plain_text _

theorem plain_ofClassification (c : Classification) : (ofClassification c).Plain :=
  plain_record (List.forall_mem_singleton.mpr (plain_ofMap plain_ofStatus))

theorem plain_ofFailure (f : Failure) : (ofFailure f).Plain := by
  refine plain_record ?_
  simp [plain_text, plain_ofStatus]

theorem plain_ofCounts (counts : Status → Option Nat) : (ofCounts counts).Plain := by
  rw [ofCounts_eq]
  refine plain_record fun n hn => ?_
  obtain ⟨e, -, rfl⟩ := List.mem_map.mp hn
  exact .whole _

theorem plain_ofTally (t : Tally) : (ofTally t).Plain := by
  refine plain_record (List.forall_mem_cons.mpr ⟨plain_ofCounts _, ?_⟩)
  split
  · nofun
  · exact List.forall_mem_singleton.mpr (plain_array fun f _ => plain_ofFailure f)

theorem plain_ofReport (r : Sync.Report) : (ofReport r).Plain := by
  have hcompleted : Value.Plain ((r.completedAt.map .text).getD .null) := by
    cases r.completedAt with
    | none => exact .null
    | some s => exact plain_text s
  refine plain_record ?_
  simp [plain_text, plain_ofTally, hcompleted, Value.Plain.whole]

/-! Texts. -/

/-- The value of the type that a text is read as. -/
def decode (read : Value → Option α) (text : String) : Option α :=
  (read? text.toList).bind read

/-- Both written forms of a value are read as that value. The same goes for a value that was read from
a text of any form, whatever the text had beside it or left out. -/
structure Lossless (write : α → Value) (read : Value → Option α) (fits : α → Prop) : Prop where
  compact : ∀ a, fits a → decode read (write a).compactText = some a
  indented : ∀ a, fits a → decode read (write a).indentedText = some a
  again : ∀ text a, decode read text = some a →
    decode read (write a).compactText = some a ∧ decode read (write a).indentedText = some a

theorem Lossless.of_values {write : α → Value} {read : Value → Option α} {fits : α → Prop}
    (hplain : ∀ a, (write a).Plain) (hread : ∀ a, fits a → read (write a) = some a)
    (hfits : ∀ v a, read v = some a → fits a) : Lossless write read fits := by
  have hcompact : ∀ a, fits a → decode read (write a).compactText = some a := fun a ha => by
    rw [decode, (hplain a).read?_compactText, Option.bind_some, hread a ha]
  have hindented : ∀ a, fits a → decode read (write a).indentedText = some a := fun a ha => by
    rw [decode, (hplain a).read?_indentedText, Option.bind_some, hread a ha]
  refine ⟨hcompact, hindented, fun text a h => ?_⟩
  obtain ⟨v, -, hv⟩ := Option.bind_eq_some_iff.mp h
  exact ⟨hcompact a (hfits v a hv), hindented a (hfits v a hv)⟩

/-- Nothing is lost between the values and their texts, as long as counts fit in 64 bits. -/
theorem records_lossless :
    Lossless ofTally tally? (fun t => CountsFit t.counts) ∧
    Lossless ofReport report? ReportFits ∧
    Lossless ofClassification classification? (fun _ => True) ∧
    Lossless ofRegistry registry? (fun _ => True) ∧
    Lossless ofEntry entry? (fun _ => True) ∧
    Lossless ofAddress address? (fun _ => True) ∧
    Lossless ofStatus status? (fun _ => True) :=
  ⟨.of_values plain_ofTally (fun _ => tally?_ofTally) fun _ _ => countsFit_of_tally?,
    .of_values plain_ofReport (fun _ => report?_ofReport) fun _ _ => reportFits_of_report?,
    .of_values plain_ofClassification (fun c _ => classification?_ofClassification c)
      fun _ _ _ => trivial,
    .of_values plain_ofRegistry (fun r _ => registry?_ofRegistry r) fun _ _ _ => trivial,
    .of_values plain_ofEntry (fun e _ => entry?_ofEntry e) fun _ _ _ => trivial,
    .of_values plain_ofAddress (fun a _ => address?_ofAddress a) fun _ _ _ => trivial,
    .of_values plain_ofStatus (fun s _ => status?_ofStatus s) fun _ _ _ => trivial⟩

/-- A report with a failure, the greatest count and states that were not counted. -/
private def moored : Sync.Report where
  tally :=
    { counts := fun
        | .new => some 0xffffffffffffffff
        | .skip => some 1
        | _ => none
      failures := [⟨"QUAY", .modified, "\"busy\" \\\n\x01é😀"⟩] }
  localCount := 2
  publishedCount := 0
  startedAt := "2024-01-02T03:04:05+00:00"
  completedAt := some "2024-01-02T03:04:06+00:00"

/-- A report with a member that no report has, without failures and not completed. -/
private def drifting : String :=
  "\x7b\"tally\": \x7b\"counts\": \x7b\"new\": 2\x7d\x7d, \"by\": [1.5e3, \x7b\x7d],
    \"local_count\": 2, \"mirror_count\": 0, \"started_at\": \"quay\\u00e9\"\x7d"

theorem moored_lossless :
    CountsFit moored.tally.counts ∧ ReportFits moored ∧
    decode tally? (ofTally moored.tally).compactText = some moored.tally ∧
    decode report? (ofReport moored).indentedText = some moored ∧
    ∃ r, decode report? drifting = some r ∧
      (r.tally.failures, r.tally.counts .new, r.startedAt, r.completedAt) =
        ([], some 2, "quayé", none) ∧
      decode report? (ofReport r).compactText = some r ∧
      decode report? (ofReport r).indentedText = some r := by
  have hbelow : ∀ s ∈ Status.all, ∀ n ∈ moored.tally.counts s, n < countLimit := by decide
  have hcounts : CountsFit moored.tally.counts := fun s n h => hbelow s s.mem_all n h
  have hfits : ReportFits moored := ⟨hcounts, by decide, by decide⟩
  obtain ⟨htally, hreport, -⟩ := records_lossless
  have hread : (decode report? drifting).map
      (fun r => (r.tally.failures, r.tally.counts .new, r.startedAt, r.completedAt)) =
        some ([], some 2, "quayé", none) := by
    decide +kernel
  obtain ⟨r, hr, hfields⟩ := Option.map_eq_some_iff.mp hread
  obtain ⟨hcompact, hindented⟩ := hreport.again drifting r hr
  exact ⟨hcounts, hfits, htally.compact _ hcounts, hreport.indented _ hfits, r, hr, hfields,
    hcompact, hindented⟩

end Json
end NetNames
