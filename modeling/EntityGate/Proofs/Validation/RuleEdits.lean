import EntityGate.Proofs.Json.Values
import EntityGate.Proofs.Validation.RuleMap
import Mathlib.Data.List.Induction
import Mathlib.Data.List.Nodup

/-!
# Rule maps under edits

A rule map tells what was done to it: it holds the fields that were inserted and not removed since,
in the order in which they came in, each with the rules that it was given last. `Tracks` says this
of a map and a sequence of edits; `Tracks.insert` and `Tracks.remove` are its steps. What
`edits_kept_in_order` adds to it is what a removal answers and leaves, and the JSON form, from which
a map is read back if its rules were parted into tokens.
-/

namespace EntityGate

/-- One edit of a rule map. -/
inductive RuleEdit where
  | insert (field : String) (rules : List String)
  | remove (field : String)
  deriving DecidableEq

namespace RuleEdit

/-- The field that an edit is about. -/
def field : RuleEdit → String
  | .insert field _ => field
  | .remove field => field

/-- The map after an edit. -/
def apply (map : RuleMap) : RuleEdit → RuleMap
  | .insert field rules => map.insert field rules
  | .remove field => (map.take field).2

end RuleEdit

/-- The map after edits, from an empty one. -/
def RuleMap.edited (edits : List RuleEdit) : RuleMap := edits.foldl RuleEdit.apply .empty

/-! ## What edits say about a field -/

/-- The rules are those of the last insertion of the field, and no edit of the field follows. -/
def LastGiven (edits : List RuleEdit) (field : String) (rules : List String) : Prop :=
  ∃ past rest, edits = past ++ .insert field rules :: rest ∧ ∀ edit ∈ rest, edit.field ≠ field

/-- Every insertion of the field was followed by a removal of it. -/
def Absent (edits : List RuleEdit) (field : String) : Prop :=
  ∀ past rules rest, edits = past ++ .insert field rules :: rest → .remove field ∈ rest

/-- The field was inserted after the edits `past`, when it was absent, and has not been removed
since. -/
def EntersAfter (edits past : List RuleEdit) (field : String) : Prop :=
  ∃ rules rest, edits = past ++ .insert field rules :: rest ∧ .remove field ∉ rest ∧
    Absent past field

section Histories

variable {edits past : List RuleEdit} {edit : RuleEdit} {field : String} {rules : List String}

/-- An occurrence in a list with one more item at its end is that item, or stands before it. -/
theorem concat_eq_append_cons_iff {α : Type} {items before after : List α} {last item : α} :
    items ++ [last] = before ++ item :: after ↔
      (after = [] ∧ items = before ∧ last = item) ∨
      ∃ others, after = others ++ [last] ∧ items = before ++ item :: others := by
  rcases List.eq_nil_or_concat after with rfl | ⟨others, other, rfl⟩
  · simp
  · have hgroup :
        before ++ item :: (others ++ [other]) = (before ++ item :: others) ++ [other] := by
      simp
    rw [List.concat_eq_append, hgroup]
    constructor
    · intro h
      obtain ⟨hitems, hlast⟩ := List.append_inj' h rfl
      obtain rfl := List.singleton_inj.mp hlast
      exact .inr ⟨others, rfl, hitems⟩
    · rintro (⟨hnil, -⟩ | ⟨found, hfound, rfl⟩)
      · simp at hnil
      · obtain ⟨rfl, hlast⟩ := List.append_inj' hfound rfl
        rw [hlast]

theorem last_given_concat_iff : LastGiven (edits ++ [edit]) field rules ↔
    edit = .insert field rules ∨ LastGiven edits field rules ∧ edit.field ≠ field := by
  constructor
  · rintro ⟨past, rest, hedits, hrest⟩
    rcases concat_eq_append_cons_iff.mp hedits with ⟨rfl, rfl, hedit⟩ | ⟨others, rfl, hothers⟩
    · exact .inl hedit
    · rw [List.forall_mem_append, List.forall_mem_singleton] at hrest
      exact .inr ⟨⟨past, others, hothers, hrest.1⟩, hrest.2⟩
  · rintro (rfl | ⟨⟨past, rest, rfl, hrest⟩, hedit⟩)
    · exact ⟨edits, [], rfl, nofun⟩
    · refine ⟨past, rest ++ [edit], by simp, ?_⟩
      rw [List.forall_mem_append, List.forall_mem_singleton]
      exact ⟨hrest, hedit⟩

theorem absent_concat_iff : Absent (edits ++ [edit]) field ↔
    edit = .remove field ∨ Absent edits field ∧ edit.field ≠ field := by
  constructor
  · intro h
    by_cases hfield : edit.field = field
    · subst hfield
      cases edit with
      | insert field rules => exact (List.not_mem_nil (h edits rules [] rfl)).elim
      | remove field => exact .inl rfl
    · refine .inr ⟨fun past rules rest hedits => ?_, hfield⟩
      have hmem := h past rules (rest ++ [edit]) (by simp [hedits])
      rcases List.mem_append.mp hmem with hmem | hmem
      · exact hmem
      · exact (hfield (List.mem_singleton.mp hmem ▸ rfl)).elim
  · intro h past rules rest hedits
    rcases concat_eq_append_cons_iff.mp hedits with ⟨rfl, rfl, rfl⟩ | ⟨others, rfl, hothers⟩
    · rcases h with h | ⟨-, h⟩
      · cases h
      · exact (h rfl).elim
    · rcases h with rfl | ⟨h, -⟩
      · exact List.mem_append_right _ (List.mem_singleton_self _)
      · exact List.mem_append_left _ (h past rules others hothers)

theorem enters_after_concat_iff : EntersAfter (edits ++ [edit]) past field ↔
    (EntersAfter edits past field ∧ edit ≠ .remove field) ∨
      past = edits ∧ Absent edits field ∧ ∃ rules, edit = .insert field rules := by
  constructor
  · rintro ⟨rules, rest, hedits, hrest, habsent⟩
    rcases concat_eq_append_cons_iff.mp hedits with ⟨rfl, rfl, hedit⟩ | ⟨others, rfl, hothers⟩
    · exact .inr ⟨rfl, habsent, rules, hedit⟩
    · rw [List.mem_append, List.mem_singleton, not_or] at hrest
      exact .inl ⟨⟨rules, others, hothers, hrest.1, habsent⟩, Ne.symm hrest.2⟩
  · rintro (⟨⟨rules, rest, rfl, hrest, habsent⟩, hedit⟩ | ⟨rfl, habsent, rules, rfl⟩)
    · refine ⟨rules, rest ++ [edit], by simp, ?_, habsent⟩
      rw [List.mem_append, List.mem_singleton, not_or]
      exact ⟨hrest, Ne.symm hedit⟩
    · exact ⟨rules, [], rfl, List.not_mem_nil, habsent⟩

/-- A field is absent or has come in at some moment. -/
theorem absent_iff : Absent edits field ↔ ∀ past, ¬EntersAfter edits past field := by
  induction edits using List.reverseRecOn with
  | nil => simp [Absent, EntersAfter]
  | append_singleton edits edit ih =>
      simp only [absent_concat_iff, enters_after_concat_iff, ih, not_or, not_and, not_exists]
      constructor
      · rintro (rfl | ⟨hnone, hfield⟩) past
        · exact ⟨fun _ h => h rfl, fun _ _ _ => nofun⟩
        · exact ⟨fun h => (hnone past h).elim, fun _ _ rules hedit => hfield (hedit ▸ rfl)⟩
      · intro h
        by_cases hremove : edit = .remove field
        · exact .inl hremove
        · have hnone : ∀ past, ¬EntersAfter edits past field := fun past hpast =>
            (h past).1 hpast hremove
          refine .inr ⟨hnone, fun hfield => ?_⟩
          cases edit with
          | insert other rules => exact (h edits).2 rfl hnone rules (hfield ▸ rfl)
          | remove other => exact hremove (hfield ▸ rfl)

theorem EntersAfter.length_lt (h : EntersAfter edits past field) : past.length < edits.length := by
  obtain ⟨rules, rest, rfl, -⟩ := h
  simp

end Histories

/-- The first field came in before the second one did. -/
def CameBefore (edits : List RuleEdit) (earlier later : String) : Prop :=
  ∀ past past', EntersAfter edits past earlier → EntersAfter edits past' later →
    past.length < past'.length

/-- The map holds what is left of the edits, in the order in which it came in. -/
structure Tracks (edits : List RuleEdit) (map : RuleMap) : Prop where
  mem_keys : ∀ field, field ∈ map.keys ↔ ∃ past, EntersAfter edits past field
  order : map.keys.Pairwise (CameBefore edits)
  get : ∀ field rules, map.get? field = some rules ↔ LastGiven edits field rules

namespace Tracks

variable {edits : List RuleEdit} {map : RuleMap}

theorem empty : Tracks [] .empty where
  mem_keys field := by simp [RuleMap.empty, RuleMap.keys, EntersAfter]
  order := List.Pairwise.nil
  get field rules := by simp [RuleMap.empty, RuleMap.get?, LastGiven]

theorem absent_iff (h : Tracks edits map) (field : String) :
    Absent edits field ↔ field ∉ map.keys := by
  rw [EntityGate.absent_iff, h.mem_keys, not_exists]

/-- A field of the map that is still there after one more edit came in when it did before. -/
theorem enters_after (h : Tracks edits map) {field : String} (hfield : field ∈ map.keys)
    {edit : RuleEdit} {past : List RuleEdit} (hpast : EntersAfter (edits ++ [edit]) past field) :
    EntersAfter edits past field := by
  rcases enters_after_concat_iff.mp hpast with ⟨hpast, -⟩ | ⟨-, habsent, -⟩
  · exact hpast
  · exact ((h.absent_iff field).mp habsent hfield).elim

theorem order_concat (h : Tracks edits map) (edit : RuleEdit) :
    map.keys.Pairwise (CameBefore (edits ++ [edit])) :=
  h.order.imp_of_mem fun hearlier hlater hbefore past past' hpast hpast' =>
    hbefore past past' (h.enters_after hearlier hpast) (h.enters_after hlater hpast')

/-- An insertion gives its field new rules, and lets it in at the end if it was absent. -/
theorem insert (h : Tracks edits map) (field : String) (rules : List String) :
    Tracks (edits ++ [.insert field rules]) (map.insert field rules) := by
  have hkeys : (map.insert field rules).keys =
      if field ∈ map.keys then map.keys else map.keys ++ [field] :=
    RuleMap.keys_insert_entry field rules map.entries
  refine ⟨fun name => ?_, ?_, fun name given => ?_⟩
  · have hmem : name ∈ (map.insert field rules).keys ↔ name ∈ map.keys ∨ name = field := by
      rw [hkeys]
      split
      · next hfield => exact ⟨.inl, fun hname => hname.elim id fun heq => heq ▸ hfield⟩
      · rw [List.mem_append, List.mem_singleton]
    simp only [hmem, enters_after_concat_iff, h.absent_iff]
    constructor
    · intro hname
      by_cases hpresent : name ∈ map.keys
      · obtain ⟨past, hpast⟩ := (h.mem_keys name).mp hpresent
        exact ⟨past, .inl ⟨hpast, nofun⟩⟩
      · obtain rfl := hname.resolve_left hpresent
        exact ⟨edits, .inr ⟨rfl, hpresent, rules, rfl⟩⟩
    · rintro ⟨past, ⟨hpast, -⟩ | ⟨-, -, given, hedit⟩⟩
      · exact .inl ((h.mem_keys name).mpr ⟨past, hpast⟩)
      · cases hedit
        exact .inr rfl
  · rw [hkeys]
    split
    · exact h.order_concat _
    · next hfield =>
      refine List.pairwise_append.mpr ⟨h.order_concat _, List.pairwise_singleton _ _, ?_⟩
      intro earlier hearlier later hlater past past' hpast hpast'
      obtain rfl := List.mem_singleton.mp hlater
      -- The new field came in after all edits so far.
      rcases enters_after_concat_iff.mp hpast' with ⟨hold, -⟩ | ⟨rfl, -⟩
      · exact (hfield ((h.mem_keys later).mpr ⟨past', hold⟩)).elim
      · exact (h.enters_after hearlier hpast).length_lt
  · rw [RuleMap.get_insert, last_given_concat_iff, ← h.get]
    by_cases hname : name = field
    · simp [hname, RuleEdit.field]
    · simp [hname, RuleEdit.field, Ne.symm hname]

/-- A removal takes its field out and leaves the others as they stand. -/
theorem remove (h : Tracks edits map) (field : String) :
    Tracks (edits ++ [.remove field]) (map.remove field) := by
  have hkeys : (map.remove field).keys = map.keys.filter (· != field) := by
    rw [RuleMap.keys, RuleMap.entries_remove, RuleMap.keys, List.filter_map]
    rfl
  refine ⟨fun name => ?_, ?_, fun name given => ?_⟩
  · have hother : RuleEdit.remove field ≠ .remove name ↔ name ≠ field := by
      simp [eq_comm]
    simp [hkeys, enters_after_concat_iff, h.mem_keys, hother]
  · rw [hkeys]
    exact (h.order_concat _).filter _
  · rw [RuleMap.get_remove, last_given_concat_iff, ← h.get]
    by_cases hname : name = field
    · simp [hname, RuleEdit.field]
    · simp [hname, RuleEdit.field, Ne.symm hname]

theorem edited (edits : List RuleEdit) : Tracks edits (RuleMap.edited edits) := by
  induction edits using List.reverseRecOn with
  | nil => exact empty
  | append_singleton edits edit ih =>
      rw [RuleMap.edited, List.foldl_append, List.foldl_cons, List.foldl_nil, ← RuleMap.edited]
      cases edit with
      | insert field rules => exact ih.insert field rules
      | remove field =>
          rw [RuleEdit.apply, RuleMap.take_eq]
          exact ih.remove field

end Tracks

/-! ## What a rule map holds -/

/-- A rule list that came out of parting is parted already, and so is every one of such a map. -/
theorem RuleMap.normal_of_normalized {map : RuleMap}
    (h : ∀ entry ∈ map.entries, ∃ texts, entry.2 = Rules.normalize texts) : map.Normal := by
  intro entry hentry
  obtain ⟨texts, htexts⟩ := h entry hentry
  rw [htexts]
  exact Rules.normal_normalize texts

/-- The text of the JSON form is read as the JSON form. -/
theorem RuleMap.read_written (map : RuleMap) :
    Json.readWritten? map.toJson.compact = some map.toJson := by
  have hrules : ∀ field ∈ map.entries.map fun entry => (entry.1, Json.ofStrings entry.2),
      Json.ReadsBack 1 field.2 := by
    intro field hfield
    obtain ⟨entry, -, rfl⟩ := List.mem_map.mp hfield
    refine Json.reads_back_array fun item hitem => ?_
    obtain ⟨text, -, rfl⟩ := List.mem_map.mp hitem
    exact Json.reads_back_string text
  exact Json.read_written (Json.reads_back_object hrules) (by decide)

/-- A rule map keeps its fields apart and in order, whatever was inserted and removed: it holds each
field once; what is found under a field are the rules of its last insertion, if no edit of it
follows; the fields are those that came in and were not removed since, in the order in which they
came in. A removal answers what a lookup does and leaves the other entries as they stand. Every map
whose rules came out of parting into tokens is read back from its JSON form, as a value and as a
text, because parting once more changes nothing. -/
theorem edits_kept_in_order (edits : List RuleEdit) :
    let map := RuleMap.edited edits
    map.keys.Nodup ∧
    (∀ field rules, map.get? field = some rules ↔ ∃ past rest,
      edits = past ++ .insert field rules :: rest ∧ ∀ edit ∈ rest, edit.field ≠ field) ∧
    (∀ field, field ∈ map.keys ↔ ∃ past, EntersAfter edits past field) ∧
    (map.keys.Pairwise fun earlier later => ∀ past past', EntersAfter edits past earlier →
      EntersAfter edits past' later → past.length < past'.length) ∧
    (∀ field, (map.take field).1 = map.get? field ∧
      (map.take field).2.entries = map.entries.filter fun entry => entry.1 != field) ∧
    (∀ other : RuleMap,
      (∀ entry ∈ other.entries, ∃ texts, entry.2 = Rules.normalize texts) →
      RuleMap.ofJson other.toJson = .ok other ∧
        (Json.readWritten? other.toJson.compact).map RuleMap.ofJson = some (.ok other)) ∧
    ∀ texts, Rules.normalize (Rules.normalize texts) = Rules.normalize texts := by
  intro map
  have htracks : Tracks edits map := Tracks.edited edits
  refine ⟨map.nodup, htracks.get, htracks.mem_keys, htracks.order, fun field => ?_,
    fun other hparted => ?_,
    fun texts => Rules.normalize_of_normal (Rules.normal_normalize texts)⟩
  · rw [RuleMap.take_eq]
    exact ⟨rfl, RuleMap.entries_remove map field⟩
  · have hread := RuleMap.of_json_to_json other
    rw [RuleMap.normalized_of_normal (RuleMap.normal_of_normalized hparted)] at hread
    refine ⟨hread, ?_⟩
    rw [RuleMap.read_written, Option.map_some, hread]

/-- A title that comes back after its removal, behind a code whose pattern has a bar. -/
def titleEdits : List RuleEdit := [
  .insert "title" (Rules.normalize ["required|string"]),
  .insert "code" (Rules.normalize ["regex:^(a|b)$"]),
  .remove "title",
  .insert "title" (Rules.normalize [" string | max:10 "])]

/-- The title has its new rules and stands last, and the map is read back. -/
theorem edits_kept_in_order_of_title :
    let map := RuleMap.edited titleEdits
    map.keys = ["code", "title"] ∧ map.get? "title" = some ["string", "max:10"] ∧
      RuleMap.ofJson map.toJson = .ok map := by
  obtain ⟨-, hget, -, -, -, hread, -⟩ := edits_kept_in_order titleEdits
  have hentries : (RuleMap.edited titleEdits).entries =
      [("code", ["regex:^(a|b)$"]), ("title", ["string", "max:10"])] := by decide +kernel
  have hnormal : ∀ entry ∈ (RuleMap.edited titleEdits).entries,
      ∃ texts, entry.2 = Rules.normalize texts := by
    rw [hentries]
    simp only [List.forall_mem_cons]
    exact ⟨⟨["regex:^(a|b)$"], by decide +kernel⟩, ⟨["string|max:10"], by decide +kernel⟩, nofun⟩
  refine ⟨congrArg (List.map Prod.fst) hentries, ?_, (hread _ hnormal).1⟩
  exact (hget "title" ["string", "max:10"]).mpr
    ⟨titleEdits.take 3, [], by decide +kernel, nofun⟩

end EntityGate
