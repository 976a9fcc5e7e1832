import EntityGate.Paging.Cursor
import EntityGate.Proofs.Json.Values
import EntityGate.Proofs.Text.Base64

/-!
# Tokens of cursors

The token of a cursor gives the cursor back, whatever scalars it holds, as long as the numbers
among them are read back from their written form: see `of_token_token`.
-/

namespace EntityGate

namespace Json

/-- A value that a token carries: no array and no object, and a number only if it is read back from
its written form. -/
def Carried : Json → Prop
  | .array _ | .object _ => False
  | .number value => value.ReadsBack
  | _ => True

theorem Carried.reads_back {value : Json} (h : value.Carried) : ReadsBack 0 value := by
  cases value with
  | null => exact reads_back_null
  | bool value => exact reads_back_bool value
  | string text => exact reads_back_string text
  | number value => exact reads_back_number h
  | array items => exact False.elim h
  | object fields => exact False.elim h

theorem Carried.merge_keys {value : Json} (h : value.Carried) : mergeKeys value = value := by
  cases value with
  | array items => exact False.elim h
  | object fields => exact False.elim h
  | _ => rfl

theorem merge_items_carried {values : List Json} (h : ∀ value ∈ values, value.Carried) :
    mergeItems values = values := by
  induction values with
  | nil => rfl
  | cons value others ih =>
      rw [mergeItems, (h value List.mem_cons_self).merge_keys,
        ih fun other hother => h other (List.mem_cons_of_mem _ hother)]

end Json

namespace Cursor

variable {cursor : Cursor}

/-- A cursor is read from its JSON form. -/
theorem of_json_to_json (h : ∀ value ∈ cursor.values, value.Carried) :
    ofJson? cursor.toJson = some cursor := by
  have hparts : Json.recordParts? ["values", "next"] cursor.toJson =
      some [some (.array (Json.mergeItems cursor.values)), some (.bool cursor.forward)] := rfl
  simp only [ofJson?, hparts, Json.merge_items_carried h, Option.bind_eq_bind, Option.bind_some]

theorem to_json_reads_back (h : ∀ value ∈ cursor.values, value.Carried) :
    Json.ReadsBack 2 cursor.toJson := by
  refine Json.reads_back_object fun field hfield => ?_
  simp only [List.mem_cons, List.not_mem_nil, or_false] at hfield
  rcases hfield with rfl | rfl
  · exact Json.reads_back_array fun value hvalue => (h value hvalue).reads_back
  · exact (Json.reads_back_bool _).mono (Nat.zero_le 1)

/-- The token of a cursor gives the cursor back. -/
theorem of_token_token (h : ∀ value ∈ cursor.values, value.Carried) :
    ofToken? cursor.token = some cursor := by
  have hread : Json.readWritten? cursor.toJson.compact = some cursor.toJson :=
    Json.read_written (to_json_reads_back h) (by decide)
  simp only [ofToken?, token, Base64.trim_encode, Base64.decode_encode, Json.readRecord?,
    Text.decode_encode, String.ofList_toList, hread, of_json_to_json h, Option.bind_eq_bind,
    Option.bind_some, Option.orElse_eq_orElse, Option.orElse_some]

end Cursor

end EntityGate
