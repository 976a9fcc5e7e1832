import EntityGate.Proofs.Paging.Position

/-!
# Positions with nulls

Sorting has a place for nulls, behind all values in ascending and before them in descending order.
The condition of coming after a position has none, as a null compares with nothing. In columns of
texts the two agree up to the first null that takes part in the decision: read
`after_follows_text_order`. A row that only a null puts behind another one does not come after its
position: see `null_not_after_text`.
-/

namespace EntityGate

/-- The row holds a text, a null or nothing in the column. -/
def Row.TextAt (field : String) (row : Row) : Prop :=
  ∀ value, JsonFields.get? row field = some value → value.isNull = true ∨ value.text?.isSome = true

/-- Texts compare with each other. -/
theorem Row.TextAt.comparable {field : String} {left right : Row} (hleft : left.TextAt field)
    (hright : right.TextAt field) (hundotted : Identifier.isDotted field = false) :
    Row.Comparable field left right := by
  refine ⟨hundotted, fun value other hvalue hother hboth => ?_⟩
  rw [Row.both_hold_iff, hvalue, hother] at hboth
  obtain ⟨hpresent, hopresent⟩ := hboth
  have htext : value.text?.isSome = true :=
    (hleft value hvalue).resolve_left (by simpa [Stored.isMissing] using hpresent)
  have htext' : other.text?.isSome = true :=
    (hright other hother).resolve_left (by simpa [Stored.isMissing] using hopresent)
  cases value with
  | string text =>
      cases other with
      | string text' => rfl
      | _ => cases htext'
  | _ => cases htext

/-- In columns of texts a row comes after the position of another one exactly if it stands behind
it in the order of sorting, and both hold a text in each ordering up to the one that tells them
apart. -/
theorem after_follows_text_order (orders : List OrderTerm) (start row : Row)
    (hundotted : ∀ term ∈ orders, Identifier.isDotted term.field = false)
    (htexts : ∀ term ∈ orders, start.TextAt term.field ∧ row.TextAt term.field) :
    Predicate.holds row (Cursor.after orders (Cursor.position orders start)) = true ↔
      compareRows orders start row = .lt ∧
        ∀ term ∈ deciding orders start row, Row.bothHold term.field start row = true :=
  Cursor.holds_after_iff fun term hterm =>
    (htexts term hterm).1.comparable (htexts term hterm).2 (hundotted term hterm)

/-- A null behind the ordering that tells two rows apart does not matter. -/
theorem after_title_beside_null :
    let orders : List OrderTerm := [⟨"title", .ascending⟩, ⟨"note", .descending⟩]
    let start : Row := [("title", .string "a"), ("note", .null)]
    let row : Row := [("title", .string "b")]
    Predicate.holds row (Cursor.after orders (Cursor.position orders start)) = true := by
  intro orders start row
  have hfields : ∀ term ∈ orders, term.field = "title" ∨ term.field = "note" := by decide
  refine (after_follows_text_order orders start row (by decide +kernel) ?_).mpr
    ⟨by decide +kernel, by decide +kernel⟩
  intro term hterm
  rcases hfields term hterm with hfield | hfield <;> rw [hfield]
  · exact ⟨fun value hvalue => .inr (Option.some.inj hvalue ▸ rfl),
      fun value hvalue => .inr (Option.some.inj hvalue ▸ rfl)⟩
  · exact ⟨fun value hvalue => .inl (Option.some.inj hvalue ▸ rfl),
      fun value hvalue => nomatch hvalue⟩

/-- A null behind a text in ascending order, a text behind a null in descending order, and a row
behind another one with a null in the same column: none of them comes after the position. -/
theorem null_not_after_text :
    let follows (orders : List OrderTerm) (start row : Row) : Prop :=
      compareRows orders start row = .lt ∧
        Predicate.holds row (Cursor.after orders (Cursor.position orders start)) = false
    follows [⟨"title", .ascending⟩] [("title", .string "x")] [("title", .null)] ∧
      follows [⟨"title", .descending⟩] [("title", .null)] [("title", .string "x")] ∧
      follows [⟨"title", .ascending⟩, ⟨"id", .ascending⟩] [("id", .string "a")]
        [("id", .string "b")] := by
  decide +kernel

end EntityGate
