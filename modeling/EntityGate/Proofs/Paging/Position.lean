import EntityGate.Paging.Page
import EntityGate.Proofs.Paging.Token
import EntityGate.Proofs.Store.Ordering

/-!
# Positions

A position is the list of values that a row has in the ordering columns. A row comes after it when
it follows in the order that rows are sorted by, as long as no null takes part in the decision: see
`Cursor.holds_branches`. Where the columns order the rows, there are no nulls, and the condition of
coming after a position is the strict order of the rows: see `Cursor.holds_after`.
-/

namespace EntityGate

@[simp] theorem ValueKind.coerce_json (value : Json) : ValueKind.json.coerce value = value := by
  cases value <;> rfl

/-! ## Columns in which two rows compare -/

namespace Row

/-- Both rows hold a value other than null in the column. -/
def bothHold (field : String) (left right : Row) : Bool :=
  !Stored.isMissing (JsonFields.get? left field) && !Stored.isMissing (JsonFields.get? right field)

theorem both_hold_iff {field : String} {left right : Row} :
    bothHold field left right = true ↔ Stored.isMissing (JsonFields.get? left field) = false ∧
      Stored.isMissing (JsonFields.get? right field) = false := by
  simp [bothHold]

/-- The column is no path, and what both rows hold in it compares. -/
structure Comparable (field : String) (left right : Row) : Prop where
  undotted : Identifier.isDotted field = false
  compares : ∀ value other, JsonFields.get? left field = some value →
    JsonFields.get? right field = some other → bothHold field left right = true →
      (Stored.compare? value other).isSome

end Row

/-- The orderings up to the first one that tells two rows apart. -/
def deciding : List OrderTerm → Row → Row → List OrderTerm
  | [], _, _ => []
  | term :: terms, left, right =>
    term :: if compareTerm term left right = .eq then deciding terms left right else []

/-- The rows of an orderable column hold a value each, and these compare. -/
theorem Orderable.comparable_rows {field : String} {held : List Row} {left right : Row}
    (h : Orderable field held) (hleft : left ∈ held) (hright : right ∈ held) :
    Row.Comparable field left right ∧ Row.bothHold field left right = true := by
  obtain ⟨value, other, hvalue, hother, -, -, horder⟩ := h.sort_compare hleft hright
  refine ⟨⟨h.undotted, fun first second hfirst hsecond _ => ?_⟩, ?_⟩
  · obtain rfl := Option.some.inj (hvalue.symm.trans hfirst)
    obtain rfl := Option.some.inj (hother.symm.trans hsecond)
    rw [horder]
    rfl
  · have hcompares : (Stored.compare? value other).isSome := by rw [horder]; rfl
    rw [Row.both_hold_iff, hvalue, hother]
    exact Stored.not_null_of_compares hcompares

/-- A comparison that holds is one of a stored value that compares. -/
theorem Predicate.exists_of_compares {comparison : Comparison} {stored : Option Json}
    {expected : Json} (h : compares comparison stored expected = true) :
    ∃ value, stored = some value ∧ (Stored.compare? value expected).isSome := by
  cases stored with
  | none => cases h
  | some value =>
      refine ⟨value, rfl, ?_⟩
      cases horder : Stored.compare? value expected with
      | none => simp [compares, horder] at h
      | some order => rfl

namespace Cursor

variable {held : List Row} {start row : Row}

/-- The values of a row in the ordering columns. -/
def position (orders : List OrderTerm) (row : Row) : List Json :=
  orders.map fun term => (JsonFields.get? row term.field).getD .null

/-- The cursor that leads on from a row. -/
def onward (orders : List OrderTerm) (row : Row) : Cursor := ⟨position orders row, true⟩

/-! ## Coming after a position -/

/-- A comparison with the value of a row asks for the order of two values in the column, and fails
when one of them is missing. -/
theorem holds_compare {field : String} (h : Row.Comparable field start row)
    (comparison : Comparison) :
    Predicate.holds row
        (.compare field comparison ((JsonFields.get? start field).getD .null) .json) =
      (Row.bothHold field start row && comparison.accepts
        (Stored.sortCompare (start.lookup field) (row.lookup field)).swap) := by
  simp only [Predicate.holds, ValueKind.coerce_json, Row.lookup_of_undotted h.undotted]
  cases hboth : Row.bothHold field start row with
  | true =>
      obtain ⟨hstart, hrow⟩ := Row.both_hold_iff.mp hboth
      obtain ⟨value, hvalue, hpresent⟩ := Stored.exists_of_present hstart
      obtain ⟨other, hother, hopresent⟩ := Stored.exists_of_present hrow
      obtain ⟨order, horder⟩ :=
        Option.isSome_iff_exists.mp (h.compares value other hvalue hother hboth)
      have hswap := Stored.compare_swap value other
      rw [horder, Option.map_some] at hswap
      rw [hvalue, hother, Stored.sort_compare_present hpresent hopresent, horder, Bool.true_and]
      simp only [Predicate.compares, Option.getD_some, ← hswap]
  | false =>
      rw [Bool.false_and]
      cases hcompares : Predicate.compares comparison (JsonFields.get? row field)
          ((JsonFields.get? start field).getD .null) with
      | false => rfl
      | true =>
          obtain ⟨other, hother, hsome⟩ := Predicate.exists_of_compares hcompares
          obtain ⟨hopresent, hpresent⟩ := Stored.not_null_of_compares hsome
          have hheld : Row.bothHold field start row = true :=
            Row.both_hold_iff.mpr ⟨hpresent, by rw [hother]; exact hopresent⟩
          rw [hboth] at hheld
          cases hheld

theorem holds_later {term : OrderTerm} (h : Row.Comparable term.field start row) :
    Predicate.holds row (.compare term.field (strictly term.direction)
      ((JsonFields.get? start term.field).getD .null) .json) =
        (Row.bothHold term.field start row && compareTerm term start row == .lt) := by
  rw [holds_compare h]
  unfold compareTerm
  cases term.direction <;>
    cases Stored.sortCompare (start.lookup term.field) (row.lookup term.field) <;> rfl

theorem holds_same {term : OrderTerm} (h : Row.Comparable term.field start row) :
    Predicate.holds row (.compare term.field .eq
      ((JsonFields.get? start term.field).getD .null) .json) =
        (Row.bothHold term.field start row && compareTerm term start row == .eq) := by
  rw [holds_compare h]
  unfold compareTerm
  cases term.direction <;>
    cases Stored.sortCompare (start.lookup term.field) (row.lookup term.field) <;> rfl

/-- Of the branches one holds when the row satisfies the conditions before them and comes later
in the orderings that are left, and both rows hold a value in each ordering up to the one that
tells them apart. -/
theorem holds_branches {terms : List OrderTerm}
    (h : ∀ term ∈ terms, Row.Comparable term.field start row) (equal : List Predicate) :
    Predicate.holdsSome row (branches equal terms (position terms start)) = true ↔
      Predicate.holdsAll row equal = true ∧ compareRows terms start row = .lt ∧
        ∀ term ∈ deciding terms start row, Row.bothHold term.field start row = true := by
  -- The conditions of equality grow by one ordering in each branch.
  induction terms generalizing equal with
  | nil => simp [branches, Predicate.holdsSome, compareRows]
  | cons term terms ih =>
      have hterm := h term List.mem_cons_self
      have hrest := ih fun other hother => h other (List.mem_cons_of_mem _ hother)
      rw [compare_rows_cons]
      simp only [position, List.map_cons, branches, List.headD_cons, List.tail_cons,
        Predicate.holdsSome, Bool.or_eq_true]
      show (_ ∨ Predicate.holdsSome row (branches _ terms (position terms start)) = true) ↔ _
      simp only [hrest, Predicate.holds_all, Predicate.holds_all_append, Predicate.holdsAll,
        Bool.and_true, holds_later hterm, holds_same hterm, Bool.and_eq_true, beq_iff_eq,
        deciding, List.forall_mem_cons]
      cases compareTerm term start row with
      | lt => simp
      | eq => simp [and_assoc, and_left_comm]
      | gt => simp

/-- A row comes after a position as it follows in the order of the rows, unless a null takes part
in the decision. -/
theorem holds_after_iff {orders : List OrderTerm}
    (h : ∀ term ∈ orders, Row.Comparable term.field start row) :
    Predicate.holds row (after orders (position orders start)) = true ↔
      compareRows orders start row = .lt ∧
        ∀ term ∈ deciding orders start row, Row.bothHold term.field start row = true := by
  rw [after, Predicate.holds_any, holds_branches h, Predicate.holdsAll]
  exact and_iff_right rfl

theorem mem_of_mem_deciding {terms : List OrderTerm} {term : OrderTerm}
    (h : term ∈ deciding terms start row) : term ∈ terms := by
  induction terms with
  | nil => cases h
  | cons first rest ih =>
      rcases List.mem_cons.mp h with rfl | h
      · exact List.mem_cons_self
      · split at h
        · exact List.mem_cons_of_mem _ (ih h)
        · cases h

/-- The condition of coming after a position is the strict order of the rows. -/
theorem holds_after {orders : List OrderTerm} (h : ∀ term ∈ orders, Orderable term.field held)
    (hstart : start ∈ held) (hrow : row ∈ held) :
    Predicate.holds row (after orders (position orders start)) =
      (compareRows orders start row == .lt) := by
  have hcomparable := fun term hterm => (h term hterm).comparable_rows hstart hrow
  rw [Bool.eq_iff_iff, holds_after_iff fun term hterm => (hcomparable term hterm).1, beq_iff_eq]
  exact and_iff_left fun term hterm => (hcomparable term (mem_of_mem_deciding hterm)).2

/-- Values that order rows are scalars, which a token carries when it carries the numbers. -/
theorem carried_of_orderable {field : String} {value : Json} (h : Orderable field held)
    (hnumbers : ∀ number, Json.number number ∈ Row.column field held → number.ReadsBack)
    (hvalue : value ∈ Row.column field held) : value.Carried := by
  have hself := h.comparable value hvalue value hvalue
  cases value with
  | number number => exact hnumbers number hvalue
  | array items => simp [Stored.compare?, Stored.compareNumbers?, Stored.doubleOf?] at hself
  | object fields => simp [Stored.compare?, Stored.compareNumbers?, Stored.doubleOf?] at hself
  | _ => trivial

/-- A position is found again by its token, in either direction. -/
theorem of_token_position {orders : List OrderTerm}
    (h : ∀ term ∈ orders, Orderable term.field held)
    (hnumbers : ∀ term ∈ orders, ∀ number,
      Json.number number ∈ Row.column term.field held → number.ReadsBack) (hrow : row ∈ held)
    (forward : Bool) :
    ofToken? (token ⟨position orders row, forward⟩) = some ⟨position orders row, forward⟩ := by
  refine of_token_token fun value hvalue => ?_
  obtain ⟨term, hterm, rfl⟩ := List.mem_map.mp hvalue
  cases hget : JsonFields.get? row term.field with
  | none => trivial
  | some value =>
      exact carried_of_orderable (h term hterm) (hnumbers term hterm)
        (Orderable.mem_column hrow hget)

end Cursor

end EntityGate
