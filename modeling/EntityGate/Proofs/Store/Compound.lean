import EntityGate.Library.Bundled
import EntityGate.Proofs.Number.Integers
import EntityGate.Proofs.Store.Comparison
import EntityGate.Store.Matching

/-!
# Predicates made of comparisons

What a list, a range and an inequality mean in terms of single comparisons: see
`compound_predicates_hold`. A list is matched by loose equality, which takes equal values for equal
without comparing them; for texts, numbers and truth values this makes no difference:
`Stored.loose_eq_iff`.
-/

namespace EntityGate

/-- The value is a text, a number or a truth value. -/
def Json.IsAtom : Json → Prop
  | .string _ | .number _ | .bool _ => True
  | .null | .array _ | .object _ => False

namespace ValueKind

theorem integer_of_atom {chars : List Char} {value : Json} (h : integerOf? chars = some value) :
    value.IsAtom := by
  obtain ⟨integer, -, rfl⟩ := Option.map_eq_some_iff.mp h
  trivial

theorem number_of_atom {chars : List Char} {value : Json} (h : numberOf? chars = some value) :
    value.IsAtom := by
  unfold numberOf? at h
  split at h
  · next hinteger =>
    cases h
    exact integer_of_atom hinteger
  · split at h
    · split at h <;> cases h
      trivial
    · cases h

theorem boolean_of_atom {chars : List Char} {value : Json} (h : booleanOf? chars = some value) :
    value.IsAtom := by
  unfold booleanOf? at h
  split at h <;> cases h <;> trivial

/-- Coercion makes an atom of an atom. -/
theorem coerce_atom {value : Json} (h : value.IsAtom) (kind : ValueKind) :
    (kind.coerce value).IsAtom := by
  cases value with
  | null | array | object => exact h.elim
  | bool | number => trivial
  | string written =>
      have hread {read : Option Json} (hread : ∀ value, read = some value → value.IsAtom) :
          (read.getD (.string written)).IsAtom := by
        cases read with
        | none => trivial
        | some value => exact hread value rfl
      cases kind with
      | integer => exact hread fun _ => integer_of_atom
      | number => exact hread fun _ => number_of_atom
      | boolean => exact hread fun _ => boolean_of_atom
      | text | date | dateTime | json => trivial

end ValueKind

/-- Equal numbers are the same double, and this is a number. -/
theorem JsonNumber.compare_of_same_value {stored expected : JsonNumber}
    (h : stored.sameValue expected = true) :
    stored.toDouble.compare? expected.toDouble = some .eq := by
  cases stored <;> cases expected <;> simp [JsonNumber.sameValue] at h
  · simp [toDouble, h, Binary64.compare_of_int]
  · simpa [toDouble, Binary64.numEq] using h

namespace Stored

/-- A value equals an atom only if it compares equal with it. -/
theorem compare_of_same_value {stored expected : Json} (hatom : expected.IsAtom)
    (h : stored.sameValue expected = true) : compare? stored expected = some .eq := by
  cases expected with
  | null | array | object => exact hatom.elim
  | string text =>
      cases stored <;> simp [Json.sameValue] at h
      simp [compare?, h]
  | bool truth =>
      cases stored <;> simp [Json.sameValue] at h
      simp [compare?, h]
  | number amount =>
      cases stored <;> simp [Json.sameValue] at h
      next other => exact JsonNumber.compare_of_same_value h

/-- With an atom, loose equality is equality in comparison. -/
theorem loose_eq_iff {stored expected : Json} (hatom : expected.IsAtom) :
    looseEq stored expected = true ↔ compare? stored expected = some .eq := by
  rw [looseEq, Bool.or_eq_true, beq_iff_eq]
  exact or_iff_left_of_imp (compare_of_same_value hatom)

end Stored

namespace Predicate

section

variable [Libraries] {row : Row} {field : String} {kind : ValueKind}

/-- A comparison holds of a value that is there and compares as asked. -/
theorem test_compare_iff {comparison : Comparison} {value : Json} :
    test row (.compare field comparison value kind) = .ok true ↔
      ∃ stored order, row.lookup field = some stored ∧
        Stored.compare? stored (kind.coerce value) = some order ∧
        comparison.accepts order = true := by
  simp only [test, Except.ok.injEq, compares]
  cases row.lookup field with
  | none => simp
  | some stored =>
      cases horder : Stored.compare? stored (kind.coerce value) with
      | none => simp [horder]
      | some order => simp [horder]

/-- A list is matched by what equals one of its atoms. -/
theorem test_one_of_iff {values : List Json} (hatoms : ∀ value ∈ values, value.IsAtom) :
    test row (.oneOf field values kind) = .ok true ↔
      ∃ value ∈ values, test row (.compare field .eq value kind) = .ok true := by
  simp only [test_compare_iff, Comparison.accepts, beq_iff_eq]
  rw [test]
  cases hlookup : row.lookup field with
  | none => simp
  | some stored =>
      rw [Except.ok.injEq, List.any_eq_true]
      refine exists_congr fun value => and_congr_right fun hvalue => ?_
      rw [Stored.loose_eq_iff (ValueKind.coerce_atom (hatoms value hvalue) kind)]
      simp

/-- A range is matched by what is not below the one bound and not above the other. -/
theorem test_between_iff {low high : Json} :
    test row (.between field low high kind) = .ok true ↔
      test row (.compare field .gte low kind) = .ok true ∧
        test row (.compare field .lte high kind) = .ok true := by
  simp only [test_compare_iff]
  rw [test]
  cases row.lookup field with
  | none => simp
  | some stored => simp [Option.any_eq_true, Comparison.accepts]

/-- Equality and inequality do not hold together. -/
theorem not_both_hold {value : Json} (heq : test row (.compare field .eq value kind) = .ok true)
    (hneq : test row (.compare field .neq value kind) = .ok true) : False := by
  obtain ⟨stored, order, hstored, horder, haccepts⟩ := test_compare_iff.mp heq
  obtain ⟨stored', order', hstored', horder', haccepts'⟩ := test_compare_iff.mp hneq
  cases hstored.symm.trans hstored'
  cases horder.symm.trans horder'
  obtain rfl : order = .eq := beq_iff_eq.mp haccepts
  cases haccepts'

/-- One of equality and inequality holds as soon as the value compares at all. -/
theorem eq_or_neq_iff {value : Json} :
    test row (.compare field .eq value kind) = .ok true ∨
        test row (.compare field .neq value kind) = .ok true ↔
      ∃ stored, row.lookup field = some stored ∧
        (Stored.compare? stored (kind.coerce value)).isSome := by
  simp only [test_compare_iff]
  constructor
  · rintro (⟨stored, order, hstored, horder, -⟩ | ⟨stored, order, hstored, horder, -⟩) <;>
      exact ⟨stored, hstored, by rw [horder]; rfl⟩
  · rintro ⟨stored, hstored, hcompares⟩
    obtain ⟨order, horder⟩ := Option.isSome_iff_exists.mp hcompares
    by_cases heq : order = .eq
    · exact .inl ⟨stored, order, hstored, horder, by simp [Comparison.accepts, heq]⟩
    · exact .inr ⟨stored, order, hstored, horder, by simp [Comparison.accepts, heq]⟩

/-- A list of atoms is matched exactly if equality with one of them holds, and a range exactly if
both bounds hold. Where equality or inequality with a value holds, exactly one of the two does, and
this is the case exactly if the field is there and compares with the value. -/
theorem compound_predicates_hold (row : Row) (field : String) (kind : ValueKind) :
    (∀ values : List Json, (∀ value ∈ values, value.IsAtom) →
      (test row (.oneOf field values kind) = .ok true ↔
        ∃ value ∈ values, test row (.compare field .eq value kind) = .ok true)) ∧
    (∀ low high : Json, test row (.between field low high kind) = .ok true ↔
      test row (.compare field .gte low kind) = .ok true ∧
        test row (.compare field .lte high kind) = .ok true) ∧
    ∀ value : Json,
      (test row (.compare field .eq value kind) = .ok true ∨
          test row (.compare field .neq value kind) = .ok true →
        (test row (.compare field .eq value kind) = .ok true ↔
          ¬test row (.compare field .neq value kind) = .ok true)) ∧
      (test row (.compare field .eq value kind) = .ok true ∨
          test row (.compare field .neq value kind) = .ok true ↔
        ∃ stored, row.lookup field = some stored ∧
          (Stored.compare? stored (kind.coerce value)).isSome) := by
  refine ⟨fun values => test_one_of_iff, fun low high => test_between_iff, fun value =>
    ⟨?_, eq_or_neq_iff⟩⟩
  rintro (heq | hneq)
  · exact iff_of_true heq (not_both_hold heq)
  · exact iff_of_false (fun heq => not_both_hold heq hneq) (not_not_intro hneq)

end

open scoped Bundled

/-- Views are a number in the row, and the values of the list are texts of it, white space aside. -/
theorem compound_predicates_hold_of_views :
    (∀ value ∈ [Json.string "seven", .string " 10 "], value.IsAtom) ∧
      test [("views", .number (.int 10))]
        (.oneOf "views" [.string "seven", .string " 10 "] .integer) = .ok true ∧
      (test [("views", .number (.int 10))] (.compare "views" .neq (.string "7") .integer) =
          .ok true ∧
        ¬test [("views", .number (.int 10))]
          (.compare "views" .eq (.string "7") .integer) = .ok true) := by
  obtain ⟨hlist, -, hsingle⟩ :=
    compound_predicates_hold [("views", .number (.int 10))] "views" .integer
  have hatoms : ∀ value ∈ [Json.string "seven", .string " 10 "], value.IsAtom := by
    simp [Json.IsAtom]
  have hten : test [("views", .number (.int 10))]
      (.compare "views" .eq (.string " 10 ") .integer) = .ok true := by
    rw [test]
    exact congrArg Except.ok (by decide +kernel)
  have hseven : test [("views", .number (.int 10))]
      (.compare "views" .neq (.string "7") .integer) = .ok true := by
    rw [test]
    exact congrArg Except.ok (by decide +kernel)
  refine ⟨hatoms, (hlist _ hatoms).mpr ⟨_, by simp, hten⟩, hseven, fun heq => ?_⟩
  exact ((hsingle _).1 (.inr hseven)).mp heq hseven

end Predicate

end EntityGate
