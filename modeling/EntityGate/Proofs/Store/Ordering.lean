import EntityGate.Proofs.Store.Keys

/-!
# Columns that order rows

A column orders rows when each of them holds a value in it and these values compare with each
other consistently. Any list of such columns preorders the rows. With the key column among them,
and no two keys that compare equal, the order is strict, so that sorting and filtering commute:
see `SelectQuery.arranged_filter`.
-/

namespace EntityGate

/-! ## The order of a column -/

theorem Stored.sort_compare_swap (left right : Option Json) :
    (sortCompare left right).swap = sortCompare right left := by
  unfold sortCompare
  cases left.filter (fun value => !value.isNull) with
  | none => cases right.filter (fun value => !value.isNull) <;> rfl
  | some present =>
      cases right.filter (fun value => !value.isNull) with
      | none => rfl
      | some other =>
          simp only
          rw [← compare_swap present other]
          cases compare? present other <;> simp [Text.compare_chars_swap]

/-- The value is absent or a null. -/
def Stored.isMissing (stored : Option Json) : Bool := (stored.getD .null).isNull

theorem Stored.filter_present (stored : Option Json) :
    stored.filter (fun value => !value.isNull) = if isMissing stored then none else stored := by
  cases stored with
  | none => rfl
  | some value => cases value <;> rfl

theorem Stored.exists_of_present {stored : Option Json} (h : isMissing stored = false) :
    ∃ value, stored = some value ∧ value.isNull = false := by
  cases stored with
  | none => cases h
  | some value => exact ⟨value, rfl, h⟩

theorem Stored.sort_compare_present {left right : Json} (hleft : left.isNull = false)
    (hright : right.isNull = false) : sortCompare (some left) (some right) =
      (compare? left right).getD (Text.compareChars left.compactChars right.compactChars) := by
  simp [sortCompare, Option.filter, hleft, hright]

/-- A null compares with nothing. -/
theorem Stored.not_null_of_compares {left right : Json} (h : (compare? left right).isSome) :
    left.isNull = false ∧ right.isNull = false := by
  cases left with
  | null => simp [compare?] at h
  | _ =>
      cases right with
      | null => simp [compare?] at h
      | _ => exact ⟨rfl, rfl⟩

/-- The values that the rows hold in a column. -/
def Row.column (field : String) (rows : List Row) : List Json :=
  rows.filterMap fun row => JsonFields.get? row field

/-- A column that orders the rows: each of them holds a value in it, any two of these values
compare, and comparing them is transitive. As null compares with nothing, no row holds a null. -/
structure Orderable (field : String) (rows : List Row) : Prop where
  undotted : Identifier.isDotted field = false
  present : ∀ row ∈ rows, (JsonFields.get? row field).isSome
  comparable : ∀ left ∈ Row.column field rows, ∀ right ∈ Row.column field rows,
    (Stored.compare? left right).isSome
  transitive : ∀ first ∈ Row.column field rows, ∀ second ∈ Row.column field rows,
    ∀ third ∈ Row.column field rows, Stored.compare? first second ≠ some .gt →
      Stored.compare? second third ≠ some .gt → Stored.compare? first third ≠ some .gt

/-- Whether a column orders rows can be tried on the values in it. -/
instance (field : String) (rows : List Row) : Decidable (Orderable field rows) :=
  decidable_of_iff
    (Identifier.isDotted field = false ∧ (∀ row ∈ rows, (JsonFields.get? row field).isSome) ∧
      (∀ left ∈ Row.column field rows, ∀ right ∈ Row.column field rows,
        (Stored.compare? left right).isSome) ∧
      ∀ first ∈ Row.column field rows, ∀ second ∈ Row.column field rows,
        ∀ third ∈ Row.column field rows, Stored.compare? first second ≠ some .gt →
          Stored.compare? second third ≠ some .gt → Stored.compare? first third ≠ some .gt)
    ⟨fun ⟨hundotted, hpresent, hcomparable, htransitive⟩ =>
      ⟨hundotted, hpresent, hcomparable, htransitive⟩,
    fun h => ⟨h.undotted, h.present, h.comparable, h.transitive⟩⟩

/-- The order of two rows under one ordering. -/
def compareTerm (term : OrderTerm) (left right : Row) : Ordering :=
  let order := Stored.sortCompare (left.lookup term.field) (right.lookup term.field)
  match term.direction with
  | .ascending => order
  | .descending => order.swap

theorem compare_rows_cons (term : OrderTerm) (terms : List OrderTerm) (left right : Row) :
    compareRows (term :: terms) left right =
      (compareTerm term left right).then (compareRows terms left right) := rfl

theorem compare_term_swap (term : OrderTerm) (left right : Row) :
    (compareTerm term left right).swap = compareTerm term right left := by
  unfold compareTerm
  cases term.direction <;> simp [Stored.sort_compare_swap]

theorem compare_rows_swap (terms : List OrderTerm) (left right : Row) :
    (compareRows terms left right).swap = compareRows terms right left := by
  induction terms with
  | nil => rfl
  | cons term terms ih =>
      rw [compare_rows_cons, compare_rows_cons, Ordering.swap_then, compare_term_swap, ih]

/-- What preorders the rows in ascending order does so in both directions. -/
theorem compare_term_trans_cmp {term : OrderTerm} {rows : List Row}
    (h : Std.TransCmp fun left right : {row // row ∈ rows} =>
      Stored.sortCompare (left.1.lookup term.field) (right.1.lookup term.field)) :
    Std.TransCmp fun left right : {row // row ∈ rows} => compareTerm term left.1 right.1 := by
  cases hdirection : term.direction with
  | ascending => simpa only [compareTerm, hdirection] using h
  | descending =>
      simp only [compareTerm, hdirection, Stored.sort_compare_swap]
      exact @Std.TransCmp.opposite _ (fun left right : {row // row ∈ rows} =>
        Stored.sortCompare (left.1.lookup term.field) (right.1.lookup term.field)) h

@[simp] theorem compare_rows_self_ne_lt (terms : List OrderTerm) (row : Row) :
    compareRows terms row row ≠ .lt := by
  intro hlt
  have hswap := compare_rows_swap terms row row
  rw [hlt] at hswap
  exact absurd hswap (by decide)

namespace Orderable

variable {field : String} {held rows : List Row} {left right : Row}

theorem mem_column {value : Json} (hleft : left ∈ rows)
    (hvalue : JsonFields.get? left field = some value) : value ∈ Row.column field rows :=
  List.mem_filterMap.mpr ⟨left, hleft, hvalue⟩

theorem column_subset (h : ∀ row ∈ rows, row ∈ held) :
    ∀ value ∈ Row.column field rows, value ∈ Row.column field held := by
  intro value hvalue
  obtain ⟨row, hrow, hget⟩ := List.mem_filterMap.mp hvalue
  exact mem_column (h row hrow) hget

/-- A column that orders rows orders any of them. -/
theorem mono (h : Orderable field held) (hrows : ∀ row ∈ rows, row ∈ held) :
    Orderable field rows where
  undotted := h.undotted
  present row hrow := h.present row (hrows row hrow)
  comparable left hleft right hright :=
    h.comparable left (column_subset hrows left hleft) right (column_subset hrows right hright)
  transitive first hfirst second hsecond third hthird :=
    h.transitive first (column_subset hrows first hfirst) second
      (column_subset hrows second hsecond) third (column_subset hrows third hthird)

/-- Sorting by an orderable column goes by the comparison of the values held in it. -/
theorem sort_compare (h : Orderable field rows) (hleft : left ∈ rows) (hright : right ∈ rows) :
    ∃ value other, JsonFields.get? left field = some value ∧
      JsonFields.get? right field = some other ∧ value ∈ Row.column field rows ∧
      other ∈ Row.column field rows ∧ Stored.compare? value other =
        some (Stored.sortCompare (left.lookup field) (right.lookup field)) := by
  obtain ⟨value, hvalue⟩ := Option.isSome_iff_exists.mp (h.present left hleft)
  obtain ⟨other, hother⟩ := Option.isSome_iff_exists.mp (h.present right hright)
  have hmem := mem_column hleft hvalue
  have homem := mem_column hright hother
  refine ⟨value, other, hvalue, hother, hmem, homem, ?_⟩
  obtain ⟨order, horder⟩ := Option.isSome_iff_exists.mp (h.comparable value hmem other homem)
  obtain ⟨hpresent, hopresent⟩ :=
    Stored.not_null_of_compares (h.comparable value hmem other homem)
  rw [Row.lookup_of_undotted h.undotted, Row.lookup_of_undotted h.undotted, hvalue, hother]
  rw [Stored.sort_compare_present hpresent hopresent, horder, Option.getD_some]

/-- An orderable column preorders the rows in both directions. -/
theorem trans_cmp {term : OrderTerm} (h : Orderable term.field rows) :
    Std.TransCmp fun left right : {row // row ∈ rows} => compareTerm term left.1 right.1 := by
  refine compare_term_trans_cmp { eq_swap := (Stored.sort_compare_swap _ _).symm, isLE_trans := ?_ }
  rintro ⟨first, hfirst⟩ ⟨second, hsecond⟩ ⟨third, hthird⟩ hle hle'
  obtain ⟨value, other, hvalue, hother, hmem, homem, horder⟩ := h.sort_compare hfirst hsecond
  obtain ⟨_, last, hother', hlast, _, hlmem, horder'⟩ := h.sort_compare hsecond hthird
  obtain rfl := Option.some.inj (hother.symm.trans hother')
  obtain ⟨_, _, hvalue', hlast', _, _, horder''⟩ := h.sort_compare hfirst hthird
  obtain rfl := Option.some.inj (hvalue.symm.trans hvalue')
  obtain rfl := Option.some.inj (hlast.symm.trans hlast')
  have htransitive := h.transitive _ hmem _ homem _ hlmem
  rw [horder, horder', horder''] at htransitive
  simp only [ne_eq, Option.some.injEq, ← Ordering.isLE_iff_ne_gt] at htransitive
  exact htransitive hle hle'

end Orderable

/-! ## The order of the rows -/

section

variable {terms : List OrderTerm} {held rows : List Row} {keyColumn : String}

/-- Columns that preorder the rows do so one after the other. -/
theorem compare_rows_trans_cmp_of (h : ∀ term ∈ terms,
    Std.TransCmp fun left right : {row // row ∈ held} => compareTerm term left.1 right.1) :
    Std.TransCmp fun left right : {row // row ∈ held} => compareRows terms left.1 right.1 := by
  induction terms with
  | nil => exact { eq_swap := rfl, isLE_trans := fun _ _ => rfl }
  | cons term terms ih =>
      have hfirst := h term List.mem_cons_self
      have hrest := ih fun other hother => h other (List.mem_cons_of_mem _ hother)
      exact inferInstanceAs (Std.TransCmp (compareLex
        (fun left right : {row // row ∈ held} => compareTerm term left.1 right.1)
        fun left right => compareRows terms left.1 right.1))

theorem compare_rows_trans_cmp (h : ∀ term ∈ terms, Orderable term.field held) :
    Std.TransCmp fun left right : {row // row ∈ held} => compareRows terms left.1 right.1 :=
  compare_rows_trans_cmp_of fun term hterm => (h term hterm).trans_cmp

theorem compare_rows_lt_trans (h : ∀ term ∈ terms, Orderable term.field held)
    {first second third : Row} (hfirst : first ∈ held) (hsecond : second ∈ held)
    (hthird : third ∈ held) (hlt : compareRows terms first second = .lt)
    (hlt' : compareRows terms second third = .lt) : compareRows terms first third = .lt :=
  (compare_rows_trans_cmp h).lt_trans (a := ⟨first, hfirst⟩) (b := ⟨second, hsecond⟩)
    (c := ⟨third, hthird⟩) hlt hlt'

/-- No two rows hold keys that compare equal. -/
def Table.KeysUnequal (keyColumn : String) (rows : List Row) : Prop :=
  (Row.column keyColumn rows).Pairwise fun left right => Stored.compare? left right ≠ some .eq

theorem Table.KeysUnequal.filter (h : Table.KeysUnequal keyColumn rows) (test : Row → Bool) :
    Table.KeysUnequal keyColumn (rows.filter test) :=
  List.Pairwise.sublist (List.filter_sublist.filterMap _) h

/-- Rows that compare equal hold keys that compare equal. -/
theorem compare_keys_of_compare_rows_eq (h : ∀ term ∈ terms, Orderable term.field held)
    (hkey : ∃ term ∈ terms, term.field = keyColumn) {left right : Row} (hleft : left ∈ held)
    (hright : right ∈ held) (heq : compareRows terms left right = .eq) :
    ∃ leftKey rightKey, JsonFields.get? left keyColumn = some leftKey ∧
      JsonFields.get? right keyColumn = some rightKey ∧
      Stored.compare? leftKey rightKey = some .eq := by
  induction terms with
  | nil => simp at hkey
  | cons term terms ih =>
      rw [compare_rows_cons, Ordering.then_eq_eq] at heq
      obtain ⟨found, hfound, hfield⟩ := hkey
      rcases List.mem_cons.mp hfound with rfl | hfound
      · obtain ⟨leftKey, rightKey, hleftKey, hrightKey, _, _, horder⟩ :=
          (h found List.mem_cons_self).sort_compare hleft hright
        subst hfield
        refine ⟨leftKey, rightKey, hleftKey, hrightKey, ?_⟩
        have hterm := heq.1
        unfold compareTerm at hterm
        cases hdirection : found.direction <;> simpa [hdirection, horder] using hterm
      · exact ih (fun other hother => h other (List.mem_cons_of_mem _ hother))
          ⟨found, hfound, hfield⟩ heq.2

namespace SelectQuery

variable {query : SelectQuery}

/-- Sorting by what preorders the rows puts no row before a smaller one. -/
theorem arranged_pairwise_of (htrans : Std.TransCmp fun left right : {row // row ∈ rows} =>
    compareRows query.orders left.1 right.1) :
    (query.arranged rows).Pairwise fun left right => compareRows query.orders left right ≠ .gt := by
  unfold arranged
  split
  · rename_i hempty
    rw [List.isEmpty_iff.mp hempty]
    exact List.pairwise_of_forall fun _ _ => by simp [compareRows]
  · let le (left right : {row // row ∈ rows}) : Bool :=
      compareRows query.orders left.1 right.1 != .gt
    have hle : ∀ left right, le left right = true ↔
        (compareRows query.orders left.1 right.1).isLE = true := fun left right => by
      simp [le, Ordering.isLE_iff_ne_gt]
    -- Sorting needs a comparison that is transitive throughout, as this one is on the rows held.
    have hattached : (rows.attach.mergeSort le).Pairwise fun left right =>
        le left right = true := by
      refine List.pairwise_mergeSort (fun first second third => ?_) (fun left right => ?_) _
      · rw [hle, hle, hle]
        exact htrans.isLE_trans
      · rw [Bool.or_eq_true, hle, hle, ← compare_rows_swap query.orders left.1 right.1]
        cases compareRows query.orders left.1 right.1 <;> simp
    have hmap : (rows.attach.mergeSort le).map Subtype.val =
        rows.mergeSort fun left right => compareRows query.orders left right != .gt := by
      rw [List.map_mergeSort (s := fun left right => compareRows query.orders left right != .gt)
        fun _ _ _ _ => rfl, List.attach_map_subtype_val]
    rw [← hmap, List.pairwise_map]
    exact hattached.imp fun h => by simpa [le] using h

/-- Sorting leaves a single row alone. -/
theorem sorted_of_length_le [Libraries] [LawfulLibraries] (h : rows.length ≤ 1) :
    query.sorted rows = .ok rows := by
  have hsame (left right : {row // row ∈ rows}) : left = right := by
    obtain ⟨left, hleft⟩ := left
    obtain ⟨right, hright⟩ := right
    match rows, h with
    | [only], _ =>
        exact Subtype.ext ((List.mem_singleton.mp hleft).trans (List.mem_singleton.mp hright).symm)
  have htrans : Std.TransCmp fun left right : {row // row ∈ rows} =>
      compareRows query.orders left.1 right.1 :=
    { eq_swap := (compare_rows_swap _ _ _).symm
      isLE_trans := fun {first second third} hle _ => hsame second third ▸ hle }
  rw [sorted_of_trans_cmp htrans]
  have hperm := arranged_perm query rows
  match rows, h with
  | [], _ => rw [hperm.eq_nil]
  | [only], _ => rw [List.perm_singleton.mp hperm]

theorem arranged_pairwise (h : ∀ term ∈ query.orders, Orderable term.field rows) :
    (query.arranged rows).Pairwise fun left right => compareRows query.orders left right ≠ .gt :=
  arranged_pairwise_of (compare_rows_trans_cmp h)

/-- With unequal keys sorting is strict. -/
theorem arranged_strictly (h : ∀ term ∈ query.orders, Orderable term.field rows)
    (hkey : ∃ term ∈ query.orders, term.field = keyColumn)
    (hkeys : Table.KeysUnequal keyColumn rows) :
    (query.arranged rows).Pairwise fun left right => compareRows query.orders left right = .lt := by
  -- Sorting keeps the rows apart, as being unequal does not depend on their order.
  have hunequal : rows.Pairwise fun left right => compareRows query.orders left right ≠ .eq := by
    refine (List.pairwise_filterMap.mp hkeys).imp_of_mem fun {left right} hleft hright hne heq => ?_
    obtain ⟨leftKey, rightKey, hleftKey, hrightKey, hequal⟩ :=
      compare_keys_of_compare_rows_eq h hkey hleft hright heq
    exact hne leftKey hleftKey rightKey hrightKey hequal
  have hsorted : (query.arranged rows).Pairwise fun left right =>
      compareRows query.orders left right ≠ .eq := by
    refine (arranged_perm query rows).symm.pairwise hunequal fun {left right} hne heq => hne ?_
    rw [← compare_rows_swap, heq]
    rfl
  refine ((arranged_pairwise h).and hsorted).imp fun {left right} hboth => ?_
  cases horder : compareRows query.orders left right with
  | lt => rfl
  | eq => exact absurd horder hboth.2
  | gt => exact absurd horder hboth.1

/-- With unequal keys it does not matter whether rows are left out before or after sorting. -/
theorem arranged_filter (h : ∀ term ∈ query.orders, Orderable term.field rows)
    (hkey : ∃ term ∈ query.orders, term.field = keyColumn)
    (hkeys : Table.KeysUnequal keyColumn rows) (test : Row → Bool) :
    query.arranged (rows.filter test) = (query.arranged rows).filter test := by
  have hfiltered := arranged_strictly
    (fun term hterm => (h term hterm).mono fun row hrow => (List.mem_filter.mp hrow).1)
    hkey (hkeys.filter test)
  -- Both sides hold the same rows in strictly ascending order, which leaves one arrangement.
  have hperm : (query.arranged (rows.filter test)).Perm ((query.arranged rows).filter test) :=
    (arranged_perm query _).trans ((arranged_perm query rows).symm.filter test)
  refine hperm.eq_of_pairwise (fun left right _ _ hlt hgt => ?_) hfiltered
    ((arranged_strictly h hkey hkeys).filter test)
  rw [← compare_rows_swap, hlt] at hgt
  exact absurd hgt (by decide)

end SelectQuery

end

end EntityGate
