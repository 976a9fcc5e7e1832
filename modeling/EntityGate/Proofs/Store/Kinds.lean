import EntityGate.Proofs.Data.Sorted
import EntityGate.Proofs.Json.Tokens
import EntityGate.Proofs.Number.Integers
import EntityGate.Proofs.Store.Ordering

/-!
# Sorting values of several kinds

Values of one kind are sorted by their own order. A text is compared with a number or a truth value
by what it writes, although texts are compared with each other by their characters, so that three
values may be sorted in a circle: see `sort_compare_in_a_circle`. As long as no text writes anything
that it is compared with, values of different kinds are sorted by their kinds, because the first
character of the written form tells the kind. Then sorting goes by a key of each value, and it is a
total preorder: read `sort_compare_preorder`, and `select_of_sortable` for sorted rows.
-/

namespace EntityGate

/-! ## The first character of a written number -/

/-- The characters start as a number does, with a digit or a minus sign. -/
def StartsNumber (chars : List Char) : Prop :=
  ∃ char rest, chars = char :: rest ∧ (char = '-' ∨ char.isDigit = true)

namespace DoubleFormat

theorem exists_digits_cons (value : Nat) :
    ∃ digit rest, digits value = digit :: rest ∧ digit.isDigit = true := by
  cases hdigits : digits value with
  | nil => exact False.elim (Nat.toDigits_ne_nil hdigits)
  | cons digit rest =>
      exact ⟨digit, rest, rfl, Json.digits_are_digits value digit (hdigits ▸ List.mem_cons_self)⟩

theorem starts_number_digits (value : Nat) : StartsNumber (digits value) := by
  obtain ⟨digit, rest, hdigits, hdigit⟩ := exists_digits_cons value
  exact ⟨digit, rest, hdigits, .inr hdigit⟩

theorem starts_number_positional (value : Nat) (leading : Int) :
    StartsNumber (positional (digits value) leading) := by
  obtain ⟨digit, rest, hdigits, hdigit⟩ := exists_digits_cons value
  unfold positional
  split
  · exact ⟨'0', _, rfl, .inr rfl⟩
  · rw [hdigits]
    simp only
    split
    · exact ⟨digit, _, rfl, .inr hdigit⟩
    · exact ⟨digit, _, rfl, .inr hdigit⟩

theorem starts_number_scientific (format : DoubleFormat) (value : Nat) (leading : Int) :
    StartsNumber (format.scientific (digits value) leading) := by
  obtain ⟨digit, rest, hdigits, hdigit⟩ := exists_digits_cons value
  rw [hdigits]
  cases rest with
  | nil => exact ⟨digit, _, rfl, .inr hdigit⟩
  | cons second others => exact ⟨digit, _, rfl, .inr hdigit⟩

/-- However a double is laid out, a sign or a digit comes first. -/
theorem starts_number_write (format : DoubleFormat) (value : Binary64) :
    StartsNumber (format.write value) := by
  unfold write
  cases value.negative with
  | true =>
      simp only [if_true]
      split
      · exact ⟨'-', _, rfl, .inl rfl⟩
      · split <;> exact ⟨'-', _, rfl, .inl rfl⟩
  | false =>
      simp only [Bool.false_eq_true, if_false, List.nil_append]
      split
      · exact ⟨'0', _, rfl, .inr rfl⟩
      · split
        · exact starts_number_positional _ _
        · exact starts_number_scientific _ _ _

end DoubleFormat

theorem JsonNumber.starts_number_chars (number : JsonNumber) : StartsNumber number.chars := by
  cases number with
  | int value =>
      show StartsNumber (if value < 0 then _ else DoubleFormat.digits value.natAbs)
      split
      · exact ⟨'-', _, rfl, .inl rfl⟩
      · exact DoubleFormat.starts_number_digits _
  | double value => exact DoubleFormat.starts_number_write _ value

/-! ## Kinds -/

namespace Json

/-- The place of the kind of a value in the order of the kinds; a null comes last. -/
def kind : Json → Nat
  | .string _ => 0
  | .number _ => 1
  | .array _ => 2
  | .bool _ => 3
  | .object _ => 4
  | .null => 5

/-- The kind of the values whose written form starts with a character, nulls aside. -/
def kindOfStart (char : Char) : Nat :=
  if char.toNat ≤ '"'.toNat then 0
  else if char.toNat ≤ '9'.toNat then 1
  else if char.toNat ≤ '['.toNat then 2
  else if char.toNat ≤ 't'.toNat then 3
  else 4

theorem kind_of_start_mono {char other : Char} (h : char.toNat ≤ other.toNat) :
    kindOfStart char ≤ kindOfStart other := by
  unfold kindOfStart
  split_ifs <;> omega

theorem kind_of_start_number {char : Char} (h : char = '-' ∨ char.isDigit = true) :
    kindOfStart char = 1 := by
  rcases h with rfl | hdigit
  · rfl
  · obtain ⟨hlow, hhigh⟩ := Char.isDigit_iff_toNat.mp hdigit
    have hquote : ¬char.toNat ≤ '"'.toNat := Nat.not_le_of_lt (Nat.lt_of_lt_of_le (by decide) hlow)
    have hnine : char.toNat ≤ '9'.toNat := hhigh
    rw [kindOfStart, if_neg hquote, if_pos hnine]

/-- The first character of a written value tells its kind. -/
theorem exists_compact_cons {value : Json} (h : value.isNull = false) :
    ∃ char rest, value.compactChars = char :: rest ∧ kindOfStart char = value.kind := by
  cases value with
  | null => cases h
  | bool value => cases value <;> exact ⟨_, _, rfl, rfl⟩
  | number number =>
      obtain ⟨char, rest, hchars, hchar⟩ := number.starts_number_chars
      exact ⟨char, rest, hchars, kind_of_start_number hchar⟩
  | string text => exact ⟨_, _, rfl, rfl⟩
  | array items => cases items <;> exact ⟨_, _, rfl, rfl⟩
  | object fields =>
      cases fields with
      | nil => exact ⟨_, _, rfl, rfl⟩
      | cons field rest => exact ⟨_, _, rfl, rfl⟩

theorem text_eq_none_of_kind_ne {value : Json} {text : String}
    (h : value.kind ≠ (Json.string text).kind) : value.text? = none := by
  cases value with
  | string other => exact absurd rfl h
  | _ => rfl

/-- Written values of different kinds are in the order of their kinds. -/
theorem compare_compact {left right : Json} (hleft : left.isNull = false)
    (hright : right.isNull = false) (hkind : left.kind ≠ right.kind) :
    Text.compareChars left.compactChars right.compactChars = compare left.kind right.kind := by
  obtain ⟨char, rest, hchars, hchar⟩ := exists_compact_cons hleft
  obtain ⟨other, others, hothers, hother⟩ := exists_compact_cons hright
  rw [hchars, hothers, Text.compareChars]
  rcases Nat.lt_or_gt_of_ne hkind with hlt | hgt
  · have hbefore : char.toNat < other.toNat := Nat.lt_of_not_le fun hle => by
      have hmono := kind_of_start_mono hle
      omega
    rw [Nat.compare_eq_lt.mpr hbefore, Nat.compare_eq_lt.mpr hlt]
    rfl
  · have hafter : other.toNat < char.toNat := Nat.lt_of_not_le fun hle => by
      have hmono := kind_of_start_mono hle
      omega
    rw [Nat.compare_eq_gt.mpr hafter, Nat.compare_eq_gt.mpr hgt]
    rfl

end Json

namespace Stored

/-! ## Keys to sort by -/

/-- What a value is sorted by: its kind, then its number, then its characters. -/
structure SortKey where
  kind : Nat
  number : Int
  text : List Char

/-- Texts are in a total preorder. -/
instance : Std.TransCmp Text.compareChars where
  eq_swap := (Text.compare_chars_swap _ _).symm
  isLE_trans {first second third} h h' := by
    rw [Ordering.isLE_iff_eq_lt_or_eq_eq] at h h'
    rcases h with hlt | heq
    · rcases h' with hlt' | heq'
      · exact Ordering.isLE_of_eq_lt (Text.compare_chars_trans hlt hlt')
      · rw [← Text.eq_of_compare_chars heq', hlt]
        rfl
    · rw [Text.eq_of_compare_chars heq]
      exact Ordering.isLE_iff_eq_lt_or_eq_eq.mpr h'

namespace SortKey

/-- The order of the characters of two keys. -/
def compareText (left right : SortKey) : Ordering := Text.compareChars left.text right.text

/-- The order of two keys. -/
def compare : SortKey → SortKey → Ordering :=
  compareLex (compareOn kind) (compareLex (compareOn number) compareText)

instance : Std.TransCmp compareText where
  eq_swap := (Text.compare_chars_swap _ _).symm
  isLE_trans {first second third} :=
    @Std.TransCmp.isLE_trans _ Text.compareChars _ first.text second.text third.text

instance : Std.TransCmp compare :=
  inferInstanceAs (Std.TransCmp (compareLex (compareOn kind)
    (compareLex (compareOn number) compareText)))

variable {left right : SortKey}

theorem compare_swap (left right : SortKey) : (compare left right).swap = compare right left :=
  Std.OrientedCmp.eq_swap.symm

theorem compare_of_kind_ne (h : left.kind ≠ right.kind) :
    compare left right = Ord.compare left.kind right.kind := by
  show (Ord.compare left.kind right.kind).then _ = _
  rcases Nat.lt_or_gt_of_ne h with hlt | hgt
  · rw [Nat.compare_eq_lt.mpr hlt]
    rfl
  · rw [Nat.compare_eq_gt.mpr hgt]
    rfl

theorem compare_of_kind_eq (h : left.kind = right.kind) :
    compare left right =
      (Ord.compare left.number right.number).then (compareText left right) := by
  show (Ord.compare left.kind right.kind).then _ = _
  rw [Nat.compare_eq_eq.mpr h]
  rfl

end SortKey

/-- The number that a value is sorted by within its kind. -/
def numberKey : Json → Int
  | .number number => number.toDouble.orderKey
  | .bool truth => truth.toNat
  | _ => 0

/-- The characters that a value is sorted by within its kind. -/
def textKey : Json → List Char
  | .string text => text.toList
  | .array items => (Json.array items).compactChars
  | .object fields => (Json.object fields).compactChars
  | _ => []

/-- The key of a stored value; an absent one is sorted as a null. -/
def sortKey (stored : Option Json) : SortKey :=
  let value := stored.getD .null
  ⟨value.kind, numberKey value, textKey value⟩

/-- Values that sorting can tell apart by their kinds: no text among them is compared with a value
of another kind by what it writes, and no number is a not-a-number, as no written one is. -/
structure Sortable (values : List (Option Json)) : Prop where
  texts : ∀ text other, some (.string text) ∈ values → some other ∈ values →
    other.text? = none → compare? (.string text) other = none
  numbers : ∀ number, some (.number number) ∈ values → number.toDouble.isNaN = false

theorem Sortable.mono {values fewer : List (Option Json)} (h : Sortable values)
    (hfewer : fewer ⊆ values) : Sortable fewer where
  texts text other htext hother := h.texts text other (hfewer htext) (hfewer hother)
  numbers number hnumber := h.numbers number (hfewer hnumber)

/-- Integers are sortable. -/
theorem sortable_of_ints (values : List Int) :
    Sortable (values.map fun value => some (Json.ofInt value)) where
  texts text other htext := by simp [Json.ofInt] at htext
  numbers number hnumber := by
    obtain ⟨value, -, hvalue⟩ := List.mem_map.mp hnumber
    obtain rfl : JsonNumber.int value = number := Json.number.inj (Option.some.inj hvalue)
    exact Binary64.is_nan_of_int value

/-! ## Sorting goes by the keys -/

/-- Values of one kind are sorted by their numbers and their characters. -/
theorem sort_compare_of_kind_eq {left right : Json} (hleft : left.isNull = false)
    (hright : right.isNull = false) (hkind : left.kind = right.kind)
    (hnumbers : ∀ number, Json.number number ∈ [left, right] → number.toDouble.isNaN = false) :
    sortCompare (some left) (some right) =
      (compare (numberKey left) (numberKey right)).then
        (Text.compareChars (textKey left) (textKey right)) := by
  rw [sort_compare_present hleft hright]
  cases left with
  | null => cases hleft
  | string text =>
      cases right with
      | string other => rfl
      | _ => cases hkind
  | number number =>
      cases right with
      | number other =>
          have hnumber := hnumbers number List.mem_cons_self
          have hother := hnumbers other (List.mem_cons_of_mem _ List.mem_cons_self)
          simp [compare?, compareNumbers?, doubleOf?, Binary64.compare?, hnumber, hother,
            numberKey, textKey]
      | _ => cases hkind
  | array items =>
      cases right with
      | array others => rfl
      | _ => cases hkind
  | bool truth =>
      cases right with
      | bool other => cases truth <;> cases other <;> rfl
      | _ => cases hkind
  | object fields =>
      cases right with
      | object others => rfl
      | _ => cases hkind

namespace Sortable

variable {values : List (Option Json)}

theorem compare_text_eq_none (h : Sortable values) {left : Json} {text : String}
    (hleft : some left ∈ values) (hright : some (.string text) ∈ values)
    (hkind : left.kind ≠ (Json.string text).kind) : compare? left (.string text) = none := by
  rw [← compare_swap, h.texts text left hright hleft (Json.text_eq_none_of_kind_ne hkind),
    Option.map_none]

/-- Values of different kinds do not compare. -/
theorem compare_eq_none (h : Sortable values) {left right : Json} (hleft : some left ∈ values)
    (hright : some right ∈ values) (hkind : left.kind ≠ right.kind) :
    compare? left right = none := by
  cases left with
  | null => cases right <;> rfl
  | string text =>
      exact h.texts text right hleft hright (Json.text_eq_none_of_kind_ne hkind.symm)
  | bool truth =>
      cases right with
      | string text => exact h.compare_text_eq_none hleft hright hkind
      | bool other => exact absurd rfl hkind
      | _ => rfl
  | number number =>
      cases right with
      | string text => exact h.compare_text_eq_none hleft hright hkind
      | number other => exact absurd rfl hkind
      | _ => rfl
  | array items =>
      cases right with
      | string text => exact h.compare_text_eq_none hleft hright hkind
      | _ => rfl
  | object fields =>
      cases right with
      | string text => exact h.compare_text_eq_none hleft hright hkind
      | _ => rfl

theorem sort_compare_eq_of_present (h : Sortable values) {left right : Json}
    (hleft : some left ∈ values) (hright : some right ∈ values) (hpresent : left.isNull = false)
    (hother : right.isNull = false) :
    sortCompare (some left) (some right) =
      (sortKey (some left)).compare (sortKey (some right)) := by
  by_cases hkind : left.kind = right.kind
  · have hkeys : (sortKey (some left)).kind = (sortKey (some right)).kind := hkind
    rw [SortKey.compare_of_kind_eq hkeys]
    refine sort_compare_of_kind_eq hpresent hother hkind fun number hnumber => ?_
    rcases List.mem_pair.mp hnumber with rfl | rfl
    · exact h.numbers number hleft
    · exact h.numbers number hright
  · have hkeys : (sortKey (some left)).kind ≠ (sortKey (some right)).kind := hkind
    rw [SortKey.compare_of_kind_ne hkeys,
      sort_compare_present hpresent hother, h.compare_eq_none hleft hright hkind,
      Option.getD_none]
    exact Json.compare_compact hpresent hother hkind

end Sortable

/-! ## Absent values and nulls -/

theorem sort_key_of_missing {stored : Option Json} (h : isMissing stored = true) :
    sortKey stored = ⟨5, 0, []⟩ := by
  unfold isMissing at h
  unfold sortKey
  cases hvalue : stored.getD .null with
  | null => rfl
  | _ => rw [hvalue] at h; cases h

/-- What is missing comes after everything that is not. -/
theorem kind_lt_of_present {stored : Option Json} (h : isMissing stored = false) :
    (sortKey stored).kind < 5 := by
  unfold isMissing at h
  unfold sortKey
  cases hvalue : stored.getD .null with
  | null => rw [hvalue] at h; cases h
  | _ => simp [Json.kind]

/-- What is missing is sorted after everything that is not, and so are the keys. -/
theorem sort_compare_missing {left right : Option Json} (hleft : isMissing left = true)
    (hright : isMissing right = false) :
    sortCompare left right = .gt ∧ (sortKey left).compare (sortKey right) = .gt := by
  constructor
  · obtain ⟨other, rfl, -⟩ := exists_of_present hright
    rw [sortCompare, filter_present, filter_present, if_pos hleft, if_neg (by simp [hright])]
  · have hkind := kind_lt_of_present hright
    rw [sort_key_of_missing hleft, SortKey.compare_of_kind_ne (Nat.ne_of_gt hkind)]
    exact Nat.compare_eq_gt.mpr hkind

/-- Sorting goes by the keys of the values. -/
theorem Sortable.sort_compare_eq {values : List (Option Json)} (h : Sortable values)
    {left right : Option Json} (hleft : left ∈ values) (hright : right ∈ values) :
    sortCompare left right = (sortKey left).compare (sortKey right) := by
  cases hfirst : isMissing left with
  | true =>
      cases hsecond : isMissing right with
      | true =>
          rw [sort_key_of_missing hfirst, sort_key_of_missing hsecond, sortCompare, filter_present,
            filter_present, if_pos hfirst, if_pos hsecond]
          rfl
      | false =>
          obtain ⟨hsorted, hkeys⟩ := sort_compare_missing hfirst hsecond
          rw [hsorted, hkeys]
  | false =>
      cases hsecond : isMissing right with
      | true =>
          obtain ⟨hsorted, hkeys⟩ := sort_compare_missing hsecond hfirst
          rw [← sort_compare_swap, hsorted, ← SortKey.compare_swap, hkeys]
      | false =>
          obtain ⟨value, rfl, hvalue⟩ := exists_of_present hfirst
          obtain ⟨other, rfl, hother⟩ := exists_of_present hsecond
          exact h.sort_compare_eq_of_present hleft hright hvalue hother

/-! ## A preorder -/

theorem sort_compare_self (value : Option Json) : sortCompare value value = .eq := by
  have hswap := sort_compare_swap value value
  cases horder : sortCompare value value with
  | eq => rfl
  | lt => rw [horder] at hswap; cases hswap
  | gt => rw [horder] at hswap; cases hswap

theorem eq_of_is_le_of_swap {order : Ordering} (h : order.isLE) (h' : order.swap.isLE) :
    order = .eq := by
  cases order with
  | lt => cases h'
  | eq => rfl
  | gt => cases h

namespace Sortable

variable {values : List (Option Json)} {first second third : Option Json}

/-- Sorting is transitive, as the order of the keys is. -/
theorem sort_compare_trans (h : Sortable values) (hfirst : first ∈ values)
    (hsecond : second ∈ values) (hthird : third ∈ values)
    (hle : (sortCompare first second).isLE) (hle' : (sortCompare second third).isLE) :
    (sortCompare first third).isLE := by
  rw [h.sort_compare_eq hfirst hsecond] at hle
  rw [h.sort_compare_eq hsecond hthird] at hle'
  rw [h.sort_compare_eq hfirst hthird]
  exact Std.TransCmp.isLE_trans hle hle'

/-- Two values that are sorted equal have nothing strictly between them. -/
theorem sort_compare_eq_of_between (h : Sortable values) (hfirst : first ∈ values)
    (hsecond : second ∈ values) (hthird : third ∈ values)
    (hle : (sortCompare first second).isLE) (hle' : (sortCompare second third).isLE)
    (heq : sortCompare first third = .eq) :
    sortCompare first second = .eq ∧ sortCompare second third = .eq := by
  have heq' : sortCompare third first = .eq := by rw [← sort_compare_swap, heq]; rfl
  have hback := h.sort_compare_trans hsecond hthird hfirst hle' (Ordering.isLE_of_eq_eq heq')
  have hback' := h.sort_compare_trans hthird hfirst hsecond (Ordering.isLE_of_eq_eq heq') hle
  rw [← sort_compare_swap] at hback hback'
  exact ⟨eq_of_is_le_of_swap hle hback, eq_of_is_le_of_swap hle' hback'⟩

end Sortable

/-- Every value is sorted equal to itself, and exchanging two values turns their order round. Three
values are in order as soon as their neighbours are, unless a text among them is compared with a
value of another kind by what it writes. -/
theorem sort_compare_preorder (first second third : Option Json) :
    sortCompare first first = .eq ∧
    (sortCompare first second).swap = sortCompare second first ∧
    (Sortable [first, second, third] → sortCompare first second ≠ .gt →
      sortCompare second third ≠ .gt → sortCompare first third ≠ .gt ∧
        (sortCompare first third = .eq →
          sortCompare first second = .eq ∧ sortCompare second third = .eq)) := by
  refine ⟨sort_compare_self first, sort_compare_swap first second, fun h hle hle' => ?_⟩
  have hfirst : first ∈ [first, second, third] := .head _
  have hsecond : second ∈ [first, second, third] := .tail _ (.head _)
  have hthird : third ∈ [first, second, third] := .tail _ (.tail _ (.head _))
  have hbefore := Ordering.isLE_iff_ne_gt.mpr hle
  have hbefore' := Ordering.isLE_iff_ne_gt.mpr hle'
  refine ⟨Ordering.isLE_iff_ne_gt.mp ?_, ?_⟩
  · exact h.sort_compare_trans hfirst hsecond hthird hbefore hbefore'
  · exact h.sort_compare_eq_of_between hfirst hsecond hthird hbefore hbefore'

/-- A text that writes no number, a number and an array are in this order. -/
theorem sort_compare_preorder_of_kinds :
    let first : Option Json := some (.string "ten")
    let second : Option Json := some (Json.ofInt 2)
    let third : Option Json := some (.array [Json.ofInt 1])
    Sortable [first, second, third] ∧ sortCompare first second ≠ .gt ∧
      sortCompare second third ≠ .gt ∧ sortCompare first third ≠ .gt := by
  intro first second third
  have hsortable : Sortable [first, second, third] := by
    refine ⟨fun text other htext hother hnone => ?_, fun number hnumber => ?_⟩
    · obtain rfl : text = "ten" := by simpa [first, second, third, Json.ofInt] using htext
      have hcases : other = .string "ten" ∨ other = Json.ofInt 2 ∨
          other = .array [Json.ofInt 1] := by
        simpa [first, second, third] using hother
      rcases hcases with rfl | rfl | rfl
      · cases hnone
      · decide +kernel
      · rfl
    · obtain rfl : number = .int 2 := by simpa [first, second, third, Json.ofInt] using hnumber
      exact Binary64.is_nan_of_int 2
  have hle : sortCompare first second ≠ .gt := by decide +kernel
  have hle' : sortCompare second third ≠ .gt := by decide +kernel
  obtain ⟨-, -, htransitive⟩ := sort_compare_preorder first second third
  exact ⟨hsortable, hle, hle', (htransitive hsortable hle hle').1⟩

/-- Of three posts with these values each comes before the next one, and the last one before the
first. -/
theorem sort_compare_in_a_circle :
    sortCompare (some (.string "10")) (some (.string "9")) = .lt ∧
    sortCompare (some (.string "9")) (some (.number (.double ⟨0x4023000000000000⟩))) = .lt ∧
    sortCompare (some (.string "10")) (some (.number (.double ⟨0x4023000000000000⟩))) = .gt := by
  decide +kernel

/-! ## Sorted rows -/

/-- Rows with sortable values in a column are in a preorder by it. -/
theorem Sortable.trans_cmp {field : String} {rows : List Row}
    (h : Sortable (rows.map fun row => row.lookup field)) :
    Std.TransCmp fun left right : {row // row ∈ rows} =>
      sortCompare (left.1.lookup field) (right.1.lookup field) where
  eq_swap := (sort_compare_swap _ _).symm
  isLE_trans {first second third} :=
    h.sort_compare_trans (List.mem_map_of_mem first.2) (List.mem_map_of_mem second.2)
      (List.mem_map_of_mem third.2)

end Stored

/-- A query whose like patterns can be compiled answers with its rows in order when the values in
the ordering columns are sortable, nulls and values of several kinds included. -/
theorem SelectQuery.select_of_sortable [Libraries] [LawfulLibraries] {query : SelectQuery}
    {rows : List Row} (hcompile : Predicate.Compile query.predicates)
    (h : ∀ term ∈ query.orders, Stored.Sortable (rows.map fun row => row.lookup term.field)) :
    query.select rows = .ok ((query.window (query.arranged (query.satisfying rows))).map
        (Row.project query.columns)) ∧
      (query.arranged (query.satisfying rows)).Pairwise fun left right =>
        compareRows query.orders left right ≠ .gt := by
  have hsatisfying : ∀ term ∈ query.orders,
      Stored.Sortable ((query.satisfying rows).map fun row => row.lookup term.field) :=
    fun term hterm => (h term hterm).mono (List.filter_sublist.map _).subset
  have htrans := compare_rows_trans_cmp_of fun term hterm =>
    compare_term_trans_cmp (hsatisfying term hterm).trans_cmp
  exact ⟨select_of_trans_cmp hcompile htrans, arranged_pairwise_of htrans⟩

end EntityGate
