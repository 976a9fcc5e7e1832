import Mathlib.Data.Finset.Dedup
import EntityGate.Proofs.Data.Sorted
import EntityGate.Proofs.Gate.Versions
import EntityGate.Proofs.Text.Blank

/-!
# What the lines of a changelog say

A line names one item that a version adds or removes, and is read back to that change: see
`Change.of_line_line`. The lines between two overlays are those of the items that one of them has
and the other one has not: see `mem_diff`. A version has the items of the overlay that it is
compiled from: see `GateDraft.Compiles.items_eq`.
-/

namespace EntityGate

namespace Changelog

/-! ## Items -/

/-- Something that one version of a gate may have and another one not. -/
inductive Item where
  | filter (field : String)
  | permitted (field : String) (operator : FilterOperator)
  | column (name : String)
  | sort (field : String)
  | action (name : String)
  deriving DecidableEq, Repr

namespace Item

/-- What lines call an item of the kind. -/
def label : Item → String
  | .filter _ => "filter"
  | .permitted _ _ => "operator"
  | .column _ => "select"
  | .sort _ => "sort"
  | .action _ => "action"

/-- What lines call the item itself. -/
def text : Item → String
  | .filter field => field
  | .permitted field operator => field ++ "." ++ operator.token
  | .column name => name
  | .sort field => field
  | .action name => name

/-- The operator on a field that a text names: the token comes after the last point. -/
def operatorOf? (text : String) : Option Item := do
  let (field, token) ← Text.cutLastChars? '.' text.toList
  let operator ← FilterOperator.ofToken? (String.ofList token)
  return .permitted (String.ofList field) operator

/-- The item of a label and a text. -/
def ofText? (label text : String) : Option Item :=
  match label with
  | "filter" => some (.filter text)
  | "operator" => operatorOf? text
  | "select" => some (.column text)
  | "sort" => some (.sort text)
  | "action" => some (.action text)
  | _ => none

theorem of_token_token (operator : FilterOperator) :
    FilterOperator.ofToken? operator.token = some operator := by
  cases operator <;> decide

theorem point_not_in_token (operator : FilterOperator) : '.' ∉ operator.token.toList := by
  cases operator <;> decide

theorem of_text_text (item : Item) : ofText? item.label item.text = some item := by
  cases item with
  | permitted field operator =>
      have hchars : (field ++ "." ++ operator.token).toList =
          field.toList ++ '.' :: operator.token.toList := by
        simp
      have hread : ofText? "operator" (field ++ "." ++ operator.token) =
          operatorOf? (field ++ "." ++ operator.token) := by
        simp [ofText?]
      rw [label, text, hread, operatorOf?, hchars,
        Text.cut_last_chars_append (point_not_in_token operator)]
      simp [of_token_token]
  | filter | column | sort | action => simp [ofText?, label, text]

theorem separator_not_in_label (item : Item) : ':' ∉ item.label.toList := by
  cases item <;> simp [label]

end Item

/-! ## Changes -/

/-- An item that is added or removed. -/
inductive Change where
  | added (item : Item)
  | removed (item : Item)
  deriving DecidableEq, Repr

namespace Change

/-- The item that changes. -/
def item : Change → Item
  | .added item | .removed item => item

/-- How lines for the change begin. -/
def verb : Change → String
  | .added _ => "Added"
  | .removed _ => "Removed"

/-- The line for the change. -/
def line (change : Change) : String :=
  change.verb ++ " " ++ change.item.label ++ ": " ++ change.item.text

/-- The change that a line says. -/
def ofLine? (line : String) : Option Change := do
  let (verb, rest) ← Text.cutChars? ' ' line.toList
  let (label, rest) ← Text.cutChars? ':' rest
  let text ← Text.afterStart? [' '] rest
  let item ← Item.ofText? (String.ofList label) (String.ofList text)
  match String.ofList verb with
  | "Added" => some (.added item)
  | "Removed" => some (.removed item)
  | _ => none

/-- A line is read back to the change that it was written for. -/
theorem of_line_line (change : Change) : ofLine? change.line = some change := by
  have hchars : change.line.toList = change.verb.toList ++ ' ' ::
      (change.item.label.toList ++ ':' :: ([' '] ++ change.item.text.toList)) := by
    simp [line]
  have hverb : ' ' ∉ change.verb.toList := by
    cases change <;> simp [verb]
  have hlabel := Text.cut_chars_append change.item.separator_not_in_label
  simp only [ofLine?, hchars, Text.cut_chars_append hverb, hlabel, Text.after_start_append,
    String.ofList_toList, Item.of_text_text, Option.bind_eq_bind, Option.bind_some]
  cases change with
  | added item => simp [verb, Change.item]
  | removed item => simp [verb, Change.item]

/-- The change leads from the first items to the second. -/
def Between (earlier later : Finset Item) : Change → Prop
  | .added item => item ∉ earlier ∧ item ∈ later
  | .removed item => item ∈ earlier ∧ item ∉ later

/-- The item of a change is on one side only. -/
theorem Between.mem_iff {earlier later : Finset Item} {change : Change}
    (h : change.Between earlier later) : change.item ∈ earlier ↔ change.item ∉ later := by
  cases change with
  | added item => exact iff_of_false h.1 (not_not_intro h.2)
  | removed item => exact iff_of_true h.1 h.2

/-- An item on one side only makes a change. -/
theorem exists_between {earlier later : Finset Item} {item : Item}
    (h : ¬ (item ∈ earlier ↔ item ∈ later)) :
    ∃ change : Change, change.item = item ∧ change.Between earlier later := by
  by_cases hearlier : item ∈ earlier
  · exact ⟨.removed item, rfl, hearlier, fun hlater => h (iff_of_true hearlier hlater)⟩
  · refine ⟨.added item, rfl, hearlier, ?_⟩
    by_contra hlater
    exact h (iff_of_false hearlier hlater)

end Change

/-! ## The items of a version -/

/-- The operators that are permitted on fields that restrict them. -/
def operatorItems (operators : OperatorMap) : List Item :=
  operators.keys.flatMap fun field =>
    ((operators.find? field).getD []).map (Item.permitted field)

/-- The items of filters, operators, columns, orderings and actions. -/
def itemsOf (filters : List String) (operators : OperatorMap)
    (columns sorts actions : List String) : Finset Item :=
  (filters.map Item.filter ++ operatorItems operators ++ columns.map Item.column ++
    sorts.map Item.sort ++ actions.map Item.action).toFinset

section Members

variable {filters columns sorts actions : List String} {operators : OperatorMap}

theorem mem_operator_items {item : Item} : item ∈ operatorItems operators ↔
    ∃ field operator, item = .permitted field operator ∧
      operator ∈ (operators.find? field).getD [] := by
  simp only [operatorItems, List.mem_flatMap, List.mem_map]
  constructor
  · rintro ⟨field, -, operator, hoperator, rfl⟩
    exact ⟨field, operator, rfl, hoperator⟩
  · rintro ⟨field, operator, rfl, hoperator⟩
    refine ⟨field, TextMap.mem_keys_iff.mpr ?_, operator, hoperator, rfl⟩
    -- There is an operator only under a key.
    cases hfound : operators.find? field with
    | none => simp [hfound] at hoperator
    | some found => rfl

@[simp] theorem filter_mem_items_of {field : String} :
    .filter field ∈ itemsOf filters operators columns sorts actions ↔ field ∈ filters := by
  simp [itemsOf, mem_operator_items]

@[simp] theorem permitted_mem_items_of {field : String} {operator : FilterOperator} :
    .permitted field operator ∈ itemsOf filters operators columns sorts actions ↔
      operator ∈ (operators.find? field).getD [] := by
  simp [itemsOf, mem_operator_items]

@[simp] theorem column_mem_items_of {name : String} :
    .column name ∈ itemsOf filters operators columns sorts actions ↔ name ∈ columns := by
  simp [itemsOf, mem_operator_items]

@[simp] theorem sort_mem_items_of {field : String} :
    .sort field ∈ itemsOf filters operators columns sorts actions ↔ field ∈ sorts := by
  simp [itemsOf, mem_operator_items]

@[simp] theorem action_mem_items_of {name : String} :
    .action name ∈ itemsOf filters operators columns sorts actions ↔ name ∈ actions := by
  simp [itemsOf, mem_operator_items]

end Members

end Changelog

open Changelog

/-- The operators of the catalog that are permitted on the fields that restrict them. -/
def Overlay.permittedOperators (overlay : Overlay) : OperatorMap :=
  (overlay.operators.getD .empty).mapValues fun tokens =>
    tokens.filterMap FilterOperator.ofToken?

/-- What is in force with the overlay. -/
def Overlay.items (overlay : Overlay) : Finset Item :=
  itemsOf overlay.filterNames overlay.permittedOperators (overlay.select.getD [])
    (overlay.sorts.getD []) overlay.actionNames

/-- What is in force in the version: its filters with rules or without, the operators permitted on
fields, its columns, its orderings and its actions. -/
def GateVersion.items (version : GateVersion) : Finset Item :=
  itemsOf version.filterFields version.operators version.select version.sorts
    (version.actions.map Action.name)

namespace GateDraft

variable {draft : GateDraft} {cache : Option CachePolicy} {name : Option String}
  {overlay : Overlay} {version : GateVersion}

theorem mem_resolve_tokens {field : String} {found resolved : List FilterOperator}
    {tokens : List String} (h : resolveTokens field found tokens = .ok resolved)
    (operator : FilterOperator) :
    operator ∈ resolved ↔
      operator ∈ found ∨ operator ∈ tokens.filterMap FilterOperator.ofToken? := by
  induction tokens generalizing found with
  | nil =>
      cases h
      simp
  | cons token rest ih =>
      unfold resolveTokens at h
      cases htoken : FilterOperator.ofToken? token with
      | none =>
          rw [htoken] at h
          cases h
      | some named =>
          rw [htoken] at h
          rw [ih h, List.filterMap_cons_some htoken, List.mem_cons]
          split_ifs with hfound
          · have hmem : named ∈ found := List.contains_iff_mem.mp hfound
            grind
          · simp [or_assoc]

/-- The operators of a field are resolved to those that its tokens name. -/
theorem mem_resolve_operators {entries : List (String × List String)}
    {resolved : List (String × List FilterOperator)}
    (h : draft.resolveOperators entries = .ok resolved) (field : String)
    (operator : FilterOperator) :
    operator ∈ (resolved.lookup field).getD [] ↔
      operator ∈ ((entries.lookup field).map fun tokens =>
        tokens.filterMap FilterOperator.ofToken?).getD [] := by
  induction entries generalizing resolved with
  | nil =>
      cases h
      rfl
  | cons entry rest ih =>
      obtain ⟨_, -, h⟩ := except_bind_eq_ok h
      obtain ⟨operators, htokens, h⟩ := except_bind_eq_ok h
      obtain ⟨others, hothers, h⟩ := except_bind_eq_ok h
      cases h
      rw [lookup_cons_entry, lookup_cons_entry]
      split_ifs with hfield
      · simpa using mem_resolve_tokens htokens operator
      · exact ih hothers

/-- A version has the items of the overlay that it is compiled from. -/
theorem Compiles.items_eq (h : draft.Compiles cache name overlay version) :
    version.items = overlay.items := by
  have hfilters : version.filterFields = overlay.filterNames := by
    rw [h.version_eq]
    rfl
  have hselect : version.select = overlay.select.getD [] :=
    congrArg GateVersion.select h.version_eq
  have hsorts : version.sorts = overlay.sorts.getD [] := congrArg GateVersion.sorts h.version_eq
  have hactions : version.actions.map Action.name = overlay.actionNames := h.action_names
  unfold GateVersion.items Overlay.items
  rw [hfilters, hselect, hsorts, hactions]
  ext item
  cases item with
  | permitted field operator =>
      rw [permitted_mem_items_of, permitted_mem_items_of, Overlay.permittedOperators,
        TextMap.find_map_values]
      exact mem_resolve_operators h.operators field operator
  | filter | column | sort | action => simp

end GateDraft

namespace Changelog

/-! ## The lines between two overlays -/

variable {before after : Overlay} {line : String}

/-- The lines of a section are those of its items that are on one side only, provided that its items
go by different texts. -/
theorem mem_lines {α : Type} {earlier later : Finset Item} {names names' : List String}
    (label : String) (make : α → Item) (hlabel : ∀ item, (make item).label = label)
    (hapart : ∀ item other, (make item).text = (make other).text → item = other)
    (hearlier : ∀ text, text ∈ names ↔ ∃ item, make item ∈ earlier ∧ (make item).text = text)
    (hlater : ∀ text, text ∈ names' ↔ ∃ item, make item ∈ later ∧ (make item).text = text)
    (line : String) : line ∈ lines label names names' ↔ ∃ (change : Change) (item : α),
      change.item = make item ∧ change.Between earlier later ∧ change.line = line := by
  have hmissing {first second : Finset Item} {texts texts' : List String}
      (hfirst : ∀ text, text ∈ texts ↔ ∃ item, make item ∈ first ∧ (make item).text = text)
      (hsecond : ∀ text, text ∈ texts' ↔ ∃ item, make item ∈ second ∧ (make item).text = text)
      (text : String) : text ∈ missing texts texts' ↔
        ∃ item, make item ∈ first ∧ make item ∉ second ∧ (make item).text = text := by
    simp only [missing, List.mem_filter, Bool.not_eq_true', List.contains_eq_mem,
      decide_eq_false_iff_not, hfirst, hsecond]
    constructor
    · rintro ⟨⟨item, hitem, rfl⟩, hnone⟩
      exact ⟨item, hitem, fun hmem => hnone ⟨item, hmem, rfl⟩, rfl⟩
    · rintro ⟨item, hitem, hnone, rfl⟩
      refine ⟨⟨item, hitem, rfl⟩, ?_⟩
      rintro ⟨other, hother, htext⟩
      exact hnone (hapart other item htext ▸ hother)
  have hadded (item : α) : (Change.added (make item)).line =
      "Added " ++ label ++ ": " ++ (make item).text := by
    simp [Change.line, Change.verb, Change.item, hlabel]
  have hremoved (item : α) : (Change.removed (make item)).line =
      "Removed " ++ label ++ ": " ++ (make item).text := by
    simp [Change.line, Change.verb, Change.item, hlabel]
  simp only [lines, List.mem_append, List.mem_map, hmissing hlater hearlier,
    hmissing hearlier hlater]
  constructor
  · rintro (⟨_, ⟨item, hmem, hnone, rfl⟩, rfl⟩ | ⟨_, ⟨item, hmem, hnone, rfl⟩, rfl⟩)
    · exact ⟨.added (make item), item, rfl, ⟨hnone, hmem⟩, hadded item⟩
    · exact ⟨.removed (make item), item, rfl, ⟨hmem, hnone⟩, hremoved item⟩
  · rintro ⟨change, item, hitem, hbetween, rfl⟩
    cases change with
    | added other =>
        obtain rfl : other = make item := hitem
        exact .inl ⟨_, ⟨item, hbetween.2, hbetween.1, rfl⟩, (hadded item).symm⟩
    | removed other =>
        obtain rfl : other = make item := hitem
        exact .inr ⟨_, ⟨item, hbetween.1, hbetween.2, rfl⟩, (hremoved item).symm⟩

theorem token_injective {operator other : FilterOperator} (h : operator.token = other.token) :
    operator = other := by
  have hread := Item.of_token_token operator
  rw [h, Item.of_token_token] at hread
  exact (Option.some.inj hread).symm

/-- The tokens of a field are those of the operators that are permitted on it. -/
theorem mem_operator_tokens {overlay : Overlay} {field token : String} :
    token ∈ (overlay.operatorTokens.lookup field).getD [] ↔
      ∃ operator, .permitted field operator ∈ overlay.items ∧ operator.token = token := by
  have hlookup : overlay.operatorTokens.lookup field =
      (overlay.permittedOperators.find? field).map fun operators =>
        (TextMap.ofList (operators.map fun operator => (operator.token, ()))).keys := by
    rw [Overlay.operatorTokens, Overlay.permittedOperators, TextMap.find_map_values, Option.map_map]
    exact lookup_map_values (fun tokens => (TextMap.ofList
      ((tokens.filterMap FilterOperator.ofToken?).map fun operator => (operator.token, ()))).keys)
      (overlay.operators.getD .empty).entries field
  simp only [Overlay.items, permitted_mem_items_of, hlookup]
  cases overlay.permittedOperators.find? field with
  | none => simp
  | some operators => simp [TextMap.mem_keys_of_list]

theorem field_of_permitted {overlay : Overlay} {field : String} {operator : FilterOperator}
    (h : .permitted field operator ∈ overlay.items) :
    field ∈ overlay.operatorTokens.map Prod.fst := by
  have htoken : operator.token ∈ (overlay.operatorTokens.lookup field).getD [] :=
    mem_operator_tokens.mpr ⟨operator, h, rfl⟩
  cases hfound : overlay.operatorTokens.lookup field with
  | none => simp [hfound] at htoken
  | some tokens => exact List.mem_map.mpr ⟨_, mem_of_lookup hfound, rfl⟩

/-- The lines for the operators are those of the operators that are permitted on one side only. -/
theorem mem_operator_lines :
    line ∈ operatorLines before.operatorTokens after.operatorTokens ↔
      ∃ (change : Change) (field : String) (operator : FilterOperator),
        change.item = .permitted field operator ∧ change.Between before.items after.items ∧
          change.line = line := by
  have hnamed (overlay : Overlay) (field text : String) :
      text ∈ ((overlay.operatorTokens.lookup field).getD []).map
          (fun token => field ++ "." ++ token) ↔
        ∃ operator, .permitted field operator ∈ overlay.items ∧
          (Item.permitted field operator).text = text := by
    simp only [List.mem_map, mem_operator_tokens]
    constructor
    · rintro ⟨_, ⟨operator, hoperator, rfl⟩, rfl⟩
      exact ⟨operator, hoperator, rfl⟩
    · rintro ⟨operator, hoperator, rfl⟩
      exact ⟨_, ⟨operator, hoperator, rfl⟩, rfl⟩
  have hapart (field : String) (operator other : FilterOperator)
      (htext : (Item.permitted field operator).text = (Item.permitted field other).text) :
      operator = other :=
    token_injective (by simpa [Item.text] using htext)
  have hsection (field : String) := mem_lines "operator" (Item.permitted field) (fun _ => rfl)
    (hapart field) (hnamed before field) (hnamed after field) line
  unfold operatorLines
  simp only [List.mem_flatMap, hsection]
  constructor
  · rintro ⟨field, -, change, operator, hchange⟩
    exact ⟨change, field, operator, hchange⟩
  · rintro ⟨change, field, operator, hitem, hbetween, hline⟩
    refine ⟨field, ?_, change, operator, hitem, hbetween, hline⟩
    rw [TextMap.mem_keys_of_list, List.map_map, List.map_append, List.mem_append]
    cases change with
    | added item =>
        obtain rfl : item = .permitted field operator := hitem
        exact .inr (field_of_permitted hbetween.2)
    | removed item =>
        obtain rfl : item = .permitted field operator := hitem
        exact .inl (field_of_permitted hbetween.1)

/-- The lines between two overlays are those of the items that are in force with one of them
only. -/
theorem mem_diff : line ∈ diff before after ↔
    ∃ change : Change, change.Between before.items after.items ∧ change.line = line := by
  have hsection (label : String) (make : String → Item) (names : Overlay → List String)
      (hlabel : ∀ name, (make name).label = label) (htext : ∀ name, (make name).text = name)
      (hmem : ∀ overlay name, make name ∈ overlay.items ↔ name ∈ names overlay) :
      line ∈ lines label (names before) (names after) ↔ ∃ (change : Change) (name : String),
        change.item = make name ∧ change.Between before.items after.items ∧ change.line = line := by
    have hnamed (overlay : Overlay) (text : String) :
        text ∈ names overlay ↔ ∃ name, make name ∈ overlay.items ∧ (make name).text = text := by
      simp [hmem, htext]
    exact mem_lines label make hlabel (fun name other h => by simpa [htext] using h)
      (hnamed before) (hnamed after) line
  unfold diff
  simp only [List.mem_append, mem_operator_lines,
    hsection "filter" .filter Overlay.filterNames (fun _ => rfl) (fun _ => rfl)
      (fun _ _ => filter_mem_items_of),
    hsection "select" .column (fun overlay => overlay.select.getD []) (fun _ => rfl) (fun _ => rfl)
      (fun _ _ => column_mem_items_of),
    hsection "sort" .sort (fun overlay => overlay.sorts.getD []) (fun _ => rfl) (fun _ => rfl)
      (fun _ _ => sort_mem_items_of),
    hsection "action" .action Overlay.actionNames (fun _ => rfl) (fun _ => rfl)
      (fun _ _ => action_mem_items_of)]
  constructor
  · rintro ((((⟨change, _, h⟩ | ⟨change, _, _, h⟩) | ⟨change, _, h⟩) | ⟨change, _, h⟩) |
      ⟨change, _, h⟩)
    all_goals exact ⟨change, h.2⟩
  · rintro ⟨change, hchange⟩
    cases hitem : change.item with
    | filter field => exact .inl (.inl (.inl (.inl ⟨change, field, hitem, hchange⟩)))
    | permitted field operator =>
        exact .inl (.inl (.inl (.inr ⟨change, field, operator, hitem, hchange⟩)))
    | column name => exact .inl (.inl (.inr ⟨change, name, hitem, hchange⟩))
    | sort field => exact .inl (.inr ⟨change, field, hitem, hchange⟩)
    | action name => exact .inr ⟨change, name, hitem, hchange⟩

end Changelog

end EntityGate
