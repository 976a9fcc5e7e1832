import EntityGate.Proofs.Listing.Scope
import EntityGate.Proofs.Request.Acceptance
import EntityGate.Proofs.Session.Effects
import EntityGate.Proofs.Validation.RuleMap

/-!
# What a listing asks of the store

A gate that declares its filters and its orderings lets a request name nothing else: the filters,
the orderings and the position of a cursor that reach the store are about declared fields, and the
number of rows asked for is bounded. See `list_calls_declared`.
-/

namespace EntityGate

open Session (perform CallsOnly)

/-! ## Fields and operators of predicates -/

/-- The operator that makes a comparison. -/
def FilterOperator.ofComparison : Comparison → FilterOperator
  | .eq => .eq
  | .neq => .neq
  | .lt => .lt
  | .lte => .lte
  | .gt => .gt
  | .gte => .gte

theorem FilterOperator.of_comparison_eq {operator : FilterOperator} {comparison : Comparison}
    (h : operator.comparison? = some comparison) : ofComparison comparison = operator := by
  cases operator <;> cases h <;> rfl

namespace Predicate

/-- The field and the operator of a predicate that is a single filter. -/
def asked? : Predicate → Option (String × FilterOperator)
  | .compare field comparison _ _ => some (field, .ofComparison comparison)
  | .isNull field negated => some (field, if negated then .neq else .eq)
  | .oneOf field _ _ => some (field, .oneOf)
  | .between field _ _ _ => some (field, .between)
  | .like field _ => some (field, .like)
  | .any _ | .all _ => none

mutual

/-- The fields that a predicate looks at, at any depth. -/
def fields : Predicate → List String
  | .compare field _ _ _ | .isNull field _ | .oneOf field _ _ | .between field _ _ _
  | .like field _ => [field]
  | .any alternatives => fieldsOf alternatives
  | .all conditions => fieldsOf conditions

/-- The fields that some of the predicates look at. -/
def fieldsOf : List Predicate → List String
  | [] => []
  | predicate :: rest => fields predicate ++ fieldsOf rest

end

@[simp] theorem fields_of_append (first second : List Predicate) :
    fieldsOf (first ++ second) = fieldsOf first ++ fieldsOf second := by
  induction first with
  | nil => rfl
  | cons predicate rest ih => simp [fieldsOf, ih]

end Predicate

theorem Cursor.mem_fields_branches {terms : List OrderTerm} {equal : List Predicate}
    {values : List Json} {field : String}
    (h : field ∈ Predicate.fieldsOf (branches equal terms values)) :
    field ∈ Predicate.fieldsOf equal ∨ ∃ term ∈ terms, term.field = field := by
  induction terms generalizing equal values with
  | nil => cases h
  | cons term terms ih =>
      -- One more condition of the branch, or one more equality before the later branches.
      have hone (comparison : Comparison) (value : Json)
          (hfield : field ∈
            Predicate.fieldsOf (equal ++ [.compare term.field comparison value .json])) :
          field ∈ Predicate.fieldsOf equal ∨ ∃ term' ∈ term :: terms, term'.field = field := by
        rw [Predicate.fields_of_append] at hfield
        rcases List.mem_append.mp hfield with hequal | hterm
        · exact .inl hequal
        · exact .inr ⟨term, List.mem_cons_self, (List.mem_singleton.mp hterm).symm⟩
      rcases List.mem_append.mp h with hbranch | hrest
      · exact hone _ _ hbranch
      · rcases ih hrest with hequal | ⟨other, hother, hfield⟩
        · cases values with
          | nil => exact .inl (by simpa using hequal)
          | cons value others => exact hone _ _ hequal
        · exact .inr ⟨other, List.mem_cons_of_mem _ hother, hfield⟩

/-- A cursor compares fields of the orderings only. -/
theorem Cursor.mem_fields_after {orders : List OrderTerm} {values : List Json} {field : String}
    (h : field ∈ (after orders values).fields) : ∃ term ∈ orders, term.field = field := by
  rcases mem_fields_branches h with hnone | hterm
  · cases hnone
  · exact hterm

namespace SelectQuery

/-- Predicates that are asked for one after the other stand behind those before. -/
theorem steps_add_predicate (query : SelectQuery) (predicates : List Predicate) :
    query.steps (predicates.map .addPredicate) =
      { query with predicates := query.predicates ++ predicates } := by
  unfold steps
  induction predicates generalizing query with
  | nil => simp
  | cons predicate rest ih =>
      rw [List.map_cons, List.foldl_cons, ih]
      simp [step, addPredicate]

end SelectQuery

/-! ## Page sizes -/

/-- The greatest number of rows on a page. -/
def PaginationDefaults.greatest (defaults : PaginationDefaults) : Nat :=
  max (max defaults.perPage defaults.maxPerPage) 1

theorem PaginationPlan.page_size_le (requested : Option Int) (defaults : PaginationDefaults) :
    pageSize requested defaults ≤ defaults.greatest := by
  cases requested with
  | none =>
      show min (max defaults.perPage 1) _ ≤ max (max defaults.perPage defaults.maxPerPage) 1
      omega
  | some size =>
      show (if size < 1 then 1 else min size.toNat (max defaults.maxPerPage _)) ≤
        max (max defaults.perPage defaults.maxPerPage) 1
      split <;> omega

namespace GateVersion

variable {gate : GateVersion} {validate : InputValidator} {defaults : PaginationDefaults}
  {request : Request} {query : SelectQuery}

/-- A safe field with rules, and an operator that may be used on it. -/
structure DeclaresFilter (gate : GateVersion) (field : String) (operator : FilterOperator) :
    Prop where
  safe : Identifier.isSafe field = true
  declared : field ∈ gate.filters.keys
  permitted : ∀ operators, gate.operators.find? field = some operators → operator ∈ operators

/-- A safe field among the orderings of the gate, or the key. -/
def OrdersBy (gate : GateVersion) (field : String) : Prop :=
  (Identifier.isSafe field = true ∧ field ∈ gate.sorts) ∨ field = gate.source.primaryKey

/-- All predicates are filters that the gate declares. -/
def DeclaresFilters (gate : GateVersion) (predicates : List Predicate) : Prop :=
  ∀ predicate ∈ predicates, ∃ field operator,
    predicate.asked? = some (field, operator) ∧ gate.DeclaresFilter field operator

/-- All orderings are by fields that the gate may order by. -/
def DeclaresOrders (gate : GateVersion) (orders : List OrderTerm) : Prop :=
  ∀ term ∈ orders, gate.OrdersBy term.field

/-- The query holds declared filters and orderings and, on a walk, the position of a cursor, which
compares nothing but fields of the orderings. -/
structure DeclaresQuery (gate : GateVersion) (mode : PaginationMode) (query : SelectQuery) :
    Prop where
  predicates : ∃ filters position, query.predicates = filters ++ position ∧
    gate.DeclaresFilters filters ∧
      (position = [] ∨ mode = .cursor ∧ ∃ values, position = [Cursor.after query.orders values] ∧
        ∀ field ∈ (Cursor.after query.orders values).fields, gate.OrdersBy field)
  orders : gate.DeclaresOrders query.orders

/-- The number of rows that a mode lets a query ask for. -/
def BoundsLimit (defaults : PaginationDefaults) : PaginationMode → Option Nat → Prop
  | .classic, limit => ∃ size ≤ defaults.greatest, limit = some size
  | .cursor, limit => ∃ size ≤ defaults.greatest + 1, limit = some size
  | .unpaged, limit => limit = none

/-- The calls of a listing whose gate declares what may be asked for. -/
def AllowsCall (gate : GateVersion) (defaults : PaginationDefaults) (mode : PaginationMode) :
    StoreCall → Prop
  | .fetch source query =>
    source = gate.source ∧ gate.DeclaresQuery mode query ∧ BoundsLimit defaults mode query.limit
  | .count source query =>
    source = gate.source ∧ gate.DeclaresQuery mode query ∧ query.limit = none
  | .insert .. | .update .. | .delete .. => False

/-! ## The query of a listing -/

/-- The predicate of an instruction is about its field and carries out its operator. -/
theorem asked_of_filter_predicate {kind : ValueKind} {instruction : FilterInstruction}
    {predicate : Predicate} (h : filterPredicate? kind instruction = some predicate) :
    predicate.asked? = some (instruction.field, instruction.operator) := by
  unfold filterPredicate? at h
  split at h
  case h_1 hoperator _ | h_2 hoperator _ | h_3 hoperator _ | h_4 hoperator _ | h_5 hoperator _ =>
    cases h
    rw [hoperator]
    rfl
  case h_6 =>
    obtain ⟨comparison, hcomparison, rfl⟩ := Option.map_eq_some_iff.mp h
    simp only [Predicate.asked?, FilterOperator.of_comparison_eq hcomparison]
  case h_7 => cases h

/-- Without custom filters an instruction asks for its predicate, if it has one. -/
theorem flat_map_filter_steps (hcustom : gate.customFilters.isEmpty = true)
    (instructions : List FilterInstruction) :
    instructions.flatMap gate.filterSteps =
      (instructions.filterMap fun instruction =>
        filterPredicate? (gate.kindOf instruction.field) instruction).map .addPredicate := by
  have hnone (field : String) : gate.customFilters.find? field = none := by
    rw [TextMap.find?, List.isEmpty_iff.mp hcustom]
    rfl
  induction instructions with
  | nil => rfl
  | cons instruction rest ih =>
      rw [List.flatMap_cons, ih, List.filterMap_cons]
      simp only [filterSteps, hnone]
      cases filterPredicate? (gate.kindOf instruction.field) instruction <;> rfl

/-- Without a base query and custom filters a listing asks for the predicates of its instructions
and for the orderings that the gate accepts. -/
theorem listing_query_eq (hcustom : gate.customFilters.isEmpty = true)
    (hbase : gate.baseQuery = none) (h : gate.listingQuery validate request = .ok query) :
    ∃ instructions, gate.grammar.parse validate request.filters = .ok instructions ∧
      query = {
        columns := gate.columns
        predicates := instructions.filterMap fun instruction =>
          filterPredicate? (gate.kindOf instruction.field) instruction
        orders := gate.acceptedOrders request } := by
  obtain ⟨instructions, hparse, hquery⟩ := except_bind_eq_ok h
  refine ⟨instructions, hparse, ?_⟩
  obtain rfl := Except.ok.inj hquery
  rw [SelectQuery.foldl_add_order, filtered, flat_map_filter_steps hcustom,
    SelectQuery.steps_add_predicate, scope, scopedFrom, hbase]
  simp

/-- An instruction that the grammar lets through is for a filter that the gate declares. -/
theorem declares_filter_of_sound (hfilters : gate.filters.isEmpty = false)
    (hcustom : gate.customFilters.isEmpty = true) {instruction : FilterInstruction}
    (h : gate.grammar.Sound instruction) :
    gate.DeclaresFilter instruction.field instruction.operator := by
  obtain ⟨hsafe, hdeclares, hpermits⟩ := h
  have hkeys : gate.customFilters.keys = [] := by
    rw [TextMap.keys, List.isEmpty_iff.mp hcustom]
    rfl
  refine ⟨hsafe, ?_, ?_⟩
  · simp only [Filter.Grammar.declares, grammar, hfilters, hkeys, Bool.false_and, Bool.false_or,
      List.contains_nil, Bool.or_false] at hdeclares
    exact RuleMap.contains_iff_mem_keys.mp hdeclares
  · intro operators hoperators
    simp only [Filter.Grammar.permits, grammar, hoperators] at hpermits
    exact List.contains_iff_mem.mp hpermits

theorem orders_by_of_sorts_by (hsorts : gate.sorts ≠ []) {field : String}
    (h : gate.sortsBy field = true) : gate.OrdersBy field := by
  obtain ⟨hsafe, hsort⟩ := Bool.and_eq_true_iff.mp h
  rw [List.isEmpty_eq_false_iff.mpr hsorts, Bool.false_or] at hsort
  exact .inl ⟨hsafe, List.contains_iff_mem.mp hsort⟩

/-- Before it is cut into pages, the query of a listing asks for declared filters and orderings. -/
theorem listing_query_declared (hfilters : gate.filters.isEmpty = false) (hsorts : gate.sorts ≠ [])
    (hcustom : gate.customFilters.isEmpty = true) (hbase : gate.baseQuery = none)
    (h : gate.listingQuery validate request = .ok query) :
    gate.DeclaresFilters query.predicates ∧ gate.DeclaresOrders query.orders ∧
      query.limit = none := by
  obtain ⟨instructions, hparse, rfl⟩ := listing_query_eq hcustom hbase h
  refine ⟨?_, ?_, rfl⟩
  · intro predicate hpredicate
    obtain ⟨instruction, hinstruction, hfilter⟩ := List.mem_filterMap.mp hpredicate
    have hsound := Filter.Grammar.parse_sound hparse instruction hinstruction
    exact ⟨_, _, asked_of_filter_predicate hfilter,
      declares_filter_of_sound hfilters hcustom hsound⟩
  · intro term hterm
    exact orders_by_of_sorts_by hsorts (List.mem_filter.mp hterm).2

/-! ## The calls of a listing -/

/-- A query without a position is declared in every mode. -/
theorem declares_query_of_filters {mode : PaginationMode}
    (hfilters : gate.DeclaresFilters query.predicates)
    (horders : gate.DeclaresOrders query.orders) : gate.DeclaresQuery mode query :=
  ⟨⟨query.predicates, [], (List.append_nil _).symm, hfilters, .inl rfl⟩, horders⟩

/-- The key that a walk adds to the orderings is one that the gate may order by, in whichever
direction the walk goes. -/
theorem walk_orders_declared (h : gate.DeclaresOrders query.orders) (perPage : Nat)
    (cursor : Option Cursor) :
    gate.DeclaresOrders (CursorPage.query query gate.source perPage cursor).orders := by
  have hwithKey : gate.DeclaresOrders (CursorPage.ordersWithKey gate.source query.orders) := by
    intro term hterm
    unfold CursorPage.ordersWithKey at hterm
    split at hterm
    · exact h term hterm
    · rcases List.mem_append.mp hterm with hterm | hkey
      · exact h term hterm
      · exact .inr (congrArg OrderTerm.field (List.mem_singleton.mp hkey))
  intro term hterm
  unfold CursorPage.query at hterm
  split at hterm
  · obtain ⟨ahead, hahead, rfl⟩ := List.mem_map.mp hterm
    exact hwithKey ahead hahead
  · exact hwithKey term hterm

/-- The query for a page of a walk is declared whatever the cursor is, a forged one included: its
values are compared with fields of the orderings only. -/
theorem walk_query_declared (hfilters : gate.DeclaresFilters query.predicates)
    (horders : gate.DeclaresOrders query.orders) (perPage : Nat) (cursor : Option Cursor) :
    gate.DeclaresQuery .cursor (CursorPage.query query gate.source perPage cursor) := by
  have hwalk := walk_orders_declared horders perPage cursor
  refine ⟨⟨query.predicates, _, rfl, hfilters, ?_⟩, hwalk⟩
  cases cursor with
  | none => exact .inl rfl
  | some start =>
      refine .inr ⟨rfl, start.values, rfl, ?_⟩
      intro field hfield
      obtain ⟨term, hterm, rfl⟩ := Cursor.mem_fields_after hfield
      exact hwalk term hterm

/-- The page of a listing is fetched with calls that the gate allows. -/
theorem page_calls_declared [Libraries] (hfilters : gate.DeclaresFilters query.predicates)
    (horders : gate.DeclaresOrders query.orders) (hlimit : query.limit = none) (number : Nat) :
    CallsOnly (gate.AllowsCall defaults (gate.pagePlan defaults request).mode)
      (gate.page query (gate.pagePlan defaults request) number) := by
  have hdeclared (mode : PaginationMode) : gate.DeclaresQuery mode query :=
    declares_query_of_filters hfilters horders
  have hsize : max (PaginationPlan.pageSize request.perPage defaults) 1 ≤ defaults.greatest :=
    Nat.max_le.mpr ⟨PaginationPlan.page_size_le _ _, Nat.le_max_right _ _⟩
  unfold pagePlan PaginationPlan.resolve
  split
  · exact (CallsOnly.fetch ⟨rfl, hdeclared _, hlimit⟩).bind fun _ => .pure _
  · refine (CallsOnly.paginate ⟨rfl, hdeclared _, hlimit⟩ fun offset => ?_).bind fun _ => .pure _
    exact ⟨rfl, declares_query_of_filters hfilters horders, _, hsize, rfl⟩
  · refine (CallsOnly.cursor_paginate _ fun cursor => ?_).bind fun _ => .pure _
    -- One row more than the page holds.
    exact ⟨rfl, walk_query_declared hfilters horders _ cursor, _, Nat.succ_le_succ hsize, rfl⟩

/-- Only declared fields and permitted operators reach the store. Every call of a listing is a
fetch or a count whose filters, orderings and cursor position the gate declares and whose number of
rows it bounds, and filters that are not all accepted are refused before any call. -/
theorem list_calls_declared [Libraries] (gate : GateVersion) (validate : InputValidator)
    (defaults : PaginationDefaults) (request : Request) (session : Session)
    (hfilters : gate.filters.isEmpty = false) (hsorts : gate.sorts ≠ [])
    (hcustom : gate.customFilters.isEmpty = true) (hbase : gate.baseQuery = none) :
    (∃ calls, (perform session (gate.list validate defaults request)).2 = session.noting calls ∧
      ∀ call ∈ calls,
        gate.AllowsCall defaults (gate.pagePlan defaults request).mode call) ∧
    (¬ gate.grammar.Accepts validate request.filters →
      ∃ error, perform session (gate.list validate defaults request) =
        (.error (.reported error), session)) := by
  cases hquery : gate.listingQuery validate request with
  | error error =>
      rw [perform_list_error hquery]
      exact ⟨⟨[], (Session.noting_nil session).symm, nofun⟩, fun _ => ⟨error, rfl⟩⟩
  | ok query =>
      obtain ⟨hpredicates, horders, hlimit⟩ :=
        listing_query_declared hfilters hsorts hcustom hbase hquery
      rw [perform_list_ok hquery]
      refine ⟨page_calls_declared hpredicates horders hlimit _ session, fun hrefused => ?_⟩
      obtain ⟨instructions, hparse, -⟩ := except_bind_eq_ok hquery
      exact False.elim (hrefused (Filter.Grammar.parse_ok_iff.mp ⟨instructions, hparse⟩))

/-- A gate that declares a filter with one operator and an ordering. -/
def shelfGate : GateVersion :=
  { postGate with
    filters := .single "title" ["string"]
    operators := .ofList [("title", [.eq])]
    sorts := ["title"] }

/-- A request for a title, sorted by a column that is not declared too. -/
def shelfRequest : Request :=
  { filters := (RawFilters.empty.push "title" "eq" (.string "x")).push "title" "like" (.string "y")
    sort := some "secret,title:desc"
    perPage := some 100000 }

open scoped Bundled in
/-- A count and a fetch of declared fields answer the request, and a filter on another field is
refused without any call. -/
theorem list_calls_declared_of_shelf :
    let refused : Request := { filters := .push .empty "secret" "eq" (.string "x") }
    (∃ calls, (perform postSession (shelfGate.list Validator.validate {} shelfRequest)).2 =
        postSession.noting calls ∧
      calls.length = 2 ∧ ∀ call ∈ calls, shelfGate.AllowsCall {} .classic call) ∧
    ∃ error, perform postSession (shelfGate.list Validator.validate {} refused) =
      (.error (.reported error), postSession) := by
  intro refused
  have hfilters : shelfGate.filters.isEmpty = false := rfl
  have hsorts : shelfGate.sorts ≠ [] := List.cons_ne_nil _ _
  obtain ⟨⟨calls, hcalls, hallowed⟩, -⟩ :=
    list_calls_declared shelfGate Validator.validate {} shelfRequest postSession hfilters hsorts rfl
      rfl
  obtain ⟨-, hrefused⟩ :=
    list_calls_declared shelfGate Validator.validate {} refused postSession hfilters hsorts rfl rfl
  have hjournal : (perform postSession
      (shelfGate.list Validator.validate {} shelfRequest)).2.journal.length = 2 := by
    rfl
  have hmode : (shelfGate.pagePlan {} shelfRequest).mode = .classic := by rfl
  refine ⟨⟨calls, hcalls, ?_, hmode ▸ hallowed⟩, hrefused fun haccepts => ?_⟩
  · rw [hcalls] at hjournal
    exact hjournal
  · have hdeclares : shelfGate.grammar.declares "secret" = true :=
      (haccepts _ List.mem_cons_self).2.1
    cases hdeclares

end GateVersion

end EntityGate
