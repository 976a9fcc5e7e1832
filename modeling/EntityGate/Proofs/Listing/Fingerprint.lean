import EntityGate.Listing.Cached
import EntityGate.Proofs.Request.Filters
import EntityGate.Proofs.Session.Effects

/-!
# What a listing depends on

A gate without a base query reads the filters, the orderings and the paging of a request, and all
of these can be told from its fingerprint. Requests of one shape have the same listing:
see `list_of_shape_eq`.
-/

namespace EntityGate

namespace Json

theorem of_string_injective {first second : Option String}
    (h : ofString? first = ofString? second) :
    first = second := by
  cases first <;> cases second <;> simp_all [ofString?]

theorem of_nat_injective {first second : Option Nat} (h : ofNat? first = ofNat? second) :
    first = second := by
  cases first with
  | none =>
      cases second with
      | none => rfl
      | some value => cases h
  | some value =>
      cases second with
      | none => cases h
      | some other =>
          have hint : (value : Int) = other := JsonNumber.int.inj (Json.number.inj h)
          exact congrArg some (Int.ofNat.inj hint)

theorem of_int_injective {first second : Option Int}
    (h : (first.map ofInt).getD .null = (second.map ofInt).getD .null) : first = second := by
  cases first <;> cases second <;> simp_all [ofInt]

end Json

/-- The filters of the request were read from a query string. -/
def Request.FromQuery (request : Request) : Prop :=
  ∃ query, request.filters = (Request.ofQuery query).filters

theorem Request.FromQuery.distinct {request : Request} (h : request.FromQuery) :
    request.filters.Distinct := by
  obtain ⟨query, hfilters⟩ := h
  rw [hfilters]
  exact Request.of_query_distinct query

/-- Requests of one fingerprint have the same filters. -/
theorem Request.filters_of_fingerprint_eq {first second : Request} (hfirst : first.filters.Distinct)
    (hsecond : second.filters.Distinct) (h : first.fingerprint = second.fingerprint) :
    first.filters = second.filters := by
  simp only [fingerprint, Json.object.injEq, List.cons.injEq, Prod.mk.injEq, true_and] at h
  exact RawFilters.to_json_injective hfirst hsecond h.2.1

namespace GateVersion

variable {gate other : GateVersion} {first second : Request}

/-- The shape of a request names the entity and the version of the gate. -/
theorem listing_shape_injective (h : gate.listingShape first = other.listingShape second) :
    gate.entity = other.entity ∧ gate.version = other.version ∧
      first.fingerprint = second.fingerprint := by
  simp only [listingShape, Json.object.injEq, List.cons.injEq, Prod.mk.injEq, true_and,
    Json.string.injEq, and_true] at h
  exact ⟨h.1, Json.of_string_injective h.2.1, h.2.2⟩

/-- What a listing reads of a request when the gate has no base query. -/
theorem list_congr [Libraries] (validate : InputValidator) (defaults : PaginationDefaults)
    (hbase : gate.baseQuery = none)
    (hfilters : first.filters = second.filters) (hsort : first.sort = second.sort)
    (hperPage : first.perPage = second.perPage) (hpage : first.page = second.page)
    (hcursor : first.cursor = second.cursor) (hpagination : first.pagination = second.pagination) :
    gate.list validate defaults first = gate.list validate defaults second := by
  simp only [list, listingQuery, acceptedOrders, filtered, scope, scopedFrom, pagePlan, hbase,
    hfilters, hsort, hperPage, hpage, hcursor, hpagination]

/-- Requests from query strings with one fingerprint have the same listing. -/
theorem list_of_fingerprint_eq [Libraries] (validate : InputValidator)
    (defaults : PaginationDefaults) (hbase : gate.baseQuery = none)
    (hfirst : first.FromQuery) (hsecond : second.FromQuery)
    (h : first.fingerprint = second.fingerprint) :
    gate.list validate defaults first = gate.list validate defaults second := by
  have hfilters := Request.filters_of_fingerprint_eq hfirst.distinct hsecond.distinct h
  simp only [Request.fingerprint, Json.object.injEq, List.cons.injEq, Prod.mk.injEq,
    true_and] at h
  obtain ⟨-, -, hsort, hperPage, hpage, hcursor, hpagination, -⟩ := h
  exact list_congr validate defaults hbase hfilters
    (Json.of_string_injective hsort) (Json.of_int_injective hperPage)
    (Json.of_nat_injective hpage) (Json.of_string_injective hcursor)
    (Json.of_string_injective hpagination)

/-! ## A listing only reads -/

theorem page_reads [Libraries] (query : SelectQuery) (plan : PaginationPlan) (number : Nat) :
    Session.ReadsOnly gate.source (gate.page query plan number) := by
  unfold page
  split
  · exact (Session.ReadsOnly.cursor_paginate _ _ _).bind fun _ => .pure _
  · exact (Session.ReadsOnly.paginate _ _ _).bind fun _ => .pure _
  · exact (Session.ReadsOnly.fetch _).bind fun _ => .pure _

theorem list_reads [Libraries] (gate : GateVersion) (validate : InputValidator)
    (defaults : PaginationDefaults) (request : Request) :
    Session.ReadsOnly gate.source (gate.list validate defaults request) :=
  (Session.ReadsOnly.of_except _).bind fun _ => page_reads _ _ _

end GateVersion

end EntityGate
