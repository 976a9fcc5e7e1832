import EntityGate.Gate.Basic
import EntityGate.Proofs.Listing.Fingerprint
import EntityGate.Proofs.Request.QueryFilters
import EntityGate.Proofs.Request.Reordering
import EntityGate.Proofs.Text.Utf8

/-!
# The key of a listing and the order of parameters

A fingerprint writes what controls the listing and what is kept by name in one order, and the
filters in the order in which they are first asked for. So parameters in another order come to
fingerprints that are equal values, but the text of a fingerprint, and with it the key, follows the
order of the filters: see `listing_key_of_reordered`.
-/

namespace EntityGate

theorem Json.same_optional (text : Option String) :
    (Json.ofString? text).sameValue (Json.ofString? text) = true := by
  cases text with
  | none => rfl
  | some text => exact beq_self_eq_true text

namespace Request

variable {parameters others : List (String × String)} {method method' : String}
  {headers headers' : List (String × String)}

theorem same_value_of (asks : List (FilterKey × String)) :
    (valueOf asks).sameValue (valueOf asks) = true := by
  have hvalues : ∀ value ∈ (gather asks).1, value.sameValue value = true := by
    intro value hvalue
    obtain ⟨text, rfl⟩ := gather_strings asks value hvalue
    exact beq_self_eq_true text
  unfold valueOf
  split
  · exact Json.same_items_self hvalues
  · rw [List.getLastD_eq_getLast?]
    cases hlast : (gather asks).1.getLast? with
    | none => rfl
    | some value => exact hvalues value (List.mem_of_getLast? hlast)

/-- Filters with the same values are equal where they are written as JSON. -/
theorem same_filters
    (h : (ofParameters parameters).filters.SameValues (ofParameters others).filters) :
    (ofParameters parameters).filters.toJson.sameValue
      (ofParameters others).filters.toJson = true := by
  refine h.to_json (of_parameters_distinct parameters) (of_parameters_distinct others)
    (of_parameters_filled parameters) (of_parameters_filled others)
    fun field token value hvalue => ?_
  rw [value_at_of_parameters] at hvalue
  split at hvalue
  · cases hvalue
  · obtain rfl := Option.some.inj hvalue
    exact same_value_of _

/-- What is kept by its name is written once for each name. -/
theorem same_params (parameters : List (String × String)) :
    let params : List (String × Json) :=
      (ofParameters parameters).params.entries.map fun entry => (entry.1, .string entry.2)
    (Json.object params).sameValue (.object params) = true := by
  intro params
  have hkeys : params.map Prod.fst = (ofParameters parameters).params.keys := List.map_map ..
  have hnodup : (params.map Prod.fst).Nodup := hkeys ▸ (ofParameters parameters).params.sorted.nodup
  refine Json.same_object_of_keys hnodup hnodup (fun _ => Iff.rfl)
    fun key value other hvalue hother => ?_
  obtain rfl := Option.some.inj (hvalue.symm.trans hother)
  rw [lookup_map_values Json.string] at hvalue
  obtain ⟨text, -, rfl⟩ := Option.map_eq_some_iff.mp hvalue
  exact beq_self_eq_true text

/-- Parameters in another order come to the same fingerprint but for the filters. -/
theorem Reordered.fingerprint_eq (h : Reordered parameters others)
    (hactor : (ofParts parameters method headers).actor = (ofParts others method' headers').actor) :
    (ofParts parameters method headers).fingerprint =
      { ofParts others method' headers' with
        filters := (ofParameters parameters).filters }.fingerprint := by
  have hcontrols := h.of_parameters_eq
  generalize hfilters : (ofParameters parameters).filters = filters at hcontrols ⊢
  unfold fingerprint
  rw [hactor]
  simp only [ofParts, withHeaders, hcontrols]

/-- Fingerprints of parameters in another order are equal values if the filters have the same
values. -/
theorem Reordered.same_fingerprint (h : Reordered parameters others)
    (hactor : (ofParts parameters method headers).actor = (ofParts others method' headers').actor)
    (hvalues : (ofParameters parameters).filters.SameValues (ofParameters others).filters) :
    (ofParts parameters method headers).fingerprint.sameValue
      (ofParts others method' headers').fingerprint = true := by
  have hperPage (value : Option Int) : ((value.map Json.ofInt).getD .null).sameValue
      ((value.map Json.ofInt).getD .null) = true := by
    cases value with
    | none => rfl
    | some value => exact beq_self_eq_true value
  have hpage (value : Option Nat) : (Json.ofNat? value).sameValue (Json.ofNat? value) = true := by
    cases value with
    | none => rfl
    | some value => exact beq_self_eq_true (value : Int)
  rw [h.fingerprint_eq hactor]
  refine Json.same_object_iff.mpr ⟨rfl, Json.same_fields_iff.mpr ?_⟩
  simp only [List.forall_mem_cons]
  exact ⟨⟨_, rfl, Json.same_optional _⟩, ⟨_, rfl, same_filters hvalues⟩,
    ⟨_, rfl, Json.same_optional _⟩, ⟨_, rfl, hperPage _⟩, ⟨_, rfl, hpage _⟩,
    ⟨_, rfl, Json.same_optional _⟩, ⟨_, rfl, Json.same_optional _⟩, ⟨_, rfl, same_params others⟩,
    nofun⟩

end Request

namespace GateVersion

open Request

/-- The text that is hashed for a key is read as the shape of the request. -/
theorem reads_back_listing_shape (gate : GateVersion) (parameters : List (String × String))
    (method : String) (headers : List (String × String)) :
    Json.ReadsBack 5 (gate.listingShape (ofParts parameters method headers)) := by
  refine Json.reads_back_object ?_
  simp only [List.forall_mem_cons]
  exact ⟨(Json.reads_back_string _).mono (by decide), (Json.reads_back_optional _).mono (by decide),
    reads_back_fingerprint parameters method headers, nofun⟩

/-- Parameters change places, those of one key keep their order, and the actor is the same. A filter
whose parameters have kept their order keeps its value. Where all filters keep their values, the two
fingerprints are equal values, and where the filters are also asked for in the same order, the keys
are the same. Otherwise the texts that are hashed differ, so that the keys differ too unless the
digests collide. -/
theorem listing_key_of_reordered (gate : GateVersion) (keyStart : String) {query other : String}
    {method method' : String} {headers headers' : List (String × String)}
    (h : Reordered (Text.decodeForm query) (Text.decodeForm other))
    (hactor : ((Request.ofQuery query).withHeaders method headers).actor =
      ((Request.ofQuery other).withHeaders method' headers').actor) :
    let first := (Request.ofQuery query).withHeaders method headers
    let second := (Request.ofQuery other).withHeaders method' headers'
    (∀ field token,
      ((Text.decodeForm query).filter fun parameter => Asks parameter field token) =
        ((Text.decodeForm other).filter fun parameter => Asks parameter field token) →
      first.filters.valueAt? field token = second.filters.valueAt? field token) ∧
    (first.filters.SameValues second.filters →
      first.fingerprint.sameValue second.fingerprint = true) ∧
    (AskedAlike (Text.decodeForm query) (Text.decodeForm other) →
      first.filters.SameValues second.filters →
      gate.listingKey keyStart first = gate.listingKey keyStart second) ∧
    (gate.listingKey keyStart first = gate.listingKey keyStart second →
      AskedAlike (Text.decodeForm query) (Text.decodeForm other) ∧
          first.filters.SameValues second.filters ∨
        (gate.listingShape first).compact ≠ (gate.listingShape second).compact ∧
          Digest.sha256Hex (gate.listingShape first).compact =
            Digest.sha256Hex (gate.listingShape second).compact) := by
  intro first second
  refine ⟨fun _ _ => value_at_congr, h.same_fingerprint hactor, fun hasked hvalues => ?_,
    fun hkey => ?_⟩
  · have hfilters : first.filters = second.filters := filters_eq_iff.mpr ⟨hasked, hvalues⟩
    have hfingerprints : first.fingerprint = second.fingerprint :=
      (h.fingerprint_eq hactor).trans
        (congrArg (fun filters => Request.fingerprint { second with filters }) hfilters)
    unfold listingKey listingShape
    rw [hfingerprints]
  · have hdigests : Digest.sha256Hex (gate.listingShape first).compact =
        Digest.sha256Hex (gate.listingShape second).compact := by
      unfold listingKey at hkey
      rwa [String.append_right_inj] at hkey
    refine or_iff_not_imp_right.mpr fun hcollision => ?_
    have hwritten : (gate.listingShape first).compact = (gate.listingShape second).compact :=
      not_not.mp fun hne => hcollision ⟨hne, hdigests⟩
    have hshapes := Json.compact_injective (reads_back_listing_shape gate _ method headers)
      (reads_back_listing_shape gate _ method' headers') (by decide) hwritten
    have hfirst : first.filters.Distinct := of_query_distinct query
    have hsecond : second.filters.Distinct := of_query_distinct other
    have hfilters : first.filters = second.filters :=
      filters_of_fingerprint_eq hfirst hsecond (listing_shape_injective hshapes).2.2
    exact filters_eq_iff.mp hfilters

/-- What controls a listing of posts and what is kept by its name change places, also with filters,
and the key stays the same. -/
theorem listing_key_of_moved_controls :
    let query := "filter[title]=a&sort=id&tag=x&filter[id][gt]=1"
    let other := "tag=x&filter[title]=a&filter[id][gt]=1&sort=id"
    ∃ gate version, ({ entity := "Post" } : GateDraft).build = .ok gate ∧
      gate.version none = .ok version ∧ Reordered (Text.decodeForm query) (Text.decodeForm other) ∧
      version.listingKey "query-gate" ((Request.ofQuery query).withHeaders "GET" []) =
        version.listingKey "query-gate" ((Request.ofQuery other).withHeaders "GET" []) := by
  intro query other
  obtain ⟨gate, version, hbuild, hversion⟩ : ∃ gate version,
      ({ entity := "Post" } : GateDraft).build = .ok gate ∧ gate.version none = .ok version :=
    ⟨_, _, rfl, rfl⟩
  have hordered : Reordered (Text.decodeForm query) (Text.decodeForm other) :=
    ⟨by decide +kernel, by decide +kernel⟩
  have hsame : asked (Text.decodeForm query) = asked (Text.decodeForm other) := by decide +kernel
  -- From here on the two query strings need not be decoded again.
  clear_value query other
  obtain ⟨hasked, hvalues⟩ := filters_eq_iff.mp (filters_of_asked_eq hsame)
  have hactor (first second : Request) :
      (first.withHeaders "GET" []).actor = (second.withHeaders "GET" []).actor := rfl
  obtain ⟨-, -, hkeys, -⟩ :=
    listing_key_of_reordered version "query-gate" hordered (hactor _ _)
  exact ⟨gate, version, hbuild, hversion, hordered, hkeys hasked hvalues⟩

/-- Two filters of posts change places, and the key changes. -/
theorem moved_filter_changes_key :
    ∃ gate version, ({ entity := "Post" } : GateDraft).build = .ok gate ∧
      gate.version none = .ok version ∧
      Reordered (Text.decodeForm "filter[a]=1&filter[b]=2")
        (Text.decodeForm "filter[b]=2&filter[a]=1") ∧
      version.listingKey "query-gate" (Request.ofQuery "filter[a]=1&filter[b]=2") ≠
        version.listingKey "query-gate" (Request.ofQuery "filter[b]=2&filter[a]=1") := by
  refine ⟨_, _, rfl, rfl, ⟨by decide +kernel, by decide +kernel⟩, ?_⟩
  -- The two texts stay lists of characters, which are quicker to compute with than packed ones.
  simp only [listingKey, Digest.sha256Hex, Text.bytes_of_text, Json.compact, String.toList_ofList,
    ne_eq, String.append_right_inj, String.ofList_inj]
  decide +kernel

end GateVersion

end EntityGate
