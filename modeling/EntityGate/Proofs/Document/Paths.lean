import EntityGate.Document.Generation
import EntityGate.Proofs.Data.Sorted
import EntityGate.Proofs.Document.Pruning
import Mathlib.Data.List.Induction

/-!
# Paths of the document

The operations of a document are those of its table of paths, and the table holds the endpoints that
went into it, as long as no two of them share path and method: see `PathTable.operation_of_list` and
`operation_at_generated`.
-/

namespace EntityGate.Document

/-- The key of a method in the document. -/
def methodKey (method : HttpMethod) : String := Text.lowerAscii method.token

theorem method_key_injective : Function.Injective methodKey := by
  have hall : ∀ method ∈ HttpMethod.all, ∀ other ∈ HttpMethod.all,
      methodKey method = methodKey other → method = other := by
    decide +kernel
  have hmem (method : HttpMethod) : method ∈ HttpMethod.all := by cases method <;> decide
  exact fun method other => hall method (hmem method) other (hmem other)

theorem method_key_keeps_nothing (method : HttpMethod) : keepsEmpty (methodKey method) = false := by
  cases method <;> decide +kernel

/-- Where an endpoint stands. -/
def Endpoint.place (endpoint : Endpoint) : String × HttpMethod := (endpoint.path, endpoint.method)

namespace PathTable

variable {endpoints : List Endpoint}

/-- The operation under a path and the key of a method. -/
def operation? (table : PathTable) (path key : String) : Option Operation :=
  (table.find? path).bind fun methods => methods.find? key

theorem find_add (table : PathTable) (endpoint : Endpoint) (path : String) :
    (table.add endpoint).find? path =
      if path = endpoint.path then
        some (((table.find? endpoint.path).getD .empty).insert (methodKey endpoint.method)
          endpoint.operation)
      else table.find? path :=
  TextMap.find_insert table endpoint.path path _

theorem operation_add (table : PathTable) (endpoint : Endpoint) (path key : String) :
    (table.add endpoint).operation? path key =
      if path = endpoint.path ∧ key = methodKey endpoint.method then some endpoint.operation
      else table.operation? path key := by
  unfold operation?
  rw [find_add]
  by_cases hpath : path = endpoint.path
  · subst hpath
    rw [if_pos rfl, Option.bind_some, TextMap.find_insert]
    by_cases hkey : key = methodKey endpoint.method
    · rw [if_pos hkey, if_pos ⟨rfl, hkey⟩]
    · rw [if_neg hkey, if_neg fun h => hkey h.2]
      cases table.find? endpoint.path with
      | none => rfl
      | some methods => rfl
  · rw [if_neg hpath, if_neg fun h => hpath h.1]

theorem of_list_concat (endpoints : List Endpoint) (endpoint : Endpoint) :
    ofList (endpoints ++ [endpoint]) = (ofList endpoints).add endpoint := by
  simp [ofList]

/-- What stands in a place is the operation of an endpoint that goes there. -/
theorem endpoint_of_operation {path key : String} {operation : Operation}
    (h : (ofList endpoints).operation? path key = some operation) :
    ∃ endpoint ∈ endpoints, endpoint.path = path ∧ methodKey endpoint.method = key ∧
      endpoint.operation = operation := by
  induction endpoints using List.reverseRecOn with
  | nil => simp [ofList, operation?, TextMap.find?, TextMap.empty] at h
  | append_singleton before last ih =>
      rw [of_list_concat, operation_add] at h
      split at h
      · next hplace =>
        exact ⟨last, by simp, hplace.1.symm, hplace.2.symm, Option.some.inj h⟩
      · obtain ⟨endpoint, hmem, hfound⟩ := ih h
        exact ⟨endpoint, List.mem_append_left _ hmem, hfound⟩

/-- There is an operation in the place of every endpoint. -/
theorem operation_is_some {endpoint : Endpoint} (h : endpoint ∈ endpoints) :
    ((ofList endpoints).operation? endpoint.path (methodKey endpoint.method)).isSome := by
  induction endpoints using List.reverseRecOn with
  | nil => cases h
  | append_singleton before last ih =>
      rw [of_list_concat, operation_add]
      split
      · rfl
      · next hplace =>
        rcases List.mem_append.mp h with hmem | hmem
        · exact ih hmem
        · rw [List.mem_singleton.mp hmem] at hplace
          exact (hplace ⟨rfl, rfl⟩).elim

/-- Of endpoints in different places, the table holds every one. -/
theorem operation_of_list (h : (endpoints.map Endpoint.place).Nodup) {path key : String}
    {operation : Operation} :
    (ofList endpoints).operation? path key = some operation ↔
      ∃ endpoint ∈ endpoints, endpoint.path = path ∧ methodKey endpoint.method = key ∧
        endpoint.operation = operation := by
  refine ⟨endpoint_of_operation, ?_⟩
  rintro ⟨endpoint, hmem, rfl, rfl, rfl⟩
  obtain ⟨found, hfound⟩ := Option.isSome_iff_exists.mp (operation_is_some hmem)
  obtain ⟨other, hother, hpath, hkey, rfl⟩ := endpoint_of_operation hfound
  have hsame : other.place = endpoint.place := Prod.ext hpath (method_key_injective hkey)
  rw [hfound, List.inj_on_of_nodup_map h hother hmem hsame]

/-- The table has the paths of its endpoints only. -/
theorem find_of_list {path : String} (h : ((ofList endpoints).find? path).isSome) :
    ∃ endpoint ∈ endpoints, endpoint.path = path := by
  induction endpoints using List.reverseRecOn with
  | nil => simp [ofList, TextMap.find?, TextMap.empty] at h
  | append_singleton before last ih =>
      rw [of_list_concat, find_add] at h
      split at h
      · next hpath => exact ⟨last, by simp, hpath.symm⟩
      · obtain ⟨endpoint, hmem, hpath⟩ := ih h
        exact ⟨endpoint, List.mem_append_left _ hmem, hpath⟩

end PathTable

/-! ## Lookups in the document -/

theorem keys_map_values {α : Type} (write : α → Json) (entries : List (String × α)) :
    (entries.map fun entry => (entry.1, write entry.2)).map Prod.fst = entries.map Prod.fst := by
  rw [List.map_map]
  rfl

/-- What the document says about a path. -/
def pathAt? (document : Json) (path : String) : Option Json :=
  (document.get? "paths").bind fun paths => paths.get? path

/-- What the document says about a method, by its key, on a path. -/
def operationAt? (document : Json) (path key : String) : Option Json :=
  (pathAt? document path).bind fun item => item.get? key

/-- The JSON form of the methods of a path. -/
def methodsJson (methods : TextMap Operation) : Json :=
  .object (methods.entries.map fun method => (method.1, method.2.toJson))

theorem keys_field_of (name : String) (value : Option Json) :
    ((fieldOf? name value).map Prod.fst).Sublist [name] := by
  cases value with
  | none => exact List.nil_sublist _
  | some json => exact .refl _

/-- The fields of an operation have distinct names, and its summary, the body of its request and its
metadata stand among them. -/
theorem operation_fields (operation : Operation) :
    ∃ fields, operation.toJson = .object fields ∧ (fields.map Prod.fst).Nodup ∧
      JsonFields.get? fields "summary" = some (.string operation.summary) ∧
      JsonFields.get? fields "requestBody" =
        operation.requestBody.map Operation.requestBodyJson ∧
      JsonFields.get? fields "x-query-gate" = some operation.metadata := by
  have hnames : ["tags", "summary", "operationId", "parameters", "requestBody", "responses",
      "security", "x-query-gate"].Nodup := by
    decide
  refine ⟨_, rfl, hnames.sublist ?_, rfl, ?_, ?_⟩
  · simp only [List.map_append]
    exact (((((List.Sublist.refl _).append (keys_field_of "parameters" _)).append
      (keys_field_of "requestBody" _)).append (.refl ["responses"])).append
      (keys_field_of "security" _)).append (.refl ["x-query-gate"])
  · cases Operation.parametersJson? operation.parameters <;> cases operation.requestBody <;>
      cases operation.security <;> rfl
  · cases Operation.parametersJson? operation.parameters <;> cases operation.requestBody <;>
      cases operation.security <;> rfl

/-- What is left of an operation is never empty. -/
theorem prune_operation_not_empty (operation : Operation) :
    isEmptyValue (prune operation.toJson) = false := by
  obtain ⟨fields, hfields, hnodup, hsummary, -, -⟩ := operation_fields operation
  rw [hfields]
  exact prune_not_empty hnodup rfl hsummary

/-- The metadata of an operation stands in the document, unless nothing is left of it. -/
theorem metadata_of_operation {operation : Operation}
    (h : isEmptyValue (prune operation.metadata) = false) :
    (prune operation.toJson).get? "x-query-gate" = some (prune operation.metadata) := by
  obtain ⟨fields, hfields, hnodup, -, -, hmetadata⟩ := operation_fields operation
  rw [hfields, get_prune hnodup rfl, hmetadata, Option.map_some, Option.filter_some, h]
  rfl

theorem get_prune_methods {methods : TextMap Operation} {key : String}
    (hkey : ∀ operation, methods.find? key = some operation → keepsEmpty key = false) :
    (prune (methodsJson methods)).get? key =
      (methods.find? key).map fun operation => prune operation.toJson := by
  have hnodup : ((methods.entries.map fun method => (method.1, method.2.toJson)).map
      Prod.fst).Nodup := by
    rw [keys_map_values]
    exact methods.sorted.nodup
  have hget : JsonFields.get? (methods.entries.map fun method => (method.1, method.2.toJson)) key =
      (methods.find? key).map Operation.toJson :=
    lookup_map_values Operation.toJson methods.entries key
  unfold methodsJson
  cases hfound : methods.find? key with
  | none =>
      rw [hfound] at hget
      exact get_prune_of_none hnodup hget
  | some operation =>
      rw [get_prune hnodup (hkey operation hfound), hget, hfound]
      simp [prune_operation_not_empty]

section Generated

variable {settings : GateSettings} {pages : List GatePage}

/-- The fields of the document before pruning have distinct names, and the paths and the components
stand among them. -/
theorem document_fields (settings : GateSettings) (pages : List GatePage) :
    ∃ fields, ofPages settings pages = .object fields ∧ (fields.map Prod.fst).Nodup ∧
      JsonFields.get? fields "paths" = some (pathTable pages).toJson ∧
      JsonFields.get? fields "components" = some (components settings pages) := by
  refine ⟨_, rfl, ?_, rfl, rfl⟩
  show ["openapi", "info", "servers", "paths", "components", "tags"].Nodup
  decide

/-- The fields of the table of paths in JSON. -/
def pathFields (pages : List GatePage) : JsonFields :=
  (pathTable pages).entries.map fun path => (path.1, methodsJson path.2)

theorem path_fields_nodup (pages : List GatePage) : ((pathFields pages).map Prod.fst).Nodup := by
  unfold pathFields
  rw [keys_map_values]
  exact (pathTable pages).sorted.nodup

theorem get_path_fields (pages : List GatePage) (path : String) :
    JsonFields.get? (pathFields pages) path = ((pathTable pages).find? path).map methodsJson :=
  lookup_map_values methodsJson (pathTable pages).entries path

/-- What the document says about a path is what is left of its table of paths. -/
theorem path_at_generated (path : String) :
    pathAt? (prune (ofPages settings pages)) path =
      (prune (.object (pathFields pages))).get? path := by
  obtain ⟨fields, hfields, hnodup, hpaths, -⟩ := document_fields settings pages
  unfold pathAt?
  rw [hfields, get_get_prune hnodup rfl path, hpaths]
  rfl

/-- The document has the paths of its endpoints only. -/
theorem endpoint_of_path_at {path : String}
    (h : (pathAt? (prune (ofPages settings pages)) path).isSome) :
    ∃ endpoint ∈ pages.flatMap GatePage.endpoints, endpoint.path = path := by
  refine PathTable.find_of_list (Option.isSome_iff_ne_none.mpr fun hnone => ?_)
  have hget := get_path_fields pages path
  rw [pathTable, hnone, Option.map_none] at hget
  rw [path_at_generated, get_prune_of_none (path_fields_nodup pages) hget] at h
  cases h

/-- The operations of the document are those of its table of paths. -/
theorem operation_at_generated
    (h : ∀ endpoint ∈ pages.flatMap GatePage.endpoints, keepsEmpty endpoint.path = false)
    (path key : String) :
    operationAt? (prune (ofPages settings pages)) path key =
      ((pathTable pages).operation? path key).map fun operation => prune operation.toJson := by
  have hget := get_path_fields pages path
  unfold operationAt?
  rw [path_at_generated]
  cases hfound : (pathTable pages).find? path with
  | none =>
      rw [hfound, Option.map_none] at hget
      rw [get_prune_of_none (path_fields_nodup pages) hget, PathTable.operation?, hfound]
      rfl
  | some methods =>
      obtain ⟨endpoint, hmem, rfl⟩ := PathTable.find_of_list (Option.isSome_of_eq_some hfound)
      have hlisted (key : String) :
          (pathTable pages).operation? endpoint.path key = methods.find? key := by
        rw [PathTable.operation?, hfound, Option.bind_some]
      have hkey : ∀ operation, methods.find? key = some operation → keepsEmpty key = false := by
        intro operation hoperation
        rw [← hlisted] at hoperation
        obtain ⟨other, -, -, rfl, -⟩ := PathTable.endpoint_of_operation hoperation
        exact method_key_keeps_nothing other.method
      rw [get_get_prune (path_fields_nodup pages) (h endpoint hmem), hget, hfound, hlisted]
      exact get_prune_methods hkey

end Generated

end EntityGate.Document
