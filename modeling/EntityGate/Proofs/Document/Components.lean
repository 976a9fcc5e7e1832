import EntityGate.Proofs.Document.Emptiness
import EntityGate.Proofs.Service.Agreement
import Mathlib.Data.List.Pairwise

/-!
# Schemas under their names

The document keeps the schemas of all gates and actions under names that are made of theirs, and the
request body of an operation refers to the schema of its action by name. Read `DescribesBodies` for
what this comes to and `bodies_described` for the result: the last schema of a name counts, so that
every reference means its own schema where the names are apart. Only the names of gates are kept
apart by the document itself, see `components_nodup`; two actions may share one, see
`shared_payload_name`.
-/

namespace EntityGate.Document

/-! ## Schemas have nothing empty inside -/

theorem schema_not_empty (schema : Schema) : isEmptyValue schema.toJson = false := by
  cases schema <;> rfl

theorem not_null_of_filled {value : Json} (h : isEmptyValue value = false) :
    value.isNull = false := by
  cases value with
  | null => cases h
  | _ => rfl

/-- A filled value is dropped under no key. -/
theorem not_dropped_of_filled {field : String × Json} (h : isEmptyValue field.2 = false) :
    isDropped field = false := by
  unfold isDropped
  split
  · exact not_null_of_filled h
  · exact h

/-- An object of filled values has nothing empty inside, whatever its keys. -/
theorem Pruned.of_filled {fields : JsonFields}
    (h : ∀ field ∈ fields, isEmptyValue field.2 = false ∧ Pruned field.2) :
    Pruned (.object fields) :=
  .object (fun field hfield _ => not_null_of_filled (h field hfield).1)
    (fun field hfield _ => (h field hfield).1) fun field hfield _ => (h field hfield).2

theorem filled_string (text : String) :
    isEmptyValue (.string text) = false ∧ Pruned (.string text) := ⟨rfl, .string text⟩

theorem filled_strings {texts : List String} (h : texts ≠ []) :
    isEmptyValue (Json.ofStrings texts) = false ∧ Pruned (Json.ofStrings texts) := by
  constructor
  · cases texts with
    | nil => exact (h rfl).elim
    | cons first rest => rfl
  · refine .array (fun item hitem => ?_) fun item hitem => ?_
    · obtain ⟨text, -, rfl⟩ := List.mem_map.mp hitem
      rfl
    · obtain ⟨text, -, rfl⟩ := List.mem_map.mp hitem
      exact .string text

theorem pruned_reference (component : String) : Pruned (Schema.reference component).toJson :=
  .of_filled (List.forall_mem_singleton.mpr (filled_string _))

theorem pruned_list {items : Schema} (h : Pruned items.toJson) :
    Pruned (Schema.list items).toJson :=
  .of_filled (List.forall_mem_cons.mpr ⟨filled_string _,
    List.forall_mem_singleton.mpr ⟨schema_not_empty items, h⟩⟩)

theorem pruned_scalar {type : SchemaType} {nullable : Bool} {format : Option String}
    {choices : Option (List String)} (h : choices ≠ some []) :
    Pruned (Schema.scalar type nullable format choices).toJson := by
  refine .of_filled fun field hfield => ?_
  rcases List.mem_append.mp hfield with hfield | hfield
  · rcases List.mem_append.mp hfield with hfield | hfield
    · rw [List.mem_singleton.mp hfield]
      cases nullable with
      | false => exact filled_string _
      | true => exact filled_strings (List.cons_ne_nil _ _)
    · cases format with
      | none => cases hfield
      | some name =>
          rw [List.mem_singleton.mp hfield]
          exact filled_string _
  · cases choices with
    | none => cases hfield
    | some values =>
        rw [List.mem_singleton.mp hfield]
        exact filled_strings fun hnil => h (congrArg some hnil)

theorem properties_json_eq (properties : List (String × Schema)) :
    Schema.propertiesJson properties =
      properties.map fun property => (property.1, property.2.toJson) := by
  induction properties with
  | nil => rfl
  | cons property rest ih => rw [Schema.propertiesJson, ih, List.map_cons]

theorem pruned_record {required : List String} {properties : List (String × Schema)}
    (h : ∀ property ∈ properties, Pruned property.2.toJson) :
    Pruned (Schema.record required properties).toJson := by
  unfold Schema.toJson
  refine .of_filled fun field hfield => ?_
  rcases List.mem_append.mp hfield with hfield | hfield
  · rcases List.mem_append.mp hfield with hfield | hfield
    · rw [List.mem_singleton.mp hfield]
      exact filled_string _
    · cases required with
      | nil => cases hfield
      | cons first rest =>
          rw [List.mem_singleton.mp hfield]
          exact filled_strings (List.cons_ne_nil _ _)
  · cases properties with
    | nil => cases hfield
    | cons first rest =>
        rw [List.mem_singleton.mp hfield]
        refine ⟨rfl, .of_filled fun property hproperty => ?_⟩
        rw [properties_json_eq] at hproperty
        obtain ⟨written, hwritten, rfl⟩ := List.mem_map.mp hproperty
        exact ⟨schema_not_empty _, h written hwritten⟩

theorem pruned_of_type (type : SchemaType) : Pruned (Schema.ofType type).toJson :=
  pruned_scalar nofun

/-- A token that lists values lists at least one. -/
theorem choices_of_ne_nil (tokens : List String) : Schema.choicesOf tokens ≠ some [] := by
  intro hchoices
  obtain ⟨token, -, hfound⟩ := List.exists_of_findSome?_eq_some hchoices
  obtain ⟨choices, -, hnone⟩ := Option.map_eq_some_iff.mp hfound
  exact Text.split_chars_ne_nil choices (List.map_eq_nil_iff.mp hnone)

theorem pruned_of_rules (tokens : List String) : Pruned (Schema.ofRules tokens).toJson := by
  unfold Schema.ofRules
  dsimp only
  split
  · exact pruned_list (pruned_of_type .string)
  · exact pruned_scalar (choices_of_ne_nil tokens)

theorem pruned_record_of {required : List String} {properties : List (String × Schema)}
    (h : ∀ property ∈ properties, Pruned property.2.toJson) :
    Pruned (Schema.recordOf required properties).toJson :=
  pruned_record fun property hproperty => h property (TextMap.mem_of_list hproperty)

/-- The schemas of a page have nothing empty inside, so that pruning leaves them as they are. -/
theorem pruned_page_schema {page : GatePage} {entry : String × Schema}
    (h : entry ∈ page.schemas) : Pruned entry.2.toJson := by
  rcases List.mem_cons.mp h with rfl | h
  · refine pruned_record_of fun property hproperty => ?_
    rcases List.mem_append.mp hproperty with hproperty | hproperty
    · obtain ⟨column, -, rfl⟩ := List.mem_map.mp hproperty
      exact pruned_of_type .object
    · obtain ⟨filter, -, rfl⟩ := List.mem_map.mp hproperty
      exact pruned_of_rules filter.2
  · obtain ⟨action, -, rfl⟩ := List.mem_map.mp h
    refine pruned_record_of fun property hproperty => ?_
    obtain ⟨rule, -, rfl⟩ := List.mem_map.mp hproperty
    exact pruned_of_rules rule.2

/-! ## Schemas of the document -/

/-- The schema that the document keeps under a name. -/
def schemaAt? (document : Json) (name : String) : Option Json :=
  ((document.get? "components").bind fun components => components.get? "schemas").bind
    fun schemas => schemas.get? name

/-- All schemas under their names, in the order in which they go into the document. -/
def schemasOf (pages : List GatePage) : List (String × Schema) := pages.flatMap GatePage.schemas

/-- The document keeps the last schema of each name. -/
theorem schema_at_generated (settings : GateSettings) (pages : List GatePage) (name : String) :
    schemaAt? (prune (ofPages settings pages)) name =
      ((schemasOf pages).reverse.lookup name).map fun schema => prune schema.toJson := by
  obtain ⟨fields, hfields, hnodup, -, hcomponents⟩ := document_fields settings pages
  let schemas : JsonFields :=
    (TextMap.ofList (schemasOf pages)).entries.map fun entry => (entry.1, entry.2.toJson)
  have hschemas : (schemas.map Prod.fst).Nodup := by
    rw [keys_map_values]
    exact (TextMap.ofList (schemasOf pages)).sorted.nodup
  have hget : JsonFields.get? schemas name =
      ((schemasOf pages).reverse.lookup name).map Schema.toJson := by
    rw [← TextMap.find_of_list]
    exact lookup_map_values Schema.toJson _ name
  unfold schemaAt?
  rw [hfields, get_get_prune hnodup rfl, hcomponents, Option.bind_some]
  obtain ⟨parts, hparts, hkeys, hpart⟩ : ∃ parts, components settings pages = .object parts ∧
      (parts.map Prod.fst).Nodup ∧ JsonFields.get? parts "schemas" = some (.object schemas) := by
    refine ⟨_, rfl, ?_, rfl⟩
    show ["schemas", "securitySchemes"].Nodup
    decide
  rw [hparts, get_get_prune hkeys rfl, hpart]
  show (prune (.object schemas)).get? name = _
  rw [get_prune_object hschemas, hget]
  cases hfound : (schemasOf pages).reverse.lookup name with
  | none => rfl
  | some schema =>
      -- A schema is an object with a type or a reference, so that pruning keeps it whole.
      have hmem := List.mem_reverse.mp (mem_of_lookup hfound)
      obtain ⟨page, -, hentry⟩ := List.mem_flatMap.mp hmem
      have hpruned : prune schema.toJson = schema.toJson :=
        prune_of_pruned (pruned_page_schema hentry)
      have hkept : isDropped (name, schema.toJson) = false :=
        not_dropped_of_filled (schema_not_empty schema)
      simp [hpruned, hkept]

/-! ## Bodies of requests -/

/-- What refers to the component of a name. -/
def schemaReference (name : String) : String := "#/components/schemas/" ++ name

/-- What the request body of an operation of the document refers to. -/
def bodyReference? (operation : Json) : Option String := do
  let body ← operation.get? "requestBody"
  let content ← body.get? "content"
  let media ← content.get? "application/json"
  let schema ← media.get? "schema"
  let reference ← schema.get? "$ref"
  reference.text?

theorem pruned_request_body (component : String) :
    Pruned (Operation.requestBodyJson component) := by
  have hschema := pruned_reference component
  have hmedia : Pruned (.object [("schema", (Schema.reference component).toJson)]) :=
    .of_filled (List.forall_mem_singleton.mpr ⟨rfl, hschema⟩)
  have hcontent : Pruned (jsonContent (.reference component)) :=
    .of_filled (List.forall_mem_singleton.mpr ⟨rfl, hmedia⟩)
  exact .of_filled (List.forall_mem_cons.mpr ⟨⟨rfl, hcontent⟩,
    List.forall_mem_singleton.mpr ⟨rfl, .bool true⟩⟩)

/-- The request body of an operation in the document refers to the component of the operation. -/
theorem body_reference_of_operation (operation : Operation) :
    bodyReference? (prune operation.toJson) = operation.requestBody.map schemaReference := by
  obtain ⟨fields, hfields, hnodup, -, hbody, -⟩ := operation_fields operation
  have hget : (prune operation.toJson).get? "requestBody" =
      operation.requestBody.map Operation.requestBodyJson := by
    rw [hfields, get_prune hnodup rfl, hbody]
    cases operation.requestBody with
    | none => rfl
    | some component => rw [Option.map_some, Option.map_some,
        prune_of_pruned (pruned_request_body component)]; rfl
  unfold bodyReference?
  rw [hget]
  cases operation.requestBody <;> rfl

namespace GatePage

variable {page : GatePage}

/-- The actions that check what they get. -/
def ruled (page : GatePage) : List Action :=
  page.version.actions.filter fun action => !action.rules.isEmpty

/-- The component that the body of a request is of, for an action with rules. -/
def payload? (page : GatePage) : Target → Option String
  | .run action => if action.rules.isEmpty then none else some (payloadComponent page.names action)
  | .listing | .changelog => none

/-- The operation of an action refers to the payload of this action. -/
theorem request_body_for (page : GatePage) (target : Target) :
    (page.operationFor target).requestBody = page.payload? target := by
  have hrespond (operation : Operation) (condition : Bool) (status description : String) :
      (operation.respondIf condition status description).requestBody = operation.requestBody := by
    unfold Operation.respondIf
    split
    · rfl
    · rfl
  have hsuccess (action : Action) (operation : Operation) :
      (page.withSuccess action operation).requestBody = operation.requestBody := by
    unfold withSuccess
    split
    · rfl
    · rfl
  cases target with
  | listing => rfl
  | changelog => rfl
  | run action =>
      unfold operationFor actionOperation
      simp only [hrespond, hsuccess, payload?]
      cases action.rules.isEmpty <;> rfl

theorem mem_ruled {action : Action} :
    action ∈ page.ruled ↔ action ∈ page.version.actions ∧ action.rules.isEmpty = false := by
  simp [ruled]

theorem payload_mem_schemas {action : Action} (h : action ∈ page.ruled) :
    (payloadComponent page.names action, Schema.ofRuleMap action.rules) ∈ page.schemas :=
  List.mem_cons_of_mem _ (List.mem_map_of_mem h)

/-- The names of the schemas of a gate: its component, then those of the payloads. -/
theorem schema_names (page : GatePage) : page.schemas.map Prod.fst =
    page.names.component :: page.ruled.map (payloadComponent page.names) := by
  rw [schemas, List.map_cons, List.map_map]
  rfl

end GatePage

/-! ## Names -/

/-- The names of the schemas can be told apart: those of the gates, those of the actions of a gate,
those of the actions of two gates, and those of actions from those of gates. -/
structure SchemaNamesApart (pages : List GatePage) : Prop where
  components : (pages.map fun page => page.names.component).Nodup
  actions : ∀ page ∈ pages, (page.ruled.map fun action => pascalCase action.name).Nodup
  payloads : pages.Pairwise fun page other => ∀ action ∈ page.ruled, ∀ action' ∈ other.ruled,
    payloadComponent page.names action ≠ payloadComponent other.names action'
  gates : ∀ page ∈ pages, ∀ action ∈ page.ruled, ∀ other ∈ pages,
    payloadComponent page.names action ≠ other.names.component

/-- A name of a payload in terms of the name of its action as one word. -/
def payloadNamed (names : Names) (word : String) : String := names.component ++ word ++ "Request"

theorem payload_named_injective (names : Names) : Function.Injective (payloadNamed names) := by
  intro word other h
  unfold payloadNamed at h
  rw [← String.toList_inj] at h ⊢
  simpa [String.toList_append] using h

theorem payload_names_eq (page : GatePage) : page.ruled.map (payloadComponent page.names) =
    (page.ruled.map fun action => pascalCase action.name).map (payloadNamed page.names) := by
  rw [List.map_map]
  rfl

/-- No payload of the first gate is called as the second one. -/
def PayloadsAvoid (page other : GatePage) : Prop :=
  ∀ action ∈ page.ruled, payloadComponent page.names action ≠ other.names.component

/-- The names of one gate are distinct exactly if no payload is called as the gate and the actions
with rules differ as one word. -/
theorem names_of_page_nodup_iff {page : GatePage} : (page.schemas.map Prod.fst).Nodup ↔
    PayloadsAvoid page page ∧ (page.ruled.map fun action => pascalCase action.name).Nodup := by
  rw [page.schema_names, List.nodup_cons]
  refine and_congr (by simp [PayloadsAvoid]) ?_
  rw [payload_names_eq]
  exact List.nodup_map_iff (payload_named_injective page.names)

/-- Two gates share no name exactly if their components, their payloads, and the payloads of each
and the component of the other differ. -/
theorem names_of_pages_disjoint_iff {page other : GatePage} :
    (page.schemas.map Prod.fst).Disjoint (other.schemas.map Prod.fst) ↔
      page.names.component ≠ other.names.component ∧
      (∀ action ∈ page.ruled, ∀ action' ∈ other.ruled,
        payloadComponent page.names action ≠ payloadComponent other.names action') ∧
      PayloadsAvoid page other ∧ PayloadsAvoid other page := by
  rw [page.schema_names, other.schema_names, List.disjoint_cons_left, List.disjoint_cons_right]
  simp only [PayloadsAvoid, List.mem_cons, List.mem_map, List.Disjoint, not_or]
  grind

/-- No two schemas have one name exactly if the names can be told apart. -/
theorem schema_names_nodup_iff {pages : List GatePage} :
    ((schemasOf pages).map Prod.fst).Nodup ↔ SchemaNamesApart pages := by
  rw [schemasOf, List.map_flatMap, List.nodup_flatMap]
  constructor
  · rintro ⟨hwithin, hbetween⟩
    have hown (page : GatePage) (hpage : page ∈ pages) :=
      names_of_page_nodup_iff.mp (hwithin page hpage)
    have hothers := hbetween.imp fun hdisjoint => names_of_pages_disjoint_iff.mp hdisjoint
    refine ⟨List.pairwise_map.mpr (hothers.imp And.left), fun page hpage => (hown page hpage).2,
      hothers.imp fun h => h.2.1, fun page hpage action haction other hother => ?_⟩
    by_cases hsame : page = other
    · exact hsame ▸ (hown page hpage).1 action haction
    · -- Of two gates, either may come first.
      have hsymm : Std.Symm fun page other => PayloadsAvoid page other ∧ PayloadsAvoid other page :=
        ⟨fun _ _ => And.symm⟩
      have havoid : pages.Pairwise fun page other =>
          PayloadsAvoid page other ∧ PayloadsAvoid other page := hothers.imp fun h => h.2.2
      exact (havoid.forall hpage hother hsame).1 action haction
  · intro h
    have havoid (page : GatePage) (hpage : page ∈ pages) (other : GatePage)
        (hother : other ∈ pages) : PayloadsAvoid page other :=
      fun action haction => h.gates page hpage action haction other hother
    refine ⟨fun page hpage => names_of_page_nodup_iff.mpr
      ⟨havoid page hpage page hpage, h.actions page hpage⟩, ?_⟩
    refine ((List.pairwise_map.mp h.components).and h.payloads).imp_of_mem ?_
    rintro page other hpage hother ⟨hcomponents, hpayloads⟩
    exact names_of_pages_disjoint_iff.mpr ⟨hcomponents, hpayloads,
      havoid page hpage other hother, havoid other hother page hpage⟩

theorem Names.component_of_gate (registry : GateRegistry) (gate : Gate) (taken : List String) :
    (Names.ofGate registry gate taken).component = componentName gate taken := by
  simp only [ofGate]

/-- The component of a gate is none of those that are taken, if its digest gives none of them. -/
theorem component_not_taken {gate : Gate} {taken : List String}
    (h : "Model" ++ gate.digest ∉ taken) : componentName gate taken ∉ taken := by
  unfold componentName
  dsimp only
  split
  · exact h
  · next hfree =>
    rw [Bool.not_eq_true, Bool.or_eq_false_iff] at hfree
    simpa using hfree.2

theorem component_name_cases (gate : Gate) (taken : List String) :
    componentName gate taken = Naming.stripNonAlphanumeric gate.baseName ∨
      componentName gate taken = "Model" ++ gate.digest := by
  unfold componentName
  dsimp only
  split
  · exact .inr rfl
  · exact .inl rfl

/-- The gates can be told apart by their digests, and no base name is read as the component of a
digest. -/
structure ComponentsApart (gates : List Gate) : Prop where
  digests : gates.Pairwise fun gate other => gate.digest ≠ other.digest
  models : ∀ gate ∈ gates, ∀ other ∈ gates,
    Naming.stripNonAlphanumeric other.baseName ≠ "Model" ++ gate.digest

/-- Gates named one after the other get components of their own. -/
theorem components_of_names (registry : GateRegistry) {taken : List String}
    {earlier gates : List Gate} (h : ComponentsApart (earlier ++ gates))
    (hnodup : taken.Nodup) (htaken : ∀ name ∈ taken, ∃ gate ∈ earlier,
      name = Naming.stripNonAlphanumeric gate.baseName ∨ name = "Model" ++ gate.digest) :
    (taken ++ (namesFrom registry taken gates).map fun named => named.2.component).Nodup := by
  induction gates generalizing taken earlier with
  | nil => simpa [namesFrom] using hnodup
  | cons gate rest ih =>
      -- A taken name is a stripped base name or is made of the digest of an earlier gate.
      have hfree : "Model" ++ gate.digest ∉ taken := by
        intro hmem
        obtain ⟨other, hother, hname⟩ := htaken _ hmem
        rcases hname with hname | hname
        · exact h.models gate (by simp) other (by simp [hother]) hname.symm
        · refine (List.pairwise_append.mp h.digests).2.2 other hother gate (by simp) ?_
          rw [← String.toList_inj, String.toList_append, String.toList_append,
            List.append_cancel_left_eq, String.toList_inj] at hname
          exact hname.symm
      have hnew := component_not_taken hfree
      have hlater : ComponentsApart ((earlier ++ [gate]) ++ rest) := by simpa using h
      simp only [namesFrom, List.map_cons, Names.component_of_gate]
      rw [List.append_cons]
      refine ih hlater (List.nodup_append.mpr ⟨hnodup, List.nodup_singleton _, ?_⟩) ?_
      · intro name hname last hlast heq
        rw [heq, List.mem_singleton.mp hlast] at hname
        exact hnew hname
      · intro name hname
        rcases List.mem_append.mp hname with hname | hname
        · obtain ⟨other, hother, hcases⟩ := htaken name hname
          exact ⟨other, List.mem_append_left _ hother, hcases⟩
        · rw [List.mem_singleton.mp hname]
          exact ⟨gate, by simp, component_name_cases gate taken⟩

/-- The pages of a registry go by the names of its gates. -/
theorem names_of_pages {base : String} {security : Option String} {named : List (Gate × Names)}
    {pages : List GatePage} (h : pagesOf base security named = .ok pages) :
    pages.map GatePage.names = named.map Prod.snd := by
  induction named generalizing pages with
  | nil =>
      cases h
      rfl
  | cons first rest ih =>
      obtain ⟨version, -, h⟩ := except_bind_eq_ok h
      obtain ⟨others, hothers, h⟩ := except_bind_eq_ok h
      cases h
      rw [List.map_cons, List.map_cons, ih hothers]

/-- The components of gates are distinct, unless a name looks like the one that is made of a
digest. -/
theorem components_nodup {registry : GateRegistry} {settings : GateSettings}
    {pages : List GatePage} (hpages : Document.pages registry settings = .ok pages)
    (h : ComponentsApart registry.gates) :
    (pages.map fun page => page.names.component).Nodup := by
  have hnames := names_of_pages hpages
  have hcomponents : (pages.map fun page => page.names.component) =
      (namedGates registry).map fun named => named.2.component := by
    calc (pages.map fun page => page.names.component)
        = (pages.map GatePage.names).map Names.component := (List.map_map ..).symm
      _ = ((namedGates registry).map Prod.snd).map Names.component := by rw [hnames]
      _ = (namedGates registry).map fun named => named.2.component := List.map_map ..
  rw [hcomponents]
  exact components_of_names registry (List.nil_append registry.gates ▸ h) List.nodup_nil nofun

/-! ## Bodies and schemas -/

/-- The document of a registry gives the bodies of requests by the names of schemas. -/
structure DescribesBodies (document : Json) (registry : GateRegistry) (pages : List GatePage) :
    Prop where
  /-- There is a page for each gate. -/
  gates : pages.map GatePage.gate = registry.gates
  /-- A page shows the default version. -/
  versions : ∀ page ∈ pages, page.gate.version none = .ok page.version
  /-- There is an operation in the place of every action. -/
  operations : ∀ page ∈ pages, ∀ action ∈ page.version.actions,
    (operationAt? document (page.endpointFor (.run action)).path
      (methodKey action.method)).isSome
  /-- Every operation is the one of a listing, an action or a changelog that stands there. Its
  request body refers to the payload of this very action if it has rules, and to nothing if not. -/
  bodies : ∀ path key json, operationAt? document path key = some json →
    ∃ page ∈ pages, ∃ target ∈ page.targets, (page.endpointFor target).path = path ∧
      methodKey target.method = key ∧ prune (page.operationFor target).toJson = json ∧
      bodyReference? json = (page.payload? target).map schemaReference
  /-- There is a schema under the name of every payload. -/
  named : ∀ page ∈ pages, ∀ action ∈ page.version.actions, action.rules.isEmpty = false →
    (schemaAt? document (payloadComponent page.names action)).isSome
  /-- The schema under a name is the last one of that name. -/
  last : ∀ name, schemaAt? document name =
    ((schemasOf pages).reverse.lookup name).map fun schema => prune schema.toJson
  /-- Under names that can be told apart, the schema of a payload is that of the rules of its
  action. -/
  payloads : SchemaNamesApart pages → ∀ page ∈ pages, ∀ action ∈ page.version.actions,
    action.rules.isEmpty = false → schemaAt? document (payloadComponent page.names action) =
      some (prune (Schema.ofRuleMap action.rules).toJson)
  /-- So is the schema of an entity under the component of its gate. -/
  entities : SchemaNamesApart pages → ∀ page ∈ pages,
    schemaAt? document page.names.component = some (prune (entitySchema page.version).toJson)
  /-- No two schemas share a name exactly if the names can be told apart. -/
  names : ((schemasOf pages).map Prod.fst).Nodup ↔ SchemaNamesApart pages
  /-- No two gates share a name, unless one looks like the name that is made of a digest. -/
  components : ComponentsApart registry.gates →
    (pages.map fun page => page.names.component).Nodup

/-- Among distinct names, each schema is found under its own. -/
theorem lookup_schemas {pages : List GatePage} (h : SchemaNamesApart pages) {page : GatePage}
    (hpage : page ∈ pages) {entry : String × Schema} (hentry : entry ∈ page.schemas) :
    (schemasOf pages).reverse.lookup entry.1 = some entry.2 := by
  have hnodup : ((schemasOf pages).reverse.map Prod.fst).Nodup := by
    rw [List.map_reverse]
    exact List.nodup_reverse.mpr (schema_names_nodup_iff.mpr h)
  exact lookup_of_mem hnodup (List.mem_reverse.mpr (List.mem_flatMap.mpr ⟨page, hpage, hentry⟩))

/-- The document of a registry of built gates can be made. The body of each request refers to the
payload of its own action, there is a schema under that name, and it is the one of the rules of the
action as long as the names of schemas can be told apart. -/
theorem bodies_described (registry : GateRegistry) (settings : GateSettings)
    (hbuilt : ∀ gate ∈ registry.gates, gate.Built) :
    ∃ document pages, generate registry settings = .ok document ∧
      Document.pages registry settings = .ok pages ∧
      DescribesBodies document registry pages := by
  obtain ⟨pages, hpages, hgates, hfacts⟩ := pages_of_gates registry settings
    fun gate hgate => (hbuilt gate hgate).default_version
  refine ⟨prune (ofPages settings pages), pages, ?_, hpages, ?_⟩
  · show (Document.pages registry settings >>= _) = _
    rw [hpages]
    rfl
  exact {
    gates := hgates
    versions := fun page hpage => (hfacts page hpage).1
    operations := by
      intro page hpage action haction
      have htarget : Target.run action ∈ page.targets := by simp [GatePage.targets, haction]
      rw [operation_at_generated GatePage.endpoints_keep_nothing, Option.isSome_map]
      exact PathTable.operation_is_some (GatePage.mem_endpoints.mpr ⟨page, hpage, _, htarget, rfl⟩)
    bodies := by
      intro path key json hfound
      rw [operation_at_generated GatePage.endpoints_keep_nothing] at hfound
      obtain ⟨operation, hoperation, rfl⟩ := Option.map_eq_some_iff.mp hfound
      obtain ⟨endpoint, hendpoint, hpath, hkey, rfl⟩ := PathTable.endpoint_of_operation hoperation
      obtain ⟨page, hpage, target, htarget, rfl⟩ := GatePage.mem_endpoints.mp hendpoint
      refine ⟨page, hpage, target, htarget, hpath, hkey, rfl, ?_⟩
      rw [body_reference_of_operation]
      exact congrArg _ (page.request_body_for target)
    named := by
      intro page hpage action haction hrules
      have hentry := GatePage.payload_mem_schemas (GatePage.mem_ruled.mpr ⟨haction, hrules⟩)
      rw [schema_at_generated, Option.isSome_map, List.lookup_isSome_iff]
      exact ⟨_, List.mem_reverse.mpr (List.mem_flatMap.mpr ⟨page, hpage, hentry⟩),
        beq_self_eq_true _⟩
    last := schema_at_generated settings pages
    payloads := by
      intro h page hpage action haction hrules
      have hentry := GatePage.payload_mem_schemas (GatePage.mem_ruled.mpr ⟨haction, hrules⟩)
      rw [schema_at_generated, lookup_schemas h hpage hentry, Option.map_some]
    entities := by
      intro h page hpage
      have hentry : (page.names.component, entitySchema page.version) ∈ page.schemas :=
        List.mem_cons_self
      rw [schema_at_generated, lookup_schemas h hpage hentry, Option.map_some]
    names := schema_names_nodup_iff
    components := components_nodup hpages }

/-- Posts that check what they are made of, and what is sent by mail. -/
def mailedPosts : GateDraft :=
  (GateDraft.make "App\\Models\\Post").steps [
    .overlay (.filter "title" ["string"]),
    .overlay (.action ((ActionDraft.make "create").step (.rule "title" ["required", "string"]))),
    .overlay (.action ((ActionDraft.make "send_mail").step (.rule "to" ["email"])))]

/-- Notes that can be archived for a reason. -/
def archivedNotes : GateDraft :=
  (GateDraft.make "App\\Models\\Note").steps [
    .overlay (.action ((ActionDraft.make "archive").step (.rule "reason" ["string"])))]

/-- Two gates and their three payloads have names of their own, so that all references mean what
they should. -/
theorem bodies_described_of_posts :
    let registry := GateRegistry.offers [builtGate mailedPosts, builtGate archivedNotes]
    (∀ gate ∈ registry.gates, gate.Built) ∧ ∃ document pages,
      generate registry {} = .ok document ∧ DescribesBodies document registry pages ∧
        (schemasOf pages).map Prod.fst =
          ["Post", "PostCreateRequest", "PostSendMailRequest", "Note", "NoteArchiveRequest"] ∧
        ∀ page ∈ pages, ∀ action ∈ page.version.actions, action.rules.isEmpty = false →
          schemaAt? document (payloadComponent page.names action) =
            some (prune (Schema.ofRuleMap action.rules).toJson) := by
  intro registry
  have hposts : mailedPosts.build = .ok (builtGate mailedPosts) :=
    build_eq_built (by decide +kernel)
  have hnotes : archivedNotes.build = .ok (builtGate archivedNotes) :=
    build_eq_built (by decide +kernel)
  have hbuilt : ∀ gate ∈ registry.gates, gate.Built := by
    intro gate hgate
    have hmem : gate ∈ [builtGate mailedPosts, builtGate archivedNotes] :=
      GateRegistry.mem_offered gate hgate
    rcases List.mem_cons.mp hmem with rfl | hmem
    · exact ⟨mailedPosts, hposts⟩
    · rw [List.mem_singleton.mp hmem]
      exact ⟨archivedNotes, hnotes⟩
  obtain ⟨document, pages, hdocument, hpages, hdescribes⟩ := bodies_described registry {} hbuilt
  have hnames : (Document.pages registry {}).toOption.map
      (fun pages => (schemasOf pages).map Prod.fst) =
        some ["Post", "PostCreateRequest", "PostSendMailRequest", "Note",
          "NoteArchiveRequest"] := by
    decide +kernel
  rw [hpages] at hnames
  have hnames : (schemasOf pages).map Prod.fst =
      ["Post", "PostCreateRequest", "PostSendMailRequest", "Note", "NoteArchiveRequest"] :=
    Option.some.inj hnames
  have hapart : SchemaNamesApart pages := by
    rw [← schema_names_nodup_iff, hnames]
    decide
  exact ⟨hbuilt, document, pages, hdocument, hdescribes, hnames, hdescribes.payloads hapart⟩

/-- Posts with two actions whose names differ in their separator. -/
def separatedPosts : GateDraft :=
  (GateDraft.make "Post").steps [
    .overlay (.action ((ActionDraft.make "send_mail").steps
      [.rule "to" ["email"], .requiresIdentifier false])),
    .overlay (.action ((ActionDraft.make "send-mail").steps
      [.rule "body" ["string"], .requiresIdentifier false]))]

/-- The document of the posts. -/
def separatedDocument : Except RequestError Json :=
  generate (.offers [builtGate separatedPosts]) {}

/-- The property that the schema under a name has for a field. -/
def propertyAt? (document : Json) (name field : String) : Option Json :=
  ((schemaAt? document name).bind fun schema => schema.get? "properties").bind
    fun properties => properties.get? field

theorem except_any_iff {ε α : Type} {answer : Except ε α} {test : α → Bool} :
    answer.toOption.any test = true ↔ ∃ value, answer = .ok value ∧ test value = true := by
  cases answer with
  | error error => simp [Except.toOption]
  | ok value => simp [Except.toOption]

/-- Both actions refer to one schema, which is that of the second one: it lacks the field that the
rules of the first one are for. -/
theorem shared_payload_name :
    separatedPosts.build = .ok (builtGate separatedPosts) ∧
      (∃ version, (builtGate separatedPosts).version none = .ok version ∧
        ∃ action ∈ version.actions, action.name = "send_mail" ∧ action.rules.contains "to") ∧
      ∃ document, separatedDocument = .ok document ∧
        (operationAt? document "/query/Post/actions/send_mail" "post").bind bodyReference? =
          some (schemaReference "PostSendMailRequest") ∧
        (operationAt? document "/query/Post/actions/send-mail" "post").bind bodyReference? =
          some (schemaReference "PostSendMailRequest") ∧
        (propertyAt? document "PostSendMailRequest" "to").isNone ∧
        (propertyAt? document "PostSendMailRequest" "body").isSome := by
  have haction : ((builtGate separatedPosts).version none).toOption.any (fun version =>
      version.actions.any fun action =>
        action.name == "send_mail" && action.rules.contains "to") = true := by
    decide +kernel
  obtain ⟨version, hversion, haction⟩ := except_any_iff.mp haction
  have hdocument : separatedDocument.toOption.any (fun document =>
      decide ((operationAt? document "/query/Post/actions/send_mail" "post").bind bodyReference? =
          some (schemaReference "PostSendMailRequest") ∧
        (operationAt? document "/query/Post/actions/send-mail" "post").bind bodyReference? =
          some (schemaReference "PostSendMailRequest") ∧
        (propertyAt? document "PostSendMailRequest" "to").isNone ∧
        (propertyAt? document "PostSendMailRequest" "body").isSome)) = true := by
    decide +kernel
  obtain ⟨document, hgenerated, hfacts⟩ := except_any_iff.mp hdocument
  refine ⟨build_eq_built (by decide +kernel), ⟨version, hversion, ?_⟩, document, hgenerated,
    of_decide_eq_true hfacts⟩
  simpa using haction

end EntityGate.Document
