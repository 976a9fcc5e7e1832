import EntityGate.Config.GateConfig
import EntityGate.Proofs.Data.Sorted
import EntityGate.Proofs.Validation.RuleMap

/-!
# Written gates are read back

What a part of a written gate is made of is read back from its JSON form. A record that is written
from named fields is read part by part, whatever fields are left out: see `Node.parts_of_json`. The
parts that only report what cannot be written have to be unset: see `GateConfig.Readable`. Rules are
parted into tokens when they are read, so that a gate is read back as its normal form: see
`GateConfig.of_node_to_json`.
-/

namespace EntityGate

namespace Node

variable {α : Type}

/-! ## Records by name -/

theorem of_json_fields_eq (fields : JsonFields) :
    ofJsonFields fields = fields.map fun field => (field.1, ofJson field.2) := by
  induction fields with
  | nil => rfl
  | cons field rest ih => simp [ofJsonFields, ih]

theorem of_json_items_eq (items : List Json) : ofJsonItems items = items.map ofJson := by
  induction items with
  | nil => rfl
  | cons item rest ih => simp [ofJsonItems, ih]

theorem lookup_of_json_fields (fields : JsonFields) (name : String) :
    (ofJsonFields fields).lookup name = (fields.lookup name).map ofJson := by
  induction fields with
  | nil => rfl
  | cons field rest ih =>
      obtain ⟨key, value⟩ := field
      rw [ofJsonFields, lookup_cons_entry, lookup_cons_entry, ih]
      split
      · rfl
      · rfl

/-- A record that gives no key twice has one part for each name. -/
theorem parts_of_json (names : List String) {fields : JsonFields}
    (h : (fields.map Prod.fst).Nodup) :
    (ofJson (.object fields)).parts? names =
      some (names.map fun name => (fields.lookup name).map ofJson) := by
  have hkeys : (ofJsonFields fields).map Prod.fst = fields.map Prod.fst := by
    rw [of_json_fields_eq, List.map_map]
    rfl
  have hsingle (name : String) :
      ((ofJsonFields fields).filter fun field => field.1 == name).length ≤ 1 := by
    have hcount := List.nodup_iff_count_le_one.mp (hkeys ▸ h) name
    rw [List.count, List.countP_map, List.countP_eq_length_filter] at hcount
    exact hcount
  have hrepeated : (names.any fun name => decide
      (1 < ((ofJsonFields fields).filter fun field => field.1 == name).length)) = false := by
    refine List.any_eq_false.mpr fun name _ => ?_
    have := hsingle name
    simp only [decide_eq_true_eq]
    omega
  show Record.ofFields? names (ofJsonFields fields) = _
  rw [Record.ofFields?, hrepeated]
  simp only [lookup_of_json_fields, Bool.false_eq_true, if_false]

/-! ## Parts -/

/-- A part that is written only if it is set is read if it is set. -/
theorem or_none_read {read : Node → Option α} {write : α → Json} {f : α → α} {value : Option α}
    (h : ∀ set, value = some set →
      (ofJson (write set)).isNull = false ∧ read (ofJson (write set)) = some (f set)) :
    orNone? read ((value.map write).map ofJson) = some (value.map f) := by
  cases value with
  | none => rfl
  | some set =>
      obtain ⟨hnull, hread⟩ := h set rfl
      show optional? read (ofJson (write set)) = _
      rw [optional?, hnull, hread]
      rfl

/-- A part that is written only if it is set is read back. -/
theorem or_none_written {read : Node → Option α} {write : α → Json} {value : Option α}
    (h : ∀ set, value = some set →
      (ofJson (write set)).isNull = false ∧ read (ofJson (write set)) = some set) :
    orNone? read ((value.map write).map ofJson) = some value :=
  (or_none_read (f := id) h).trans (congrArg some (Option.map_id_apply ..))

/-- Written values are read one after the other. -/
theorem map_m_read {β γ : Type} {read : β → Option γ} {write : α → β} {f : α → γ}
    {values : List α} (h : ∀ value ∈ values, read (write value) = some (f value)) :
    (values.map write).mapM read = some (values.map f) := by
  induction values with
  | nil => rfl
  | cons value rest ih =>
      have hvalue := h value List.mem_cons_self
      have hrest := ih fun other hother => h other (List.mem_cons_of_mem _ hother)
      simp [hvalue, hrest]

theorem or_none_text (value : Option String) :
    orNone? text? ((value.map Json.string).map ofJson) = some value :=
  or_none_written fun _ _ => ⟨rfl, rfl⟩

theorem or_none_truth (value : Option Bool) :
    orNone? truth? ((value.map Json.bool).map ofJson) = some value :=
  or_none_written fun _ _ => ⟨rfl, rfl⟩

theorem natural_below_of_nat {bound value : Nat} (h : value < bound) :
    naturalBelow? bound (ofJson (Json.ofNat value)) = some value := by
  show (some (value : Int).toNat |>.filter (· < bound)) = some value
  simp [h]

theorem list_of_read {read : Node → Option α} {write : α → Json} {f : α → α} {values : List α}
    (h : ∀ value ∈ values, read (ofJson (write value)) = some (f value)) :
    listOf? read (ofJson (.array (values.map write))) = some (values.map f) := by
  show (ofJsonItems (values.map write)).mapM read = some (values.map f)
  rw [of_json_items_eq, List.map_map]
  exact map_m_read h

theorem texts_of_strings (texts : List String) :
    texts? (ofJson (Json.ofStrings texts)) = some texts :=
  (list_of_read (f := id) fun _ _ => rfl).trans (congrArg some (List.map_id texts))

theorem or_none_texts (value : Option (List String)) :
    orNone? texts? ((value.map Json.ofStrings).map ofJson) = some value :=
  or_none_written fun set _ => ⟨rfl, texts_of_strings set⟩

/-- A list that is written only if it is not empty is read back. -/
theorem or_default_texts (texts : List String) :
    orDefault? [] texts?
      ((if texts.isEmpty then none else some (Json.ofStrings texts)).map ofJson) = some texts := by
  cases texts with
  | nil => rfl
  | cons first rest => exact texts_of_strings (first :: rest)

/-! ## Maps -/

theorem to_json_of_strings (texts : List String) :
    toJson (ofJson (Json.ofStrings texts)) = Json.ofStrings texts := by
  induction texts with
  | nil => rfl
  | cons first rest ih =>
      have hrest : toJsonItems (ofJsonItems (rest.map Json.string)) = rest.map Json.string :=
        Json.array.inj ih
      show Json.array (.string first :: toJsonItems (ofJsonItems (rest.map Json.string))) = _
      rw [hrest]
      rfl

/-- A rule map is read back with its rules parted. -/
theorem rule_map_read (map : RuleMap) : ruleMap? (ofJson map.toJson) = some map.normalized := by
  have hfields (entries : List (String × List String)) :
      toJsonFields (ofJsonFields (entries.map fun entry => (entry.1, Json.ofStrings entry.2))) =
        entries.map fun entry => (entry.1, Json.ofStrings entry.2) := by
    induction entries with
    | nil => rfl
    | cons entry rest ih =>
        simp only [List.map_cons, ofJsonFields, toJsonFields, to_json_of_strings, ih]
  show (RuleMap.ofFields (toJsonFields (ofJsonFields _)) RuleMap.empty).toOption = _
  rw [hfields]
  exact congrArg Except.toOption map.of_json_to_json

/-- A sorted map is read entry after entry. -/
theorem text_map_read {read : Node → Option α} {write : α → Json} {f : α → α} {map : TextMap α}
    (h : ∀ entry ∈ map.entries, read (ofJson (write entry.2)) = some (f entry.2)) :
    textMap? read (ofJson (.object (map.entries.map fun entry => (entry.1, write entry.2)))) =
      some (map.mapValues f) := by
  have hentries : entriesOf? read
      (ofJson (.object (map.entries.map fun entry => (entry.1, write entry.2)))) =
      some (map.mapValues f).entries := by
    show (ofJsonFields _).mapM _ = _
    rw [of_json_fields_eq, List.map_map]
    refine map_m_read fun entry hentry => ?_
    simp [h entry hentry]
  rw [textMap?, hentries, Option.map_some, TextMap.of_list_entries]

end Node

/-! ## Fields that are written only if they are set -/

theorem lookup_optional_field (name other : String) (value : Option Json) :
    (optionalField name value).lookup other = if other = name then value else none := by
  cases value with
  | none => simp [optionalField]
  | some written => exact lookup_cons_entry [] name other written

theorem lookup_non_empty_field (name other : String) (texts : List String) :
    (nonEmptyField name texts).lookup other =
      if other = name then (if texts.isEmpty then none else some (Json.ofStrings texts))
      else none := by
  unfold nonEmptyField
  split
  · simp
  · exact lookup_cons_entry [] name other (Json.ofStrings texts)

theorem lookup_mark_field (name other : String) (mark : Bool) :
    (markField name mark).lookup other =
      if other = name then (if mark then some (.bool true) else none) else none := by
  unfold markField
  split
  · exact lookup_cons_entry [] name other (Json.bool true)
  · simp

theorem keys_optional_field (name : String) (value : Option Json) :
    ((optionalField name value).map Prod.fst).Sublist [name] := by
  cases value with
  | none => exact List.nil_sublist _
  | some written => exact .refl _

theorem keys_non_empty_field (name : String) (texts : List String) :
    ((nonEmptyField name texts).map Prod.fst).Sublist [name] := by
  unfold nonEmptyField
  split
  · exact List.nil_sublist _
  · exact .refl _

theorem keys_mark_field (name : String) (mark : Bool) :
    ((markField name mark).map Prod.fst).Sublist [name] := by
  unfold markField
  split
  · exact .refl _
  · exact List.nil_sublist _

/-! ## Actions -/

namespace ActionConfig

/-- The action with its rules parted into tokens. -/
def normalized (config : ActionConfig) : ActionConfig :=
  { config with rules := config.rules.map RuleMap.normalized }

/-- Everything about the action can be written. -/
structure Readable (config : ActionConfig) : Prop where
  status : ∀ code, config.status = some code → code < 2 ^ 16
  handler : config.hasHandler = false
  authorize : config.hasAuthorize = false

/-- The parts of a written action. -/
theorem parts_of_to_json (config : ActionConfig) :
    (Node.ofJson config.toJson).parts? fieldNames =
      some ([config.method.map .string, config.rules.map RuleMap.toJson,
        if config.abilities.isEmpty then none else some (Json.ofStrings config.abilities),
        config.requiresIdentifier.map .bool, config.status.map Json.ofNat].map
          (Option.map Node.ofJson)) := by
  have hnames : ["method", "rules", "abilities", "requires_identifier", "status", "has_handler",
      "has_authorize"].Nodup := by decide
  unfold toJson
  rw [Node.parts_of_json]
  · simp [fieldNames, List.lookup_append, lookup_optional_field, lookup_non_empty_field,
      lookup_mark_field]
  · refine hnames.sublist ?_
    simp only [List.map_append, List.append_assoc]
    exact (keys_optional_field _ _).append ((keys_optional_field _ _).append
      ((keys_non_empty_field _ _).append ((keys_optional_field _ _).append
        ((keys_optional_field _ _).append ((keys_mark_field _ _).append (keys_mark_field _ _))))))

/-- A written action is read back in its normal form. -/
theorem of_node_to_json {config : ActionConfig} (h : config.Readable) :
    ofNode? (Node.ofJson config.toJson) = some config.normalized := by
  have hrules : Node.orNone? Node.ruleMap? ((config.rules.map RuleMap.toJson).map Node.ofJson) =
      some (config.rules.map RuleMap.normalized) :=
    Node.or_none_read fun map _ => ⟨rfl, Node.rule_map_read map⟩
  have hstatus : Node.orNone? (Node.naturalBelow? (2 ^ 16))
      ((config.status.map Json.ofNat).map Node.ofJson) = some config.status :=
    Node.or_none_written fun code hcode =>
      ⟨rfl, Node.natural_below_of_nat (h.status code hcode)⟩
  unfold ofNode?
  simp only [parts_of_to_json, List.map_cons, List.map_nil, Option.bind_eq_bind, Option.bind_some,
    Node.or_none_text, Node.or_none_truth, Node.or_default_texts, hrules, hstatus, Option.pure_def]
  obtain ⟨_, _, _, _, _, _, _⟩ := config
  obtain ⟨-, rfl, rfl⟩ := h
  rfl

/-- An action that sets nothing is written as null. -/
def entryJson (entry : Option ActionConfig) : Json := (entry.map toJson).getD .null

theorem optional_entry_json {entry : Option ActionConfig}
    (h : ∀ config, entry = some config → config.Readable) :
    Node.optional? ofNode? (Node.ofJson (entryJson entry)) = some (entry.map normalized) := by
  cases entry with
  | none => rfl
  | some config =>
      have hread := of_node_to_json (h config rfl)
      show Node.optional? ofNode? (Node.ofJson config.toJson) = _
      rw [Node.optional?, hread]
      rfl

end ActionConfig

/-! ## Overlays and versions -/

namespace OverlayConfig

/-- The versionable part with all its rules parted into tokens. -/
def normalized (config : OverlayConfig) : OverlayConfig :=
  { config with
    filters := config.filters.map RuleMap.normalized
    actions := config.actions.map fun map => map.mapValues (Option.map ActionConfig.normalized) }

/-- Everything about the versionable part can be written. -/
structure Readable (config : OverlayConfig) : Prop where
  customFilters : config.customFilters = []
  actions : ∀ map, config.actions = some map →
    ∀ entry ∈ map.entries, ∀ action, entry.2 = some action → action.Readable

/-- The JSON form of operators. -/
def operatorsJson (map : TextMap (List String)) : Json :=
  .object (map.entries.map fun entry => (entry.1, Json.ofStrings entry.2))

/-- The JSON form of actions. -/
def actionsJson (map : TextMap (Option ActionConfig)) : Json :=
  .object (map.entries.map fun entry => (entry.1, ActionConfig.entryJson entry.2))

/-- The written versionable part is read back in its normal form. -/
theorem of_parts_written {config : OverlayConfig} (h : config.Readable) :
    ofParts? ((config.filters.map RuleMap.toJson).map Node.ofJson)
      ((config.allowedOperators.map operatorsJson).map Node.ofJson)
      ((config.select.map Json.ofStrings).map Node.ofJson)
      ((config.sorts.map Json.ofStrings).map Node.ofJson)
      ((config.actions.map actionsJson).map Node.ofJson) = some config.normalized := by
  have hfilters : Node.orNone? Node.ruleMap?
      ((config.filters.map RuleMap.toJson).map Node.ofJson) =
        some (config.filters.map RuleMap.normalized) :=
    Node.or_none_read fun map _ => ⟨rfl, Node.rule_map_read map⟩
  have hoperators : Node.orNone? (Node.textMap? Node.texts?)
      ((config.allowedOperators.map operatorsJson).map Node.ofJson) =
        some config.allowedOperators := by
    refine Node.or_none_written fun map _ => ⟨rfl, ?_⟩
    rw [operatorsJson, Node.text_map_read (f := id) fun entry _ => Node.texts_of_strings entry.2,
      TextMap.map_values_id]
  have hactions : Node.orNone? ActionConfig.mapOfNode?
      ((config.actions.map actionsJson).map Node.ofJson) = some (config.actions.map
        fun map => map.mapValues (Option.map ActionConfig.normalized)) :=
    Node.or_none_read fun map hmap => ⟨rfl, Node.text_map_read fun entry hentry =>
      ActionConfig.optional_entry_json (h.actions map hmap entry hentry)⟩
  simp only [ofParts?, hfilters, hoperators, hactions, Node.or_none_texts, Option.bind_eq_bind,
    Option.bind_some, Option.pure_def]
  obtain ⟨_, _, _, _, _, _⟩ := config
  obtain ⟨rfl, -⟩ := h
  rfl

/-- The fields of the versionable part, in the order in which they are written. -/
theorem fields_eq (config : OverlayConfig) :
    config.filterFields = optionalField "filters" (config.filters.map RuleMap.toJson) ++
      optionalField "allowed_operators" (config.allowedOperators.map operatorsJson) ++
      nonEmptyField "raw_filters" config.customFilters ∧
    config.actionFields = optionalField "actions" (config.actions.map actionsJson) :=
  ⟨rfl, rfl⟩

end OverlayConfig

namespace VersionConfig

/-- The version with all its rules parted into tokens. -/
def normalized (config : VersionConfig) : VersionConfig :=
  { config with overlay := config.overlay.normalized }

/-- The parts of a written version. -/
theorem parts_of_to_json (config : VersionConfig) :
    (Node.ofJson config.toJson).parts? fieldNames =
      some ([some (.string config.id), config.overlay.filters.map RuleMap.toJson,
        config.overlay.allowedOperators.map OverlayConfig.operatorsJson,
        config.overlay.select.map Json.ofStrings, config.overlay.sorts.map Json.ofStrings,
        config.overlay.actions.map OverlayConfig.actionsJson].map (Option.map Node.ofJson)) := by
  have hnames : ["id", "filters", "allowed_operators", "raw_filters", "select", "sorts",
      "actions"].Nodup := by decide
  obtain ⟨hfilters, hactions⟩ := config.overlay.fields_eq
  unfold toJson
  rw [hfilters, hactions, OverlayConfig.listFields, Node.parts_of_json]
  · simp [fieldNames, List.lookup_append, lookup_cons_entry, lookup_optional_field,
      lookup_non_empty_field]
  · refine hnames.sublist ?_
    simp only [List.map_append, List.append_assoc]
    exact (List.Sublist.refl ["id"]).append ((keys_optional_field _ _).append
      ((keys_optional_field _ _).append ((keys_non_empty_field _ _).append
        ((keys_optional_field _ _).append ((keys_optional_field _ _).append
          (keys_optional_field _ _))))))

theorem of_node_to_json {config : VersionConfig} (h : config.overlay.Readable) :
    ofNode? (Node.ofJson config.toJson) = some config.normalized := by
  have hid : Node.required? Node.text? (some (Node.ofJson (.string config.id))) =
      some config.id := rfl
  unfold ofNode?
  simp only [parts_of_to_json, List.map_cons, List.map_nil, Option.bind_eq_bind, Option.bind_some,
    Option.map_some, OverlayConfig.of_parts_written h, hid, Option.pure_def]
  rfl

end VersionConfig

/-! ## Gates -/

theorem CachePolicy.of_node_to_json {policy : CachePolicy} (h : policy.ttl < 2 ^ 64) :
    ofNode? (Node.ofJson policy.toJson) = some policy := by
  have hnames : ["ttl", "name"].Nodup := by decide
  have hparts : (Node.ofJson policy.toJson).parts? ["ttl", "name"] =
      some ([some (Json.ofNat policy.ttl), policy.name.map .string].map
        (Option.map Node.ofJson)) := by
    unfold toJson
    rw [Node.parts_of_json]
    · simp [lookup_cons_entry, lookup_optional_field]
    · refine hnames.sublist ?_
      rw [List.map_append]
      exact (List.Sublist.refl ["ttl"]).append (keys_optional_field _ _)
  have httl : Node.required? Node.natural64? (some (Node.ofJson (Json.ofNat policy.ttl))) =
      some policy.ttl := Node.natural_below_of_nat h
  unfold ofNode?
  simp only [hparts, List.map_cons, List.map_nil, Option.bind_eq_bind, Option.bind_some,
    Option.map_some, httl, Node.or_none_text, Option.pure_def]

namespace GateConfig

/-- The gate with all its rules parted into tokens. -/
def normalized (config : GateConfig) : GateConfig :=
  { config with
    overlay := config.overlay.normalized
    versions := config.versions.map VersionConfig.normalized }

/-- Everything about the gate can be written. -/
structure Readable (config : GateConfig) : Prop where
  overlay : config.overlay.Readable
  cache : ∀ policy, config.cache = some policy → policy.ttl < 2 ^ 64
  versions : ∀ version ∈ config.versions, version.overlay.Readable
  baseQuery : config.baseQuery = false

/-- The versions are written only if there are any. -/
def versionsField (config : GateConfig) : JsonFields :=
  if config.versions.isEmpty then []
  else [("versions", .array (config.versions.map VersionConfig.toJson))]

theorem lookup_versions_field (config : GateConfig) (other : String) :
    config.versionsField.lookup other =
      if other = "versions" then
        (if config.versions.isEmpty then none
          else some (.array (config.versions.map VersionConfig.toJson)))
      else none := by
  unfold versionsField
  split
  · simp
  · exact lookup_cons_entry [] "versions" other _

theorem keys_versions_field (config : GateConfig) :
    (config.versionsField.map Prod.fst).Sublist ["versions"] := by
  unfold versionsField
  split
  · exact List.nil_sublist _
  · exact .refl _

/-- The parts of a written gate. -/
theorem parts_of_to_json (config : GateConfig) :
    (Node.ofJson config.toJson).parts? fieldNames =
      some ([some (.string config.entity), config.aliasName.map .string, config.table.map .string,
        config.primaryKey.map .string,
        if config.middleware.isEmpty then none else some (Json.ofStrings config.middleware),
        config.overlay.filters.map RuleMap.toJson,
        config.overlay.allowedOperators.map OverlayConfig.operatorsJson,
        config.overlay.select.map Json.ofStrings, config.overlay.sorts.map Json.ofStrings,
        config.pagination.map .string, config.cache.map CachePolicy.toJson,
        config.overlay.actions.map OverlayConfig.actionsJson,
        if config.versions.isEmpty then none
          else some (.array (config.versions.map VersionConfig.toJson)),
        config.defaultVersion.map .string].map (Option.map Node.ofJson)) := by
  have hnames : ["entity", "alias", "table", "primary_key", "middleware", "filters",
      "allowed_operators", "raw_filters", "select", "sorts", "pagination", "cache", "actions",
      "versions", "default_version", "base_query"].Nodup := by decide
  obtain ⟨hfilters, hactions⟩ := config.overlay.fields_eq
  unfold toJson
  rw [hfilters, hactions, OverlayConfig.listFields, ← versionsField, Node.parts_of_json]
  · simp [fieldNames, List.lookup_append, lookup_cons_entry, lookup_optional_field,
      lookup_non_empty_field, lookup_mark_field, lookup_versions_field]
  · refine hnames.sublist ?_
    simp only [List.map_append, List.append_assoc]
    exact (List.Sublist.refl ["entity"]).append ((keys_optional_field _ _).append
      ((keys_optional_field _ _).append ((keys_optional_field _ _).append
        ((keys_non_empty_field _ _).append ((keys_optional_field _ _).append
          ((keys_optional_field _ _).append ((keys_non_empty_field _ _).append
            ((keys_optional_field _ _).append ((keys_optional_field _ _).append
              ((keys_optional_field _ _).append ((keys_optional_field _ _).append
                ((keys_optional_field _ _).append ((keys_versions_field _).append
                  ((keys_optional_field _ _).append (keys_mark_field _ _)))))))))))))))

/-- A written gate is read back in its normal form. -/
theorem of_node_to_json {config : GateConfig} (h : config.Readable) :
    ofNode? (Node.ofJson config.toJson) = some config.normalized := by
  have hentity : Node.required? Node.text? (some (Node.ofJson (.string config.entity))) =
      some config.entity := rfl
  have hcache : Node.orNone? CachePolicy.ofNode?
      ((config.cache.map CachePolicy.toJson).map Node.ofJson) = some config.cache :=
    Node.or_none_written fun policy hpolicy =>
      ⟨rfl, CachePolicy.of_node_to_json (h.cache policy hpolicy)⟩
  have hversions : Node.orDefault? [] (Node.listOf? VersionConfig.ofNode?)
      ((if config.versions.isEmpty then none
        else some (Json.array (config.versions.map VersionConfig.toJson))).map Node.ofJson) =
      some (config.versions.map VersionConfig.normalized) := by
    have hread := Node.list_of_read fun version hversion =>
      VersionConfig.of_node_to_json (h.versions version hversion)
    split
    · next hempty =>
      rw [List.isEmpty_iff.mp hempty]
      rfl
    · exact hread
  unfold ofNode?
  simp only [parts_of_to_json, List.map_cons, List.map_nil, Option.bind_eq_bind, Option.bind_some,
    Option.map_some, OverlayConfig.of_parts_written h.overlay, Node.or_none_text,
    Node.or_default_texts, hentity, hcache, hversions, Option.pure_def]
  obtain ⟨_, _, _, _, _, _, _, _, _, _, _⟩ := config
  obtain ⟨-, -, -, rfl⟩ := h
  rfl

end GateConfig

end EntityGate
