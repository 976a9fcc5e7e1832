import EntityGate.Proofs.Sql.Numbering
import Mathlib.Data.List.Forall2

/-!
# Values do not reach the text

Two queries with the same conditions on the same fields are rendered alike, fragment by fragment,
whatever values the conditions compare with: a value only ever becomes a parameter, and parameters
are written as numbers. The relations take what two fields, and two names, have to share as
parameters, so that the same induction serves texts that differ in their names. See
`text_hides_values`.
-/

namespace EntityGate

/-! ## Alike queries -/

mutual

/-- The same conditions on fields that are related, with any values; lists of values have the same
length. -/
inductive Predicate.Alike (SameField : String → String → Prop) : Predicate → Predicate → Prop where
  | compare {first second comparison kind} (value other) :
      SameField first second →
      Alike SameField (.compare first comparison value kind) (.compare second comparison other kind)
  | isNull {first second} (negated) :
      SameField first second → Alike SameField (.isNull first negated) (.isNull second negated)
  | oneOf {first second values others} (kind) :
      SameField first second → values.length = others.length →
      Alike SameField (.oneOf first values kind) (.oneOf second others kind)
  | between {first second} (low high otherLow otherHigh kind) :
      SameField first second →
      Alike SameField (.between first low high kind) (.between second otherLow otherHigh kind)
  | like {first second} (pattern other) :
      SameField first second → Alike SameField (.like first pattern) (.like second other)
  | any {first second} : Predicate.AllAlike SameField first second →
      Alike SameField (.any first) (.any second)
  | all {first second} : Predicate.AllAlike SameField first second →
      Alike SameField (.all first) (.all second)

/-- Predicates that are alike one by one. -/
inductive Predicate.AllAlike (SameField : String → String → Prop) :
    List Predicate → List Predicate → Prop where
  | nil : AllAlike SameField [] []
  | cons {first second rest others} : Predicate.Alike SameField first second →
      AllAlike SameField rest others → AllAlike SameField (first :: rest) (second :: others)

end

/-- Orderings by related fields in the same direction. -/
structure OrderTerm.Alike (SameField : String → String → Prop) (first second : OrderTerm) :
    Prop where
  field : SameField first.field second.field
  direction : first.direction = second.direction

/-- Queries for related columns under alike conditions and orderings, in the same window. -/
structure SelectQuery.Alike (SameField : String → String → Prop) (first second : SelectQuery) :
    Prop where
  columns : List.Forall₂ SameField first.columns second.columns
  predicates : Predicate.AllAlike SameField first.predicates second.predicates
  orders : List.Forall₂ (OrderTerm.Alike SameField) first.orders second.orders
  limit : first.limit = second.limit
  offset : first.offset = second.offset

/-- Attributes with related names, of which the same ones are null. -/
abbrev AttributesAlike (SameName : String → String → Prop) (first second : JsonFields) : Prop :=
  List.Forall₂ (fun field other => SameName field.1 other.1 ∧ field.2.isNull = other.2.isNull)
    first second

/-! ## Columns and keys of a field -/

theorem Text.length_split_chars (isSeparator : Char → Bool) (chars : List Char) :
    (Text.splitChars isSeparator chars).length = chars.countP isSeparator + 1 := by
  induction chars with
  | nil => rfl
  | cons char rest ih =>
      rw [Text.splitChars, List.countP_cons]
      split
      · rw [List.length_cons, ih]
      · cases hpieces : Text.splitChars isSeparator rest with
        | nil => simp [hpieces] at ih
        | cons piece pieces =>
            rw [hpieces] at ih
            exact ih

namespace Sql

open Identifier (isDotted segments)

theorem segments_eq_split_field (field : String) :
    segments field = (splitField field).1 :: (splitField field).2 := by
  have hlength := Text.length_split_chars (· == '.') field.toList
  unfold splitField
  cases hsegments : segments field with
  | nil =>
      rw [← List.length_map (f := String.ofList)] at hlength
      rw [show (Text.splitChars (· == '.') field.toList).map String.ofList = [] from hsegments]
        at hlength
      cases hlength
  | cons column keys => rfl

/-- A field has dots when there are keys below its column. -/
theorem is_dotted_eq (field : String) : isDotted field = !(splitField field).2.isEmpty := by
  have hlength : (segments field).length = field.toList.countP (· == '.') + 1 := by
    rw [segments, Text.split, List.length_map, Text.length_split_chars]
  rw [segments_eq_split_field, List.length_cons, Nat.add_right_cancel_iff] at hlength
  rw [Bool.eq_iff_iff, isDotted, List.contains_iff_mem, Bool.not_eq_true',
    List.isEmpty_eq_false_iff, ← List.length_pos_iff, hlength, List.countP_pos_iff]
  constructor
  · intro hdot
    exact ⟨'.', hdot, rfl⟩
  · rintro ⟨char, hchar, hdot⟩
    exact eq_of_beq hdot ▸ hchar

variable {SameField SameName : String → String → Prop}

/-! ## Alike statements -/

/-- The same text, related names, or parameters. -/
inductive Fragment.Alike (SameName : String → String → Prop) : Fragment → Fragment → Prop where
  | text (text) : Alike SameName (.text text) (.text text)
  | name {first second} : SameName first second → Alike SameName (.name first) (.name second)
  | key {first second} : SameName first second → Alike SameName (.key first) (.key second)
  | parameter (value other) : Alike SameName (.parameter value) (.parameter other)

/-- Statements that are alike fragment by fragment. -/
abbrev Statement.Alike (SameName : String → String → Prop) (first second : Statement) : Prop :=
  List.Forall₂ (Fragment.Alike SameName) first second

namespace Statement.Alike

variable {first second rest others : Statement}

theorem append (hfirst : Alike SameName first second) (hrest : Alike SameName rest others) :
    Alike SameName (first ++ rest) (second ++ others) :=
  List.rel_append hfirst hrest

theorem text (written : String) (h : Alike SameName rest others) :
    Alike SameName (.text written :: rest) (.text written :: others) :=
  .cons (.text written) h

theorem name {column other : String} (hname : SameName column other)
    (h : Alike SameName rest others) :
    Alike SameName (.name column :: rest) (.name other :: others) :=
  .cons (.name hname) h

theorem parameter (value other : BoundValue) (h : Alike SameName rest others) :
    Alike SameName (.parameter value :: rest) (.parameter other :: others) :=
  .cons (.parameter value other) h

theorem joined (separator : String) {parts others : List Statement}
    (h : List.Forall₂ (Alike SameName) parts others) :
    Alike SameName (joined separator parts) (joined separator others) := by
  induction h with
  | nil => exact .nil
  | cons hpart hrest ih =>
      cases hrest with
      | nil => exact hpart.append .nil
      | cons hnext hothers => exact hpart.append (.text separator ih)

theorem joined_map (separator : String) {α : Type} {R : α → α → Prop} {xs ys : List α}
    (f : α → Statement) (hmap : ∀ x y, R x y → Alike SameName (f x) (f y))
    (h : List.Forall₂ R xs ys) :
    Alike SameName (Statement.joined separator (xs.map f))
      (Statement.joined separator (ys.map f)) :=
  joined separator (List.rel_map (fun _ _ hxy => hmap _ _ hxy) h)

/-- Statements with the same names have the same text. -/
theorem chars_from_eq (h : Alike Eq first second) (number : Nat) :
    charsFrom number first = charsFrom number second := by
  induction h generalizing number with
  | nil => rfl
  | cons hfragment _ ih =>
      cases hfragment with
      | text written => rw [charsFrom, charsFrom, ih]
      | name hname => rw [charsFrom, charsFrom, hname, ih]
      | key hkey => rw [charsFrom, charsFrom, hkey, ih]
      | parameter value other => rw [charsFrom, charsFrom, ih]

end Statement.Alike

/-! ## Alike renderings -/

/-- What related fields and names have in common where they are rendered. -/
structure RendersAlike (types : ColumnTypes) (SameField SameName : String → String → Prop) :
    Prop where
  whole {first second} : SameField first second → SameName first second
  parts {first second} : SameField first second →
    List.Forall₂ SameName (segments first) (segments second)
  cast {first second} (value other : Json) (kind : ValueKind) : SameField first second →
    Statement.Alike SameName (placeholder types first value kind)
      (placeholder types second other kind)
  plain {first second} (value other : Json) : SameName first second →
    Statement.Alike SameName (placeholder types first value .text)
      (placeholder types second other .text)

namespace RendersAlike

open Statement (Alike)

variable {types : ColumnTypes} {first second : String} {keys others : List String}

theorem path_keys (h : List.Forall₂ SameName keys others) :
    Alike SameName (pathKeys keys) (pathKeys others) := by
  induction h with
  | nil => exact .nil
  | cons hkey _ ih => exact .cons (.text "->") (.cons (.key hkey) ih)

theorem text_path_keys (h : List.Forall₂ SameName keys others) :
    Alike SameName (textPathKeys keys) (textPathKeys others) := by
  induction h with
  | nil => exact .nil
  | cons hkey hrest ih =>
      cases hrest with
      | nil => exact .cons (.text "->>") (.cons (.key hkey) .nil)
      | cons hnext hothers => exact .cons (.text "->") (.cons (.key hkey) ih)

theorem is_empty_eq {α : Type} {R : α → α → Prop} {xs ys : List α} (h : List.Forall₂ R xs ys) :
    xs.isEmpty = ys.isEmpty := by
  cases h <;> rfl

variable (h : RendersAlike types SameField SameName)
include h

/-- Related fields have related columns and related keys below them. -/
theorem split_field (hfield : SameField first second) :
    SameName (splitField first).1 (splitField second).1 ∧
      List.Forall₂ SameName (splitField first).2 (splitField second).2 := by
  have hparts := h.parts hfield
  rw [segments_eq_split_field, segments_eq_split_field] at hparts
  exact List.forall₂_cons.mp hparts

theorem dotted (hfield : SameField first second) : isDotted first = isDotted second := by
  rw [is_dotted_eq, is_dotted_eq, is_empty_eq (h.split_field hfield).2]

theorem table (htable : SameField first second) :
    Alike SameName (qualifiedTable first) (qualifiedTable second) := by
  refine Alike.joined "." (List.rel_map ?_ (h.parts htable))
  intro part other hpart
  exact .cons (.name hpart) .nil

theorem column_expression (hfield : SameField first second) (kind : ValueKind) :
    Alike SameName (columnExpression first kind) (columnExpression second kind) := by
  obtain ⟨hcolumn, hkeys⟩ := h.split_field hfield
  unfold columnExpression
  dsimp only
  rw [is_empty_eq hkeys]
  split
  · exact .text _ (.name hcolumn ((path_keys hkeys).append (.text _ .nil)))
  · split
    · exact .name hcolumn .nil
    · cases kind.cast? with
      | none => exact .name hcolumn (text_path_keys hkeys)
      | some cast =>
          exact .text _ (.name hcolumn
            ((text_path_keys hkeys).append (.text _ (.text _ .nil))))

theorem select_expression (hfield : SameField first second) :
    Alike SameName (selectExpression first) (selectExpression second) := by
  obtain ⟨hcolumn, hkeys⟩ := h.split_field hfield
  unfold selectExpression
  dsimp only
  rw [is_empty_eq hkeys]
  split
  · exact .name (h.whole hfield) .nil
  · exact .name hcolumn
      ((path_keys hkeys).append (.text _ (.name (h.whole hfield) .nil)))

theorem values (hfield : SameField first second) (kind : ValueKind) {values others : List Json}
    (hlength : values.length = others.length) :
    Alike SameName
      (Statement.joined ", " (values.map fun value => placeholder types first value kind))
      (Statement.joined ", " (others.map fun value => placeholder types second value kind)) := by
  refine Alike.joined ", " ?_
  induction values generalizing others with
  | nil =>
      obtain rfl := List.length_eq_zero_iff.mp hlength.symm
      exact .nil
  | cons value rest ih =>
      cases others with
      | nil => cases hlength
      | cons other others =>
          exact .cons (h.cast value other kind hfield) (ih (Nat.succ.inj hlength))

omit h

mutual

theorem render_predicate (h : RendersAlike types SameField SameName) {first second : Predicate}
    (halike : Predicate.Alike SameField first second) :
    Alike SameName (renderPredicate types first) (renderPredicate types second) := by
  cases halike with
  | compare value other hfield =>
      exact (h.column_expression hfield _).append
        (.text _ (.text _ (.text _ (h.cast value other _ hfield))))
  | isNull negated hfield => exact (h.column_expression hfield .text).append (.text _ .nil)
  | @oneOf _ _ values others kind hfield hlength =>
      rw [renderPredicate, renderPredicate]
      cases values with
      | nil =>
          obtain rfl := List.length_eq_zero_iff.mp hlength.symm
          exact .text _ .nil
      | cons value rest =>
          cases others with
          | nil => cases hlength
          | cons other others =>
              exact (h.column_expression hfield kind).append
                (.text _ ((h.values hfield kind hlength).append (.text _ .nil)))
  | between low high otherLow otherHigh kind hfield =>
      exact (h.column_expression hfield kind).append
        (.text _ ((h.cast low otherLow kind hfield).append
          (.text _ (h.cast high otherHigh kind hfield))))
  | like pattern other hfield =>
      rw [renderPredicate, renderPredicate, h.dotted hfield]
      exact (h.column_expression hfield .text).append (.text _ (.parameter _ _ .nil))
  | any hall =>
      cases hall with
      | nil => exact .text _ .nil
      | cons hfirst hrest =>
          exact .text _ ((Alike.joined " OR " (.cons (h.render_predicate hfirst)
            (h.render_predicates hrest))).append (.text _ .nil))
  | all hall =>
      cases hall with
      | nil => exact .text _ .nil
      | cons hfirst hrest =>
          exact .text _ ((Alike.joined " AND " (.cons (h.render_predicate hfirst)
            (h.render_predicates hrest))).append (.text _ .nil))

theorem render_predicates (h : RendersAlike types SameField SameName)
    {first second : List Predicate} (halike : Predicate.AllAlike SameField first second) :
    List.Forall₂ (Alike SameName) (renderPredicates types first)
      (renderPredicates types second) := by
  cases halike with
  | nil => exact .nil
  | cons hfirst hrest => exact .cons (h.render_predicate hfirst) (h.render_predicates hrest)

end

include h

variable {limit : Option Nat}

theorem where_clause {first second : List Predicate}
    (halike : Predicate.AllAlike SameField first second) :
    Alike SameName (whereClause types first) (whereClause types second) := by
  have hparts := Alike.joined " AND " (h.render_predicates halike)
  cases halike with
  | nil => exact .nil
  | cons => exact .text _ hparts

theorem order_clause {first second : List OrderTerm}
    (halike : List.Forall₂ (OrderTerm.Alike SameField) first second) :
    Alike SameName (orderClause first) (orderClause second) := by
  have hterm (order other : OrderTerm) (hterm : order.Alike SameField other) :
      Alike SameName
        (columnExpression order.field .text ++
          [.text " ", .text (directionText order.direction)])
        (columnExpression other.field .text ++
          [.text " ", .text (directionText other.direction)]) := by
    rw [hterm.direction]
    exact (h.column_expression hterm.field .text).append (.text _ (.text _ .nil))
  have hparts := Alike.joined_map ", " _ hterm halike
  cases halike with
  | nil => exact .nil
  | cons => exact .text _ hparts

theorem column_list {first second : List String} (halike : List.Forall₂ SameField first second) :
    Alike SameName (columnList first) (columnList second) := by
  have hparts := Alike.joined_map ", " selectExpression
    (fun _ _ hcolumn => h.select_expression hcolumn) halike
  cases halike with
  | nil => exact .text _ .nil
  | cons => exact hparts

omit h in
theorem number_clause (keyword : String) (number : Option Nat) :
    Alike SameName (numberClause keyword number) (numberClause keyword number) := by
  cases number with
  | none => exact .nil
  | some number => exact .text _ (.text _ .nil)

theorem select {table other : String} {first second : SelectQuery} (htable : SameField table other)
    (halike : first.Alike SameField second) :
    Alike SameName (Sql.select types table first) (Sql.select types other second) := by
  unfold Sql.select
  rw [halike.limit, halike.offset]
  exact .text _ ((h.column_list halike.columns).append (.text _ ((h.table htable).append
    ((h.where_clause halike.predicates).append ((h.order_clause halike.orders).append
      ((number_clause " LIMIT " _).append (number_clause " OFFSET " _)))))))

theorem count (hcount : SameName "aggregate" "aggregate") {table other : String}
    {first second : SelectQuery} (htable : SameField table other)
    (halike : first.Alike SameField second) :
    Alike SameName (Sql.count types table first) (Sql.count types other second) :=
  .text _ (.name hcount (.text _ ((h.table htable).append (h.where_clause halike.predicates))))

theorem attribute_value {name other : String} {value changed : Json} (hname : SameName name other)
    (hnull : value.isNull = changed.isNull) :
    Alike SameName (attributeValue types name value) (attributeValue types other changed) := by
  unfold attributeValue
  rw [hnull]
  split
  · exact .text _ .nil
  · exact h.plain value changed hname

theorem insert {table other : String} {first second : JsonFields} (htable : SameField table other)
    (halike : AttributesAlike SameName first second) :
    Alike SameName (Sql.insert types table first) (Sql.insert types other second) := by
  have hnames := Alike.joined_map ", " (fun field => [.name field.1])
    (fun _ _ hfield => .name hfield.1 .nil) halike
  have hvalues := Alike.joined_map ", " (fun field => attributeValue types field.1 field.2)
    (fun _ _ hfield => h.attribute_value hfield.1 hfield.2) halike
  cases halike with
  | nil => exact .text _ ((h.table htable).append (.text _ .nil))
  | cons =>
      exact .text _ ((h.table htable).append (.text _ (hnames.append
        (.text _ (hvalues.append (.text _ .nil))))))

theorem key_condition {primaryKey other : String} (hkey : SameName primaryKey other)
    (key changed : Json) :
    Alike SameName (keyCondition types primaryKey key) (keyCondition types other changed) :=
  .text _ (.name hkey (.text _ (h.plain key changed hkey)))

/-- Updates are alike when the attributes that they set are, the key column aside. -/
theorem update {table otherTable primaryKey other : String} {first second : JsonFields}
    (htable : SameField table otherTable) (hkey : SameName primaryKey other)
    (halike : AttributesAlike SameName (first.filter fun field => field.1 != primaryKey)
      (second.filter fun field => field.1 != other)) (key changed : Json) :
    Alike SameName (Sql.update types table primaryKey key first)
      (Sql.update types otherTable other changed second) := by
  have hcondition := h.key_condition hkey key changed
  have hassignment (field change : String × Json)
      (hfield : SameName field.1 change.1 ∧ field.2.isNull = change.2.isNull) :
      Alike SameName (.name field.1 :: .text " = " :: attributeValue types field.1 field.2)
        (.name change.1 :: .text " = " :: attributeValue types change.1 change.2) :=
    .name hfield.1 (.text _ (h.attribute_value hfield.1 hfield.2))
  have hchanges := Alike.joined_map ", " (fun field : String × Json =>
    .name field.1 :: .text " = " :: attributeValue types field.1 field.2) hassignment halike
  unfold Sql.update
  dsimp only
  rw [is_empty_eq halike]
  split
  · exact .text _ ((h.table htable).append hcondition)
  · exact .text _ ((h.table htable).append (.text _ (hchanges.append
      (hcondition.append (.text _ .nil)))))

theorem delete {table otherTable primaryKey other : String} (htable : SameField table otherTable)
    (hkey : SameName primaryKey other) (key changed : Json) :
    Alike SameName (Sql.delete types table primaryKey key)
      (Sql.delete types otherTable other changed) :=
  .text _ ((h.table htable).append (h.key_condition hkey key changed))

omit h

/-- Placeholders for the same field are alike, whatever their values. -/
theorem of_eq (types : ColumnTypes) : RendersAlike types Eq Eq := by
  have hcast (field : String) (value other : Json) (kind : ValueKind) :
      Alike Eq (placeholder types field value kind) (placeholder types field other kind) := by
    unfold placeholder
    dsimp only
    split
    · exact .parameter _ _ (.text _ .nil)
    · split
      · cases kind.cast? with
        | none => exact .parameter _ _ .nil
        | some cast => exact .parameter _ _ (.text _ (.text _ .nil))
      · cases types.lookup field with
        | none => exact .parameter _ _ .nil
        | some type => exact .parameter _ _ (.text _ (.text _ .nil))
  constructor
  · exact fun h => h
  · rintro first _ rfl
    exact List.forall₂_same.mpr fun _ _ => rfl
  · rintro first _ value other kind rfl
    exact hcast first value other kind
  · rintro first _ value other rfl
    exact hcast first value other .text

end RendersAlike

/-- Attributes with the same names stay so without those of one name. -/
theorem attributes_alike_filter {first second : JsonFields} (h : AttributesAlike Eq first second)
    (primaryKey : String) :
    AttributesAlike Eq (first.filter fun field => field.1 != primaryKey)
      (second.filter fun field => field.1 != primaryKey) := by
  induction h with
  | nil => exact .nil
  | cons hfield hrest ih =>
      rw [List.filter_cons, List.filter_cons, hfield.1]
      split
      · exact .cons hfield ih
      · exact ih

/-! ## Texts without values -/

/-- The text of a statement does not depend on the values it is rendered with: queries whose
conditions differ in values only, and writes whose attributes differ in values that are not null,
have the same text. -/
theorem text_hides_values (types : ColumnTypes) (table : String) :
    (∀ first second : SelectQuery, first.Alike Eq second →
      (Prepared.select types table first).sql = (Prepared.select types table second).sql ∧
        (Prepared.count types table first).sql = (Prepared.count types table second).sql) ∧
    (∀ first second : JsonFields, AttributesAlike Eq first second →
      (Prepared.insert types table first).sql = (Prepared.insert types table second).sql ∧
        ∀ primaryKey key other, (Prepared.update types table primaryKey key first).sql =
          (Prepared.update types table primaryKey other second).sql) ∧
    ∀ primaryKey key other, (Prepared.delete types table primaryKey key).sql =
      (Prepared.delete types table primaryKey other).sql := by
  have h := RendersAlike.of_eq types
  have hsql {first second : Statement} (halike : Statement.Alike Eq first second) :
      first.prepared.sql = second.prepared.sql := congrArg String.ofList (halike.chars_from_eq 1)
  simp only [select_eq_prepared, count_eq_prepared, insert_eq_prepared, update_eq_prepared,
    delete_eq_prepared]
  refine ⟨?_, ?_, ?_⟩
  · intro first second halike
    exact ⟨hsql (h.select rfl halike), hsql (h.count rfl rfl halike)⟩
  · intro first second halike
    refine ⟨hsql (h.insert rfl halike), ?_⟩
    intro primaryKey key other
    exact hsql (h.update rfl rfl (attributes_alike_filter halike primaryKey) key other)
  · intro primaryKey key other
    exact hsql (h.delete rfl rfl key other)

/-- A search by tenant, state and title, and a note, each with values that look like a statement
in place of plain ones. -/
theorem text_hides_values_of_search :
    let types : ColumnTypes := [("state", "\"public\".\"state\"")]
    let search (tenant : Json) (states : List Json) (pattern : String) : SelectQuery :=
      { predicates := [.any [.compare "meta.tenant" .eq tenant .integer, .all []],
          .oneOf "state" states .text, .like "title" pattern] }
    let plain := search (.string "7") [.string "draft", .null] "%lean%"
    let hostile := search (.string "7) OR 1 = 1 --") [.string "'; DROP TABLE posts", .array []] "$1"
    let note : JsonFields := [("text", .string "seen"), ("done", .null)]
    let hostileNote : JsonFields := [("text", .string "\"; DELETE FROM notes"), ("done", .null)]
    (plain.Alike Eq hostile ∧
      (Prepared.select types "blog.posts" plain).sql =
        (Prepared.select types "blog.posts" hostile).sql) ∧
    AttributesAlike Eq note hostileNote ∧
      (Prepared.insert types "blog.posts" note).sql =
        (Prepared.insert types "blog.posts" hostileNote).sql := by
  intro types search plain hostile note hostileNote
  have halike : plain.Alike Eq hostile :=
    ⟨.nil, .cons (.any (.cons (.compare _ _ rfl) (.cons (.all .nil) .nil)))
      (.cons (.oneOf _ rfl rfl) (.cons (.like _ _ rfl) .nil)), .nil, rfl, rfl⟩
  have hnotes : AttributesAlike Eq note hostileNote := .cons ⟨rfl, rfl⟩ (.cons ⟨rfl, rfl⟩ .nil)
  obtain ⟨hqueries, hwrites, -⟩ := text_hides_values types "blog.posts"
  exact ⟨⟨halike, (hqueries plain hostile halike).1⟩, hnotes, (hwrites note hostileNote hnotes).1⟩

end Sql

end EntityGate
