import EntityGate.Proofs.Sql.Placeholders
import EntityGate.Proofs.Sql.Values

/-!
# Names stay in their quotes

Whatever characters a name is made of, the text of a statement is cut into tokens of which the
quoted ones are exactly its names, in order, and what stands outside of quotes depends on the form
of the statement only: how many columns and keys there are, how they are compared and ordered, how
long the lists are and which attributes are null. See `names_stay_quoted`; names that a statement
carries but does not write are in `unwritten_names_and_nulls`.
-/

namespace EntityGate

namespace Sql

open Identifier (isDotted segments)
open Statement (parameters tokensFrom charsFrom Spelled)

/-! ## Names of a query -/

/-- A name with the mark that it is quoted with. -/
abbrev QuotedName := Char × String

/-- A table: each part is an identifier. -/
def tableNames (table : String) : List QuotedName := (segments table).map fun part => ('"', part)

/-- A field: its column is an identifier, and the keys below it are literals. -/
def fieldNames (field : String) : List QuotedName :=
  ('"', (splitField field).1) :: (splitField field).2.map fun key => ('\'', key)

/-- A selected column; a path is followed by itself as an alias. -/
def selectedNames (column : String) : List QuotedName :=
  if isDotted column then fieldNames column ++ [('"', column)] else [('"', column)]

/-- Attributes: each name is an identifier as a whole. -/
def attributeNames (attributes : JsonFields) : List QuotedName :=
  attributes.map fun field => ('"', field.1)

mutual

/-- The names that a condition is written with; a comparison with an empty list is written without
its field. -/
def conditionNames : Predicate → List QuotedName
  | .compare field _ _ _ => fieldNames field
  | .isNull field _ => fieldNames field
  | .oneOf _ [] _ => []
  | .oneOf field (_ :: _) _ => fieldNames field
  | .between field _ _ _ => fieldNames field
  | .like field _ => fieldNames field
  | .any alternatives => conditionNamesOf alternatives
  | .all conditions => conditionNamesOf conditions

/-- The names of conditions, one after the other. -/
def conditionNamesOf : List Predicate → List QuotedName
  | [] => []
  | predicate :: rest => conditionNames predicate ++ conditionNamesOf rest

end

/-- The names of a query: its columns, its table, its conditions and its orderings. -/
def selectNames (table : String) (query : SelectQuery) : List QuotedName :=
  query.columns.flatMap selectedNames ++ (tableNames table ++
    (conditionNamesOf query.predicates ++ query.orders.flatMap fun order => fieldNames order.field))

/-- The names of a count: that of the result, the table and the conditions. -/
def countNames (table : String) (query : SelectQuery) : List QuotedName :=
  ('"', "aggregate") :: (tableNames table ++ conditionNamesOf query.predicates)

/-! ## Quoted names of a statement -/

/-- The name of a fragment. -/
def Fragment.quoted? : Fragment → Option QuotedName
  | .name column => some ('"', column)
  | .key segment => some ('\'', segment)
  | _ => none

/-- The names of a statement, in order. -/
def quotedNames (statement : Statement) : List QuotedName := statement.filterMap Fragment.quoted?

@[simp] theorem quoted_names_nil : quotedNames [] = [] := rfl

@[simp] theorem quoted_names_name (column : String) (rest : Statement) :
    quotedNames (.name column :: rest) = ('"', column) :: quotedNames rest := rfl

@[simp] theorem quoted_names_key (segment : String) (rest : Statement) :
    quotedNames (.key segment :: rest) = ('\'', segment) :: quotedNames rest := rfl

@[simp] theorem quoted_names_parameter (value : BoundValue) (rest : Statement) :
    quotedNames (.parameter value :: rest) = quotedNames rest := rfl

@[simp] theorem quoted_names_append (first second : Statement) :
    quotedNames (first ++ second) = quotedNames first ++ quotedNames second :=
  List.filterMap_append

@[simp] theorem quoted_names_flat_map {α : Type} (items : List α) (render : α → Statement) :
    quotedNames (items.flatMap render) = items.flatMap fun item => quotedNames (render item) :=
  List.filterMap_flatMap ..

theorem quoted_names_filled (statement : Statement) :
    quotedNames statement = quotedNames (filled statement) :=
  filter_map_filled (fun _ => rfl) statement

theorem quoted_names_map {α : Type} {fragment : α → Fragment} {quoted : α → QuotedName}
    (h : ∀ item, (fragment item).quoted? = some (quoted item)) (items : List α) :
    quotedNames (items.map fragment) = items.map quoted := by
  induction items with
  | nil => rfl
  | cons item rest ih =>
      rw [List.map_cons, List.map_cons, quotedNames, List.filterMap_cons_some (h item),
        ← quotedNames, ih]

/-- Values have no name. -/
@[simp] theorem quoted_names_values (values : List BoundValue) :
    quotedNames (values.map .parameter) = [] := by
  rw [quotedNames, List.filterMap_map]
  exact List.filterMap_eq_nil_iff.mpr fun _ _ => rfl

@[simp] theorem quoted_names_table_fragments (table : String) :
    quotedNames (tableFragments table) = tableNames table :=
  quoted_names_map (fun _ => rfl) _

@[simp] theorem quoted_names_field_fragments (field : String) :
    quotedNames (fieldFragments field) = fieldNames field := by
  rw [fieldFragments, quoted_names_name, quoted_names_map fun _ => rfl]
  rfl

@[simp] theorem quoted_names_selected_fragments (column : String) :
    quotedNames (selectedFragments column) = selectedNames column := by
  unfold selectedFragments selectedNames
  split
  · rw [quoted_names_append, quoted_names_field_fragments]
    rfl
  · rfl

mutual

theorem quoted_names_condition_fragments (predicate : Predicate) :
    quotedNames (conditionFragments predicate) = conditionNames predicate := by
  match predicate with
  | .compare .. | .between .. | .like .. => simp [conditionFragments, conditionNames]
  | .isNull field negated => exact quoted_names_field_fragments field
  | .oneOf field [] kind => rfl
  | .oneOf field (value :: rest) kind =>
      rw [conditionFragments, quoted_names_append, quoted_names_field_fragments,
        ← Function.comp_def Fragment.parameter, ← List.map_map, quoted_names_values,
        List.append_nil, conditionNames]
  | .any alternatives => exact quoted_names_conditions_fragments alternatives
  | .all conditions => exact quoted_names_conditions_fragments conditions
termination_by structural predicate

theorem quoted_names_conditions_fragments (predicates : List Predicate) :
    quotedNames (conditionFragmentsOf predicates) = conditionNamesOf predicates := by
  match predicates with
  | [] => rfl
  | predicate :: rest =>
      rw [conditionFragmentsOf, quoted_names_append, quoted_names_condition_fragments predicate,
        quoted_names_conditions_fragments rest, conditionNamesOf]
termination_by structural predicates

end

section QuotedNames

variable {types : ColumnTypes}

theorem quoted_names_select (table : String) (query : SelectQuery) :
    quotedNames (select types table query) = selectNames table query := by
  rw [quoted_names_filled, filled_select]
  simp [selectNames, quoted_names_conditions_fragments]

theorem quoted_names_count (table : String) (query : SelectQuery) :
    quotedNames (count types table query) = countNames table query := by
  rw [quoted_names_filled, filled_count]
  simp [countNames, quoted_names_conditions_fragments]

theorem quoted_names_insert (table : String) (attributes : JsonFields) :
    quotedNames (insert types table attributes) =
      tableNames table ++ attributeNames attributes := by
  have hnames : quotedNames (attributes.map fun field => .name field.1) =
      attributeNames attributes := quoted_names_map (fun _ => rfl) _
  rw [quoted_names_filled, filled_insert]
  simp [hnames, valueFragments]

theorem quoted_names_update (table primaryKey : String) (key : Json) (attributes : JsonFields) :
    quotedNames (update types table primaryKey key attributes) =
      tableNames table ++ (attributeNames (changesOf primaryKey attributes) ++
        [('"', primaryKey)]) := by
  have hnames : (changesOf primaryKey attributes).flatMap (fun field => [('"', field.1)]) =
      attributeNames (changesOf primaryKey attributes) := List.flatMap_pure_eq_map ..
  rw [quoted_names_filled, filled_update]
  simp [hnames, valueFragments]

theorem quoted_names_delete (table primaryKey : String) (key : Json) :
    quotedNames (delete types table primaryKey key) = tableNames table ++ [('"', primaryKey)] := by
  rw [quoted_names_filled, filled_delete]
  simp

end QuotedNames

/-! ## Quoted tokens of a text -/

/-- What a quoted token says. -/
def Token.quoted? : Token → Option QuotedName
  | .quoted mark content => some (mark, String.ofList content)
  | _ => none

/-- The text is cut into tokens that spell it, and the quoted ones are the names, in order. -/
def Quotes (prepared : Prepared) (names : List QuotedName) : Prop :=
  ∃ tokens, tokens? prepared.sql.toList = some tokens ∧
    tokens.flatMap Token.chars = prepared.sql.toList ∧
    tokens.filterMap Token.quoted? = names

/-- The text has balanced quotes, because it has none. -/
def HasNoQuotes (written : String) : Prop :=
  (tokens? written.toList).map (List.filterMap Token.quoted?) = some []

instance (written : String) : Decidable (HasNoQuotes written) :=
  inferInstanceAs (Decidable (_ = _))

theorem HasNoQuotes.readable {written : String} (h : HasNoQuotes written) :
    (tokens? written.toList).isSome = true := by
  obtain ⟨tokens, htokens, -⟩ := Option.map_eq_some_iff.mp h
  rw [htokens]
  rfl

theorem allows_no_quotes : Allows [] HasNoQuotes := by
  refine ⟨by decide +kernel, nofun, ?_⟩
  intro number
  rw [HasNoQuotes, String.toList_ofList, tokens_of_number]
  rfl

theorem quoted_tokens_from {statement : Statement} (h : ∀ written, .text written ∈ statement →
    HasNoQuotes written) (number : Nat) :
    (tokensFrom number statement).filterMap Token.quoted? = quotedNames statement := by
  induction statement generalizing number with
  | nil => rfl
  | cons fragment rest ih =>
      have hrest (next : Nat) := ih (fun written hwritten =>
        h written (List.mem_cons_of_mem _ hwritten)) next
      show (fragment.tokens number ++ tokensFrom (fragment.next number) rest).filterMap _ = _
      rw [List.filterMap_append, hrest]
      cases fragment with
      | text written =>
          obtain ⟨tokens, htokens, hnone⟩ := Option.map_eq_some_iff.mp
            (h written List.mem_cons_self)
          simp only [Fragment.tokens, textTokens, htokens, Option.getD_some, hnone]
          rfl
      | name column =>
          rw [quoted_names_name]
          exact congrArg (fun name => ('"', name) :: quotedNames rest) String.ofList_toList
      | key segment =>
          rw [quoted_names_key]
          exact congrArg (fun name => ('\'', name) :: quotedNames rest) String.ofList_toList
      | parameter value => rfl

theorem quotes_of_spelled {statement : Statement} (h : Spelled HasNoQuotes statement) :
    Quotes statement.prepared (quotedNames statement) := by
  have htokens := Statement.tokens_sql h fun _ => HasNoQuotes.readable
  exact ⟨_, htokens, chars_of_tokens htokens, quoted_tokens_from h.texts 1⟩

/-! ## Texts without names -/

/-- The characters of a token, of a quoted one only its marks. -/
def Token.blanked : Token → List Char
  | .quoted mark _ => [mark, mark]
  | .word chars => chars
  | .symbol char => [char]

/-- The text with empty quotes; none when a mark is left open. -/
def blankedText (prepared : Prepared) : Option (List Char) :=
  (tokens? prepared.sql.toList).map (List.flatMap Token.blanked)

/-- Both texts can be cut into tokens, and are the same without their names. -/
def SameBlanked (first second : Prepared) : Prop :=
  ∃ rest, blankedText first = some rest ∧ blankedText second = some rest

/-- Names of any characters. -/
abbrev AnyNames (_ _ : String) : Prop := True

theorem blanked_tokens_from {first second : Statement} (h : Statement.Alike AnyNames first second)
    (number : Nat) :
    (tokensFrom number first).flatMap Token.blanked =
      (tokensFrom number second).flatMap Token.blanked := by
  induction h generalizing number with
  | nil => rfl
  | @cons fragment other rest others hfragment _ ih =>
      show (fragment.tokens number ++ tokensFrom (fragment.next number) rest).flatMap _ =
        (other.tokens number ++ tokensFrom (other.next number) others).flatMap _
      rw [List.flatMap_append, List.flatMap_append, ih]
      cases hfragment <;> rfl

/-- Statements that are alike up to their names and values have the same text outside of quotes. -/
theorem same_blanked {first second : Statement} (hfirst : Spelled HasNoQuotes first)
    (hsecond : Spelled HasNoQuotes second) (h : Statement.Alike AnyNames first second) :
    SameBlanked first.prepared second.prepared := by
  refine ⟨(tokensFrom 1 first).flatMap Token.blanked, ?_, ?_⟩
  · rw [blankedText, prepared_sql, Statement.tokens_sql hfirst fun _ => HasNoQuotes.readable,
      Option.map_some]
  · rw [blankedText, prepared_sql, Statement.tokens_sql hsecond fun _ => HasNoQuotes.readable,
      Option.map_some, blanked_tokens_from h]

/-- Two paths with as many parts. -/
def SameParts (first second : String) : Prop :=
  (segments first).length = (segments second).length

instance (first second : String) : Decidable (SameParts first second) :=
  inferInstanceAs (Decidable (_ = _))

theorem any_names_of_length {first second : List String} (h : first.length = second.length) :
    List.Forall₂ AnyNames first second := by
  induction first generalizing second with
  | nil =>
      obtain rfl := List.length_eq_zero_iff.mp h.symm
      exact .nil
  | cons name rest ih =>
      cases second with
      | nil => cases h
      | cons other others => exact .cons trivial (ih (Nat.succ.inj h))

theorem SameParts.dotted {first second : String} (h : SameParts first second) :
    isDotted first = isDotted second := by
  rw [SameParts, segments_eq_split_field, segments_eq_split_field, List.length_cons,
    List.length_cons, Nat.add_right_cancel_iff] at h
  rw [is_dotted_eq, is_dotted_eq, RendersAlike.is_empty_eq (any_names_of_length h)]

/-- Without types of columns, fields of as many parts are rendered alike. -/
theorem renders_any_names : RendersAlike [] SameParts AnyNames := by
  constructor
  · exact fun _ => trivial
  · exact any_names_of_length
  · intro first second value other kind hparts
    unfold placeholder
    dsimp only
    rw [hparts.dotted]
    split
    · exact .parameter _ _ (.text _ .nil)
    · split
      · cases kind.cast? with
        | none => exact .parameter _ _ .nil
        | some cast => exact .parameter _ _ (.text _ (.text _ .nil))
      · exact .parameter _ _ .nil
  · -- An attribute has the kind of a text, which is never cast, dots in its name or not.
    intro first second value other _
    have hplain (field : String) (value : Json) :
        placeholder [] field value .text = [.parameter (.ofKind .text value)] := by
      unfold placeholder
      rw [if_neg (by decide)]
      split <;> rfl
    rw [hplain, hplain]
    exact .parameter _ _ .nil

/-! ## All statements -/

/-- Whatever the names are made of, the quoted tokens of a text are the names that the statement
writes, and two statements of the same form, with any names and values, have the same text outside
of their quotes. The form of a write says which attributes are null, and that of an update leaves
out the key. -/
theorem names_stay_quoted :
    (∀ table query, Quotes (Prepared.select [] table query) (selectNames table query) ∧
      Quotes (Prepared.count [] table query) (countNames table query)) ∧
    (∀ table attributes, Quotes (Prepared.insert [] table attributes)
      (tableNames table ++ attributeNames attributes)) ∧
    (∀ table primaryKey key attributes, Quotes (Prepared.update [] table primaryKey key attributes)
      (tableNames table ++ (attributeNames (changesOf primaryKey attributes) ++
        [('"', primaryKey)]))) ∧
    (∀ table primaryKey key, Quotes (Prepared.delete [] table primaryKey key)
      (tableNames table ++ [('"', primaryKey)])) ∧
    ∀ table other, SameParts table other →
      (∀ first second : SelectQuery, first.Alike SameParts second →
        SameBlanked (Prepared.select [] table first) (Prepared.select [] other second) ∧
        SameBlanked (Prepared.count [] table first) (Prepared.count [] other second)) ∧
      (∀ first second : JsonFields, AttributesAlike AnyNames first second →
        SameBlanked (Prepared.insert [] table first) (Prepared.insert [] other second)) ∧
      (∀ primaryKey otherKey key changed first second,
        AttributesAlike AnyNames (changesOf primaryKey first) (changesOf otherKey second) →
        SameBlanked (Prepared.update [] table primaryKey key first)
          (Prepared.update [] other otherKey changed second)) ∧
      ∀ primaryKey otherKey key changed,
        SameBlanked (Prepared.delete [] table primaryKey key)
          (Prepared.delete [] other otherKey changed) := by
  have h := allows_no_quotes
  simp only [select_eq_prepared, count_eq_prepared, insert_eq_prepared, update_eq_prepared,
    delete_eq_prepared]
  refine ⟨?_, ?_, ?_, ?_, ?_⟩
  · intro table query
    have hselect := quotes_of_spelled (h.select_spelled table query)
    have hcount := quotes_of_spelled (h.count_spelled table query)
    rw [quoted_names_select] at hselect
    rw [quoted_names_count] at hcount
    exact ⟨hselect, hcount⟩
  · intro table attributes
    have hinsert := quotes_of_spelled (h.insert_spelled table attributes)
    rwa [quoted_names_insert] at hinsert
  · intro table primaryKey key attributes
    have hupdate := quotes_of_spelled (h.update_spelled table primaryKey key attributes)
    rwa [quoted_names_update] at hupdate
  · intro table primaryKey key
    have hdelete := quotes_of_spelled (h.delete_spelled table primaryKey key)
    rwa [quoted_names_delete] at hdelete
  · intro table other htable
    have halike := renders_any_names
    refine ⟨?_, ?_, ?_, ?_⟩
    · intro first second hquery
      exact ⟨same_blanked (h.select_spelled table first) (h.select_spelled other second)
          (halike.select htable hquery),
        same_blanked (h.count_spelled table first) (h.count_spelled other second)
          (halike.count trivial htable hquery)⟩
    · intro first second hattributes
      exact same_blanked (h.insert_spelled table first) (h.insert_spelled other second)
        (halike.insert htable hattributes)
    · intro primaryKey otherKey key changed first second hchanges
      exact same_blanked (h.update_spelled table primaryKey key first)
        (h.update_spelled other otherKey changed second)
        (halike.update htable trivial hchanges key changed)
    · intro primaryKey otherKey key changed
      exact same_blanked (h.delete_spelled table primaryKey key)
        (h.delete_spelled other otherKey changed) (halike.delete htable trivial key changed)

/-- Two searches, one with names that try to leave their quotes, and two notes of the same form. -/
theorem names_stay_quoted_of_search :
    let search (column path field : String) : SelectQuery :=
      { columns := [column, path], orders := [⟨path, .descending⟩], limit := some 5
        predicates := [.any [.compare field .gt (.number (.int 1)) .integer,
          .isNull column true]] }
    let plain := search "title" "meta.lang" "meta.rank"
    let hostile := search "\"; DROP TABLE posts --" "a'b.$1\"\"" "x'.' OR 1 = 1"
    let note : JsonFields := [("text", .string "seen"), ("done", .null)]
    let hostileNote : JsonFields := [("te\"xt", .bool true), ("'", .null)]
    SameParts "posts" "po\"sts" ∧ plain.Alike SameParts hostile ∧
    SameBlanked (Prepared.select [] "posts" plain) (Prepared.select [] "po\"sts" hostile) ∧
    AttributesAlike AnyNames note hostileNote ∧
    SameBlanked (Prepared.insert [] "posts" note) (Prepared.insert [] "po\"sts" hostileNote) ∧
    Quotes (Prepared.delete [] "po\"sts" "i'd" .null) [('"', "po\"sts"), ('"', "i'd")] := by
  intro search plain hostile note hostileNote
  have htable : SameParts "posts" "po\"sts" := by decide +kernel
  have hcolumn : SameParts "title" "\"; DROP TABLE posts --" := by decide +kernel
  have hpath : SameParts "meta.lang" "a'b.$1\"\"" := by decide +kernel
  have hfield : SameParts "meta.rank" "x'.' OR 1 = 1" := by decide +kernel
  have hqueries : plain.Alike SameParts hostile :=
    ⟨.cons hcolumn (.cons hpath .nil),
      .cons (.any (.cons (.compare _ _ hfield) (.cons (.isNull _ hcolumn) .nil))) .nil,
      .cons ⟨hpath, rfl⟩ .nil, rfl, rfl⟩
  have hnotes : AttributesAlike AnyNames note hostileNote :=
    .cons ⟨trivial, rfl⟩ (.cons ⟨trivial, rfl⟩ .nil)
  obtain ⟨-, -, -, hdelete, hforms⟩ := names_stay_quoted
  obtain ⟨hselect, hinsert, -, -⟩ := hforms "posts" "po\"sts" htable
  exact ⟨htable, hqueries, (hselect plain hostile hqueries).1, hnotes,
    hinsert note hostileNote hnotes, hdelete "po\"sts" "i'd" .null⟩

/-- Rows with as many columns need not have the same text outside of quotes, as null is written,
and neither the field of a comparison with an empty list nor a key among the attributes of an
update is written at all. -/
theorem unwritten_names_and_nulls :
    (¬ ∀ first second : JsonFields, first.length = second.length →
      SameBlanked (Prepared.insert [] "posts" first) (Prepared.insert [] "posts" second)) ∧
    (¬ ∀ field values,
      Quotes (Prepared.select [] "posts" { predicates := [.oneOf field values .text] })
        (tableNames "posts" ++ fieldNames field)) ∧
    ¬ ∀ primaryKey key attributes, Quotes (Prepared.update [] "posts" primaryKey key attributes)
      (tableNames "posts" ++ (attributeNames attributes ++ [('"', primaryKey)])) := by
  refine ⟨?_, ?_, ?_⟩
  · intro h
    obtain ⟨rest, hnull, htrue⟩ := h [("title", .null)] [("title", .bool true)] rfl
    have hdiffers : blankedText (Prepared.insert [] "posts" [("title", .null)]) ≠
        blankedText (Prepared.insert [] "posts" [("title", .bool true)]) := by decide +kernel
    exact hdiffers (hnull.trans htrue.symm)
  · intro h
    obtain ⟨tokens, htokens, -, hnames⟩ := h "status" []
    have hdiffers : (tokens? (Prepared.select [] "posts"
          { predicates := [.oneOf "status" [] .text] }).sql.toList).map
        (List.filterMap Token.quoted?) ≠ some (tableNames "posts" ++ fieldNames "status") := by
      decide +kernel
    rw [htokens, Option.map_some, hnames] at hdiffers
    exact hdiffers rfl
  · intro h
    obtain ⟨tokens, htokens, -, hnames⟩ := h "id" (.bool true) [("id", .bool true)]
    have hdiffers : (tokens? (Prepared.update [] "posts" "id" (.bool true)
          [("id", .bool true)]).sql.toList).map (List.filterMap Token.quoted?) ≠
        some (tableNames "posts" ++ (attributeNames [("id", .bool true)] ++ [('"', "id")])) := by
      decide +kernel
    rw [htokens, Option.map_some, hnames] at hdiffers
    exact hdiffers rfl

end Sql

end EntityGate
