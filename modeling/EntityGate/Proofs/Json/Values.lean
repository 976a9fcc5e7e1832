import EntityGate.Proofs.Json.Tokens

/-!
# Reading written values

A value reads back when the reader takes exactly its compact form for it. Scalars do, as long as
their numbers do, and arrays and objects do when their parts do: see `reads_back_array` and
`reads_back_object`.
-/

namespace EntityGate

namespace Json

/-- With enough fuel and levels the reader takes the compact form of the value for the value, and
leaves what follows. The form starts with neither white space nor a closing bracket. -/
structure ReadsBack (levels : Nat) (value : Json) : Prop where
  head : ∃ char others, compactChars value = char :: others ∧ isSpace char = false ∧ char ≠ ']'
  read : ∀ fuel allowed rest, levels ≤ allowed → (compactChars value).length < fuel → Stops rest →
    readValue fuel allowed (compactChars value ++ rest) = some (value, rest)

theorem ReadsBack.mono {levels more : Nat} {value : Json} (h : ReadsBack levels value)
    (hle : levels ≤ more) : ReadsBack more value :=
  ⟨h.head, fun fuel allowed rest hallowed => h.read fuel allowed rest (Nat.le_trans hle hallowed)⟩

theorem skip_spaces_of_not_space {char : Char} (h : isSpace char = false) (rest : List Char) :
    skipSpaces (char :: rest) = char :: rest := by
  simp [skipSpaces, h]

/-! ## Scalars -/

theorem reads_back_null : ReadsBack 0 .null := by
  refine ⟨⟨'n', _, rfl, by decide, by decide⟩, ?_⟩
  intro fuel allowed rest _ hfuel _
  obtain ⟨fuel, rfl⟩ := Nat.exists_eq_add_one.mpr (Nat.zero_lt_of_lt hfuel)
  rfl

theorem reads_back_bool (value : Bool) : ReadsBack 0 (.bool value) := by
  refine ⟨?_, ?_⟩
  · cases value
    · exact ⟨'f', _, rfl, by decide, by decide⟩
    · exact ⟨'t', _, rfl, by decide, by decide⟩
  intro fuel allowed rest _ hfuel _
  obtain ⟨fuel, rfl⟩ := Nat.exists_eq_add_one.mpr (Nat.zero_lt_of_lt hfuel)
  cases value <;> rfl

theorem read_quoted (text : String) (rest : List Char) :
    ∃ quoted, quoteChars text.toList ++ rest = '"' :: quoted ∧
      readString (quoted.length + 1) [] quoted = some (text, rest) := by
  refine ⟨text.toList.flatMap escapeChar ++ '"' :: rest, by simp [quoteChars], ?_⟩
  have hfuel : text.toList.length <
      (text.toList.flatMap escapeChar ++ '"' :: rest).length + 1 := by
    have hlength := length_le_escaped text.toList
    simp only [List.length_append]
    omega
  rw [read_string_quoted _ _ _ hfuel, List.reverse_nil, List.nil_append, String.ofList_toList]

theorem reads_back_string (text : String) : ReadsBack 0 (.string text) := by
  refine ⟨⟨'"', _, rfl, by decide, by decide⟩, ?_⟩
  intro fuel allowed rest _ hfuel _
  obtain ⟨fuel, rfl⟩ := Nat.exists_eq_add_one.mpr (Nat.zero_lt_of_lt hfuel)
  obtain ⟨quoted, hquoted, hread⟩ := read_quoted text rest
  rw [compactChars, hquoted, readValue, skip_spaces_of_not_space (by decide)]
  simp only [hread, Option.map_some]

/-- What starts a number starts nothing else. -/
theorem number_start {char : Char} (h : char = '-' ∨ char.isDigit = true) {other : Char}
    (hminus : other ≠ '-') (hdigit : other.isDigit = false) : char ≠ other := by
  rintro rfl
  rcases h with rfl | hchar
  · exact hminus rfl
  · simp [hdigit] at hchar

theorem number_start_not_space {char : Char} (h : char = '-' ∨ char.isDigit = true) :
    isSpace char = false := by
  unfold isSpace
  simp only [Bool.or_eq_false_iff, beq_eq_false_iff_ne]
  exact ⟨⟨⟨number_start h (by decide) (by decide), number_start h (by decide) (by decide)⟩,
    number_start h (by decide) (by decide)⟩, number_start h (by decide) (by decide)⟩

theorem reads_back_number {number : JsonNumber} (h : number.ReadsBack) :
    ReadsBack 0 (.number number) := by
  refine ⟨?_, ?_⟩
  · obtain ⟨char, others, hchars, hchar⟩ := read_number_head h
    exact ⟨char, others, by rw [compactChars, hchars], number_start_not_space hchar,
      number_start hchar (by decide) (by decide)⟩
  intro fuel allowed rest _ hfuel hrest
  obtain ⟨fuel, rfl⟩ := Nat.exists_eq_add_one.mpr (Nat.zero_lt_of_lt hfuel)
  have hread := read_number_append hrest h
  obtain ⟨char, others, hchars, hchar⟩ := read_number_head hread
  have hother {letter : Char} {left : List Char} (hminus : letter ≠ '-')
      (hdigit : letter.isDigit = false) : char :: others ≠ letter :: left :=
    fun heq => number_start hchar hminus hdigit (List.cons.inj heq).1
  rw [hchars] at hread
  rw [compactChars, readValue, hchars, skip_spaces_of_not_space (number_start_not_space hchar)]
  split
  · rename_i heq
    exact False.elim (hother (by decide) (by decide) heq)
  · rename_i heq
    exact False.elim (hother (by decide) (by decide) heq)
  · rename_i heq
    exact False.elim (hother (by decide) (by decide) heq)
  · rename_i heq
    exact False.elim (hother (by decide) (by decide) heq)
  · rename_i heq
    exact False.elim (hother (by decide) (by decide) heq)
  · rename_i heq
    exact False.elim (hother (by decide) (by decide) heq)
  · rw [hread]
    rfl

/-! ## Arrays and objects -/

/-- What follows an item of an array closes it or goes on after a comma. -/
theorem stops_items (items : List Json) (rest : List Char) :
    Stops (compactItems items ++ rest) := by
  cases items with
  | nil => exact stops_of_closing (.inr (.inl rfl)) _
  | cons item others => exact stops_of_closing (.inl rfl) _

theorem read_items {levels allowed : Nat} (hlevels : levels ≤ allowed) {items : List Json}
    {item : Json} (hitem : ReadsBack levels item) (hitems : ∀ other ∈ items, ReadsBack levels other)
    (collected : List Json) (rest : List Char) {fuel : Nat}
    (hfuel : (compactChars item ++ compactItems items).length < fuel) :
    readItems fuel allowed collected (compactChars item ++ (compactItems items ++ rest)) =
      some (.array (collected.reverse ++ item :: items), rest) := by
  -- The reader stands before an item, with the ones read so far collected in reverse.
  induction items generalizing item collected fuel with
  | nil =>
      obtain ⟨fuel, rfl⟩ := Nat.exists_eq_add_one.mpr (Nat.zero_lt_of_lt hfuel)
      have hshort : (compactChars item).length < fuel := by
        simp only [compactItems, List.length_append, List.length_singleton] at hfuel
        omega
      rw [readItems, hitem.read fuel allowed _ hlevels hshort (stops_items [] rest)]
      simp [compactItems, skip_spaces_of_not_space (show isSpace ']' = false by decide)]
  | cons next others ih =>
      obtain ⟨fuel, rfl⟩ := Nat.exists_eq_add_one.mpr (Nat.zero_lt_of_lt hfuel)
      simp only [compactItems, List.length_append, List.length_cons] at hfuel
      have hrest := ih (hitems next List.mem_cons_self)
        (fun other hother => hitems other (List.mem_cons_of_mem _ hother)) (item :: collected)
        (show (compactChars next ++ compactItems others).length < fuel by
          simp only [List.length_append]
          omega)
      rw [readItems, hitem.read fuel allowed _ hlevels (by omega)
        (stops_items (next :: others) rest)]
      simp only [compactItems, List.cons_append, Option.bind_eq_bind, Option.bind_some,
        skip_spaces_of_not_space (show isSpace ',' = false by decide), List.append_assoc]
      rw [hrest]
      simp

/-- An array reads back when its items do. -/
theorem reads_back_array {levels : Nat} {items : List Json}
    (h : ∀ item ∈ items, ReadsBack levels item) : ReadsBack (levels + 1) (.array items) := by
  refine ⟨?_, ?_⟩
  · cases items <;> exact ⟨'[', _, rfl, by decide, by decide⟩
  intro fuel allowed rest hlevels hfuel _
  obtain ⟨fuel, rfl⟩ := Nat.exists_eq_add_one.mpr (Nat.zero_lt_of_lt hfuel)
  obtain ⟨allowed, rfl⟩ := Nat.exists_eq_add_one.mpr (Nat.zero_lt_of_lt hlevels)
  cases items with
  | nil => rfl
  | cons item others =>
      have hitem := h item List.mem_cons_self
      obtain ⟨char, left, hchars, hspace, hclosing⟩ := hitem.head
      have hread := read_items (Nat.le_of_succ_le_succ hlevels) hitem
        (fun other hother => h other (List.mem_cons_of_mem _ hother)) [] rest
        (show (compactChars item ++ compactItems others).length < fuel by
          simpa [compactChars] using hfuel)
      rw [compactChars, List.cons_append, List.append_assoc, readValue,
        skip_spaces_of_not_space (by decide)]
      simp only
      rw [hchars, List.cons_append] at hread ⊢
      rw [skip_spaces_of_not_space hspace]
      split
      · rename_i heq
        exact False.elim (hclosing (List.cons.inj heq).1)
      · exact hread

/-- What follows a field of an object closes it or goes on after a comma. -/
theorem stops_fields (fields : JsonFields) (rest : List Char) :
    Stops (compactFields fields ++ rest) := by
  cases fields with
  | nil => exact stops_of_closing (.inr (.inr rfl)) _
  | cons field others => exact stops_of_closing (.inl rfl) _

/-- The written form of the first field of an object. -/
def fieldChars (field : String × Json) : List Char :=
  quoteChars field.1.toList ++ ':' :: compactChars field.2

/-- One field is read up to what follows it. -/
theorem read_field {levels allowed : Nat} (hlevels : levels ≤ allowed) {field : String × Json}
    (hfield : ReadsBack levels field.2) (collected : JsonFields) {rest : List Char}
    (hrest : Stops rest) {fuel : Nat} (hfuel : (compactChars field.2).length < fuel) :
    readFields (fuel + 1) allowed collected (fieldChars field ++ rest) =
      match skipSpaces rest with
      | ',' :: after => readFields fuel allowed (field :: collected) after
      | '\x7d' :: after => some (.object (field :: collected).reverse, after)
      | _ => none := by
  obtain ⟨key, value⟩ := field
  obtain ⟨quoted, hquoted, hkey⟩ := read_quoted key (':' :: (compactChars value ++ rest))
  have hvalue := hfield.read fuel allowed rest hlevels hfuel hrest
  simp only [fieldChars, List.append_assoc, List.cons_append]
  rw [hquoted, readFields, skip_spaces_of_not_space (by decide)]
  simp only [hkey, Option.bind_eq_bind, Option.bind_some,
    skip_spaces_of_not_space (show isSpace ':' = false by decide)]
  rw [hvalue]
  rfl

theorem read_fields {levels allowed : Nat} (hlevels : levels ≤ allowed) {fields : JsonFields}
    {field : String × Json} (hfield : ReadsBack levels field.2)
    (hfields : ∀ other ∈ fields, ReadsBack levels other.2) (collected : JsonFields)
    (rest : List Char) {fuel : Nat}
    (hfuel : (fieldChars field ++ compactFields fields).length < fuel) :
    readFields fuel allowed collected (fieldChars field ++ (compactFields fields ++ rest)) =
      some (.object (collected.reverse ++ field :: fields), rest) := by
  -- The reader stands before a field, with the ones read so far collected in reverse.
  induction fields generalizing field collected fuel with
  | nil =>
      obtain ⟨fuel, rfl⟩ := Nat.exists_eq_add_one.mpr (Nat.zero_lt_of_lt hfuel)
      have hshort : (compactChars field.2).length < fuel := by
        simp only [fieldChars, List.length_append, List.length_cons] at hfuel
        omega
      rw [read_field hlevels hfield collected (stops_fields [] rest) hshort]
      simp [compactFields, skip_spaces_of_not_space (show isSpace '\x7d' = false by decide)]
  | cons next others ih =>
      obtain ⟨fuel, rfl⟩ := Nat.exists_eq_add_one.mpr (Nat.zero_lt_of_lt hfuel)
      have hnext : compactFields (next :: others) =
          ',' :: (fieldChars next ++ compactFields others) := by
        simp [compactFields, fieldChars]
      rw [hnext] at hfuel
      have hshort : (compactChars field.2).length < fuel := by
        simp only [fieldChars, List.length_append, List.length_cons] at hfuel
        omega
      have hrest := ih (hfields next List.mem_cons_self)
        (fun other hother => hfields other (List.mem_cons_of_mem _ hother)) (field :: collected)
        (show (fieldChars next ++ compactFields others).length < fuel by
          simp only [List.length_append, List.length_cons] at hfuel ⊢
          omega)
      rw [read_field hlevels hfield collected (stops_fields (next :: others) rest) hshort, hnext,
        List.cons_append, skip_spaces_of_not_space (by decide), List.append_assoc]
      simp only
      rw [hrest]
      simp

/-- An object reads back when its values do. -/
theorem reads_back_object {levels : Nat} {fields : JsonFields}
    (h : ∀ field ∈ fields, ReadsBack levels field.2) :
    ReadsBack (levels + 1) (.object fields) := by
  refine ⟨?_, ?_⟩
  · cases fields <;> exact ⟨'\x7b', _, rfl, by decide, by decide⟩
  intro fuel allowed rest hlevels hfuel _
  obtain ⟨fuel, rfl⟩ := Nat.exists_eq_add_one.mpr (Nat.zero_lt_of_lt hfuel)
  obtain ⟨allowed, rfl⟩ := Nat.exists_eq_add_one.mpr (Nat.zero_lt_of_lt hlevels)
  cases fields with
  | nil => rfl
  | cons field others =>
      have hchars : compactChars (.object (field :: others)) =
          '\x7b' :: (fieldChars field ++ compactFields others) := by
        simp [compactChars, fieldChars]
      rw [hchars, List.length_cons] at hfuel
      have hread := read_fields (Nat.le_of_succ_le_succ hlevels) (h field List.mem_cons_self)
        (fun other hother => h other (List.mem_cons_of_mem _ hother)) [] rest
        (Nat.lt_of_succ_lt_succ hfuel)
      have hquote : ∃ left, fieldChars field ++ (compactFields others ++ rest) = '"' :: left :=
        ⟨_, rfl⟩
      obtain ⟨left, hleft⟩ := hquote
      rw [hchars, List.cons_append, List.append_assoc, readValue,
        skip_spaces_of_not_space (by decide)]
      simp only
      rw [hleft] at hread ⊢
      rw [skip_spaces_of_not_space (by decide)]
      exact hread

/-! ## Whole texts -/

/-- The compact form of a value that is not nested too deeply is read as that value. -/
theorem read_written {levels : Nat} {value : Json} (h : ReadsBack levels value)
    (hlevels : levels ≤ maxNesting) : readWritten? value.compact = some value := by
  have hchars : value.compact.toList = value.compactChars := String.toList_ofList
  have hread := h.read (2 * value.compactChars.length + 2) maxNesting [] hlevels (by omega)
    stops_nil
  rw [List.append_nil] at hread
  show (readValue (2 * value.compact.toList.length + 2) maxNesting value.compact.toList >>=
    fun found => if (skipSpaces found.2).isEmpty then some found.1 else none) = some value
  rw [hchars, hread]
  rfl

end Json

end EntityGate
