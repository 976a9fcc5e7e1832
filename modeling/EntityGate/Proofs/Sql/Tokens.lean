import EntityGate.Sql.Prepared

/-!
# Tokens of a statement's text

The text of a statement as the database cuts it: a double quote opens an identifier and a single
quote a literal, each closed by the next mark of its kind that is not doubled; what stands outside
of quotes is words and single characters. `tokens_append` reads two texts one after the other, as
long as nothing runs over their border.
-/

namespace EntityGate.Sql

/-- A token of a text: what stands between two marks, with doubled marks undone, a word, or any
other character. -/
inductive Token where
  | quoted (mark : Char) (content : List Char)
  | word (chars : List Char)
  | symbol (char : Char)
  deriving DecidableEq, Repr

/-- Whether the character opens and closes a quoted token. -/
def isMark (char : Char) : Bool := char == '"' || char == '\''

/-- Whether the character belongs to a word: a letter, a digit, an underscore or a dollar sign. -/
def isWordChar (char : Char) : Bool :=
  char.isAlphanum || char == '_' || char == '$' || decide (127 < char.toNat)

/-- The tokens with a character before them that is no mark; it joins a word. -/
def pushChar (char : Char) : List Token → List Token
  | .word chars :: rest =>
    if isWordChar char then .word (char :: chars) :: rest else .symbol char :: .word chars :: rest
  | tokens => if isWordChar char then .word [char] :: tokens else .symbol char :: tokens

mutual

/-- The tokens of a text; none when a mark is left open. -/
def tokens? : List Char → Option (List Token)
  | [] => some []
  | char :: rest =>
    if isMark char then
      (content? char rest).map fun found => .quoted char found.1 :: found.2
    else (tokens? rest).map (pushChar char)
termination_by structural chars => chars

/-- What stands before the closing mark, a doubled mark counted once, and the tokens behind it. -/
def content? (mark : Char) : List Char → Option (List Char × List Token)
  | [] => none
  | char :: rest =>
    if char = mark then
      match rest with
      | [] => some ([], [])
      | next :: behind =>
        if next = mark then (content? mark behind).map fun found => (mark :: found.1, found.2)
        else (tokens? (next :: behind)).map fun tokens => ([], tokens)
    else (content? mark rest).map fun found => (char :: found.1, found.2)
termination_by structural chars => chars

end

/-- The characters of a token, quotes included. -/
def Token.chars : Token → List Char
  | .quoted mark content => quotedChars mark content
  | .word chars => chars
  | .symbol char => [char]

/-- The tokens without blanks. -/
def significant (tokens : List Token) : List Token :=
  tokens.filter fun token => token != .symbol ' '

@[simp] theorem significant_append (first second : List Token) :
    significant (first ++ second) = significant first ++ significant second :=
  List.filter_append ..

@[simp] theorem significant_word (chars : List Char) (tokens : List Token) :
    significant (.word chars :: tokens) = .word chars :: significant tokens := rfl

@[simp] theorem significant_quoted (mark : Char) (content : List Char) (tokens : List Token) :
    significant (.quoted mark content :: tokens) = .quoted mark content :: significant tokens := rfl

variable {chars first second : List Char} {tokens found : List Token}

/-! ## Words -/

theorem word_char_not_mark {char : Char} (h : isWordChar char = true) : isMark char = false := by
  by_cases hdouble : char = '"'
  · subst hdouble
    exact absurd h (by decide)
  · by_cases hsingle : char = '\''
    · subst hsingle
      exact absurd h (by decide)
    · simp [isMark, hdouble, hsingle]

/-- A first token that is a word starts with the first character of the text. -/
theorem head_of_tokens_word {word : List Char} {rest : List Token}
    (h : tokens? chars = some (.word word :: rest)) :
    ∃ char, chars.head? = some char ∧ isWordChar char = true := by
  cases chars with
  | nil => simp [tokens?] at h
  | cons char others =>
      refine ⟨char, rfl, ?_⟩
      rw [tokens?] at h
      split at h
      · obtain ⟨found, -, hfound⟩ := Option.map_eq_some_iff.mp h
        cases hfound
      · obtain ⟨found, -, hfound⟩ := Option.map_eq_some_iff.mp h
        cases hword : isWordChar char with
        | true => rfl
        | false =>
            unfold pushChar at hfound
            split at hfound <;> simp [hword] at hfound

theorem push_char_ne_nil (char : Char) (tokens : List Token) : pushChar char tokens ≠ [] := by
  unfold pushChar
  split <;> split <;> simp

theorem tokens_eq_nil (h : tokens? chars = some []) : chars = [] := by
  cases chars with
  | nil => rfl
  | cons char others =>
      rw [tokens?] at h
      split at h
      · obtain ⟨found, -, hfound⟩ := Option.map_eq_some_iff.mp h
        cases hfound
      · obtain ⟨found, -, hfound⟩ := Option.map_eq_some_iff.mp h
        exact absurd hfound (push_char_ne_nil char found)

theorem push_char_append {char : Char} (h : tokens ≠ []) (found : List Token) :
    pushChar char (tokens ++ found) = pushChar char tokens ++ found := by
  cases tokens with
  | nil => exact absurd rfl h
  | cons token rest =>
      cases token <;> simp only [pushChar, List.cons_append] <;> split <;> rfl

/-- A run of word characters is one word. -/
theorem tokens_word {word : List Char} (hne : word ≠ [])
    (h : ∀ char ∈ word, isWordChar char = true) : tokens? word = some [.word word] := by
  induction word with
  | nil => exact absurd rfl hne
  | cons char rest ih =>
      have hchar := h char List.mem_cons_self
      rw [tokens?, word_char_not_mark hchar]
      cases rest with
      | nil => simp [tokens?, pushChar, hchar]
      | cons next others =>
          rw [ih (by simp) fun other hother => h other (List.mem_cons_of_mem _ hother)]
          simp [pushChar, hchar]

/-! ## Texts one after the other -/

/-- Whether two characters next to each other belong together: to one word, or as a doubled
mark. -/
def Joins (last next : Char) : Prop :=
  (isWordChar last = true ∧ isWordChar next = true) ∨ (next = last ∧ isMark last = true)

/-- Nothing runs over the border of two texts. -/
def Parted (first second : List Char) : Prop :=
  ∀ last ∈ first.getLast?, ∀ next ∈ second.head?, ¬ Joins last next

theorem Parted.tail {char : Char} (h : Parted (char :: first) second) : Parted first second := by
  intro last hlast next hnext
  refine h last ?_ next hnext
  cases first with
  | nil => cases hlast
  | cons other rest => rwa [List.getLast?_cons_cons]

theorem push_char_parted {char : Char} (h : Parted [char] second)
    (htokens : tokens? second = some tokens) :
    pushChar char tokens = pushChar char [] ++ tokens := by
  cases tokens with
  | nil => rw [List.append_nil]
  | cons token rest =>
      cases token with
      | quoted mark content => simp only [pushChar]; split <;> rfl
      | symbol other => simp only [pushChar]; split <;> rfl
      | word word =>
          obtain ⟨next, hnext, hword⟩ := head_of_tokens_word htokens
          have hchar : ¬ isWordChar char = true := fun hchar =>
            h char rfl next hnext (.inl ⟨hchar, hword⟩)
          simp [pushChar, hchar]

mutual

/-- Two texts with nothing over their border are read one after the other. -/
theorem tokens_append {first : List Char} {tokens : List Token} (h : tokens? first = some tokens)
    (hparted : Parted first second) :
    tokens? (first ++ second) = (tokens? second).map (tokens ++ ·) := by
  match first with
  | [] =>
      cases h
      cases hsecond : tokens? second <;> simp [hsecond]
  | char :: rest =>
      rw [tokens?] at h
      rw [List.cons_append, tokens?]
      split at h
      · rename_i hmark
        obtain ⟨⟨content, behind⟩, hcontent, rfl⟩ := Option.map_eq_some_iff.mp h
        rw [if_pos hmark, content_append hmark hcontent hparted.tail]
        cases tokens? second <;> rfl
      · rename_i hmark
        obtain ⟨found, hfound, rfl⟩ := Option.map_eq_some_iff.mp h
        rw [if_neg hmark, tokens_append hfound hparted.tail]
        cases hsecond : tokens? second with
        | none => rfl
        | some others =>
            simp only [Option.map_some, Option.some.injEq]
            by_cases hnil : found = []
            · subst hnil
              obtain rfl := tokens_eq_nil hfound
              exact push_char_parted hparted hsecond
            · exact push_char_append hnil others
termination_by structural first

theorem content_append {mark : Char} {first content : List Char} {tokens : List Token}
    (hmark : isMark mark = true) (h : content? mark first = some (content, tokens))
    (hparted : Parted first second) :
    content? mark (first ++ second) =
      (tokens? second).map fun others => (content, tokens ++ others) := by
  match first with
  | [] => simp [content?] at h
  | char :: rest =>
      by_cases hclosing : char = mark
      · subst hclosing
        match rest with
        | [] =>
            obtain ⟨rfl, rfl⟩ : content = [] ∧ tokens = [] := by
              simpa [content?, eq_comm] using h
            cases second with
            | nil => simp [content?, tokens?]
            | cons next behind =>
                have hnext : next ≠ char := fun heq =>
                  hparted char rfl next rfl (.inr ⟨heq, hmark⟩)
                simp [content?, hnext]
        | next :: behind =>
            by_cases hdoubled : next = char
            · subst hdoubled
              simp only [content?, if_true] at h
              obtain ⟨⟨inner, found⟩, hinner, heq⟩ := Option.map_eq_some_iff.mp h
              cases heq
              simp only [List.cons_append, content?, if_true,
                content_append hmark hinner hparted.tail.tail]
              cases tokens? second <;> rfl
            · simp only [content?, if_true, if_neg hdoubled] at h
              obtain ⟨found, hfound, heq⟩ := Option.map_eq_some_iff.mp h
              cases heq
              have happend := tokens_append hfound hparted.tail
              simp only [List.cons_append] at happend
              simp only [List.cons_append, content?, if_true, if_neg hdoubled, happend]
              cases tokens? second <;> rfl
      · rw [content?.eq_def] at h
        simp only [if_neg hclosing] at h
        obtain ⟨⟨inner, found⟩, hinner, heq⟩ := Option.map_eq_some_iff.mp h
        cases heq
        rw [List.cons_append, content?.eq_def]
        simp only [if_neg hclosing, content_append hmark hinner hparted.tail]
        cases tokens? second <;> rfl
termination_by structural first

end

/-! ## Quoted names -/

theorem content_doubled {mark : Char} (content : List Char) :
    content? mark (doubled mark content ++ [mark]) = some (content, []) := by
  induction content with
  | nil => simp [doubled, content?]
  | cons char rest ih =>
      have hcons : doubled mark (char :: rest) =
          (if char = mark then [mark, mark] else [char]) ++ doubled mark rest := rfl
      rw [hcons]
      by_cases hmark : char = mark
      · subst hmark
        simp [content?, ih]
      · rw [if_neg hmark]
        rw [List.append_assoc, List.singleton_append, content?.eq_def]
        simp [hmark, ih]

/-- What was quoted is read as one token, whatever characters it is made of. -/
theorem tokens_quoted {mark : Char} (h : isMark mark = true) (content : List Char) :
    tokens? (quotedChars mark content) = some [.quoted mark content] := by
  rw [quotedChars, tokens?, if_pos h, content_doubled]
  rfl

/-! ## Nothing is lost -/

theorem chars_of_push_char (char : Char) (tokens : List Token) :
    (pushChar char tokens).flatMap Token.chars = char :: tokens.flatMap Token.chars := by
  unfold pushChar
  split <;> split <;> rfl

mutual

/-- The tokens of a text spell the text. -/
theorem chars_of_tokens {chars : List Char} {tokens : List Token}
    (h : tokens? chars = some tokens) : tokens.flatMap Token.chars = chars := by
  match chars with
  | [] =>
      cases h
      rfl
  | char :: rest =>
      rw [tokens?] at h
      split at h
      · obtain ⟨⟨content, behind⟩, hcontent, rfl⟩ := Option.map_eq_some_iff.mp h
        rw [← chars_of_content hcontent, List.flatMap_cons, Token.chars, quotedChars]
        simp
      · obtain ⟨found, hfound, rfl⟩ := Option.map_eq_some_iff.mp h
        rw [chars_of_push_char, chars_of_tokens hfound]
termination_by structural chars

theorem chars_of_content {mark : Char} {chars content : List Char} {tokens : List Token}
    (h : content? mark chars = some (content, tokens)) :
    doubled mark content ++ mark :: tokens.flatMap Token.chars = chars := by
  match chars with
  | [] => simp [content?] at h
  | char :: rest =>
      by_cases hclosing : char = mark
      · subst hclosing
        match rest with
        | [] =>
            obtain ⟨rfl, rfl⟩ : content = [] ∧ tokens = [] := by
              simpa [content?, eq_comm] using h
            rfl
        | next :: behind =>
            -- A doubled mark is one character of the content; a single one closes it.
            by_cases hdoubled : next = char
            · subst hdoubled
              simp only [content?, if_true] at h
              obtain ⟨⟨inner, found⟩, hinner, heq⟩ := Option.map_eq_some_iff.mp h
              cases heq
              rw [← chars_of_content hinner]
              simp [doubled]
            · simp only [content?, if_true, if_neg hdoubled] at h
              obtain ⟨found, hfound, heq⟩ := Option.map_eq_some_iff.mp h
              cases heq
              rw [chars_of_tokens hfound]
              rfl
      · rw [content?.eq_def] at h
        simp only [if_neg hclosing] at h
        obtain ⟨⟨inner, found⟩, hinner, heq⟩ := Option.map_eq_some_iff.mp h
        cases heq
        rw [← chars_of_content hinner]
        simp [doubled, hclosing]
termination_by structural chars

end

end EntityGate.Sql
