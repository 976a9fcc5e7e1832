import EntityGate.Json.Printer
import EntityGate.Json.Reader

/-!
# Reading written numbers and strings

The reader takes exactly what a number or a string was written as and leaves what follows. An
integer of 64 bits is read back as itself: see `reads_back_int`. Whether a double is depends on
the double, since the reader rounds more than once.
-/

namespace EntityGate

/-! ## What follows a number -/

/-- Nothing that could still belong to a number follows. -/
def Json.Stops (rest : List Char) : Prop :=
  ∀ char ∈ rest.head?, char.isDigit = false ∧ char ≠ '.' ∧ char ≠ 'e' ∧ char ≠ 'E'

theorem Json.stops_nil : Json.Stops [] := by simp [Json.Stops]

theorem Json.stops_of_closing {char : Char} (h : char = ',' ∨ char = ']' ∨ char = '}')
    (rest : List Char) : Json.Stops (char :: rest) := by
  intro first hfirst
  obtain rfl : char = first := by simpa using hfirst
  rcases h with rfl | rfl | rfl <;> decide

section Append

variable {test : Char → Bool} {chars rest : List Char}

theorem take_while_append_of_head (h : ∀ char ∈ rest.head?, test char = false) :
    (chars ++ rest).takeWhile test = chars.takeWhile test := by
  induction chars with
  | nil => cases rest <;> simp_all
  | cons char others ih => cases hchar : test char <;> simp [hchar, ih]

theorem drop_while_append_of_head (h : ∀ char ∈ rest.head?, test char = false) :
    (chars ++ rest).dropWhile test = chars.dropWhile test ++ rest := by
  induction chars with
  | nil => cases rest <;> simp_all
  | cons char others ih => cases hchar : test char <;> simp [hchar, ih]

end Append

namespace Json

variable {chars rest : List Char}

theorem read_exponent_append {exponent : Option Int} {left : List Char} (hrest : Stops rest)
    (h : readExponent chars = some (exponent, left)) :
    readExponent (chars ++ rest) = some (exponent, left ++ rest) := by
  have hdigit : ∀ char ∈ rest.head?, char.isDigit = false := fun char hchar => (hrest char hchar).1
  cases chars with
  | nil =>
      cases h
      cases rest with
      | nil => rfl
      | cons char others =>
          obtain ⟨-, -, hlower, hupper⟩ := hrest char rfl
          simp [readExponent, hlower, hupper]
  | cons mark tail =>
      simp only [readExponent, List.cons_append] at h ⊢
      by_cases hmark : mark = 'e' ∨ mark = 'E'
      · rw [if_pos hmark] at h ⊢
        have hsign : tail ≠ [] → Numeral.splitSign (tail ++ rest) =
            ((Numeral.splitSign tail).1, (Numeral.splitSign tail).2 ++ rest) := by
          intro htail
          cases tail with
          | nil => exact False.elim (htail rfl)
          | cons first others =>
              by_cases hminus : first = '-'
              · subst hminus
                rfl
              · by_cases hplus : first = '+'
                · subst hplus
                  rfl
                · simp [Numeral.splitSign, hminus, hplus]
        have htail : tail ≠ [] := by
          rintro rfl
          simp [Numeral.splitSign] at h
        simp only [hsign htail, take_while_append_of_head hdigit,
          drop_while_append_of_head hdigit]
        split at h
        · cases h
        · rename_i hempty
          rw [if_neg hempty]
          cases h
          rfl
      · rw [if_neg hmark] at h ⊢
        cases h
        rfl

/-- The fraction digits after a point, if there is one. -/
def readFraction (chars : List Char) : Option (List Char × List Char) :=
  match chars with
  | '.' :: tail =>
    let digits := tail.takeWhile Char.isDigit
    if digits.isEmpty then none else some (digits, tail.dropWhile Char.isDigit)
  | tail => some ([], tail)

/-- A number after its sign. -/
def readUnsigned (isNegative : Bool) (chars : List Char) : Option (JsonNumber × List Char) := do
  let whole := chars.takeWhile Char.isDigit
  if whole.isEmpty || (whole.head? == some '0' && 1 < whole.length) then none
  else
    let (fraction, afterFraction) ← readFraction (chars.dropWhile Char.isDigit)
    let (exponent, rest) ← readExponent afterFraction
    let number ← numberOfParts isNegative whole fraction exponent
    some (number, rest)

theorem read_number_negative (chars : List Char) :
    readNumber ('-' :: chars) = readUnsigned true chars := by
  unfold readNumber readUnsigned readFraction
  cases hrest : chars.dropWhile Char.isDigit with
  | nil => simp [hrest]
  | cons first tail =>
      by_cases hpoint : first = '.'
      · subst hpoint
        by_cases hdigits : (tail.takeWhile Char.isDigit).isEmpty = true <;> simp [hdigits, hrest]
      · simp [hpoint, hrest]

theorem read_number_of_ne {char : Char} (h : char ≠ '-') (others : List Char) :
    readNumber (char :: others) = readUnsigned false (char :: others) := by
  unfold readNumber readUnsigned readFraction
  cases hrest : (char :: others).dropWhile Char.isDigit with
  | nil => simp [h, hrest]
  | cons first tail =>
      by_cases hpoint : first = '.'
      · subst hpoint
        by_cases hdigits : (tail.takeWhile Char.isDigit).isEmpty = true <;>
          simp [h, hdigits, hrest]
      · simp [hpoint, h, hrest]

theorem read_fraction_append {fraction left : List Char} (hrest : Stops rest)
    (h : readFraction chars = some (fraction, left)) :
    readFraction (chars ++ rest) = some (fraction, left ++ rest) := by
  have hdigit : ∀ char ∈ rest.head?, char.isDigit = false := fun char hchar => (hrest char hchar).1
  cases chars with
  | nil =>
      cases h
      cases rest with
      | nil => rfl
      | cons char others =>
          obtain ⟨-, hpoint, -, -⟩ := hrest char rfl
          simp [readFraction, hpoint]
  | cons char tail =>
      by_cases hpoint : char = '.'
      · subst hpoint
        simp only [readFraction, List.cons_append, take_while_append_of_head hdigit,
          drop_while_append_of_head hdigit] at h ⊢
        split at h
        · cases h
        · rename_i hempty
          rw [if_neg hempty]
          cases h
          rfl
      · simp only [readFraction] at h
        split at h
        · rename_i heq
          cases heq
          exact False.elim (hpoint rfl)
        · cases h
          simp [readFraction, hpoint]

theorem read_unsigned_append {isNegative : Bool} {number : JsonNumber} {left : List Char}
    (hrest : Stops rest) (h : readUnsigned isNegative chars = some (number, left)) :
    readUnsigned isNegative (chars ++ rest) = some (number, left ++ rest) := by
  have hdigit : ∀ char ∈ rest.head?, char.isDigit = false := fun char hchar => (hrest char hchar).1
  unfold readUnsigned at h ⊢
  simp only [take_while_append_of_head hdigit, drop_while_append_of_head hdigit] at h ⊢
  split at h
  · cases h
  · rename_i hwhole
    rw [if_neg hwhole]
    obtain ⟨⟨fraction, afterFraction⟩, hfraction, h⟩ := Option.bind_eq_some_iff.mp h
    obtain ⟨⟨exponent, afterExponent⟩, hexponent, h⟩ := Option.bind_eq_some_iff.mp h
    obtain ⟨found, hfound, h⟩ := Option.bind_eq_some_iff.mp h
    cases h
    simp [read_fraction_append hrest hfraction, read_exponent_append hrest hexponent, hfound]

/-- A number is read in the same way whatever follows it. -/
theorem read_number_append {number : JsonNumber} {left : List Char} (hrest : Stops rest)
    (h : readNumber chars = some (number, left)) :
    readNumber (chars ++ rest) = some (number, left ++ rest) := by
  cases chars with
  | nil => simp [readNumber] at h
  | cons char others =>
      by_cases hminus : char = '-'
      · subst hminus
        rw [read_number_negative] at h
        rw [List.cons_append, read_number_negative, read_unsigned_append hrest h]
      · rw [read_number_of_ne hminus] at h
        rw [List.cons_append, read_number_of_ne hminus, ← List.cons_append,
          read_unsigned_append hrest h]

/-- A number starts with a minus sign or a digit. -/
theorem read_number_head {number : JsonNumber} {left : List Char}
    (h : readNumber chars = some (number, left)) :
    ∃ char others, chars = char :: others ∧ (char = '-' ∨ char.isDigit = true) := by
  cases chars with
  | nil => simp [readNumber] at h
  | cons char others =>
      refine ⟨char, others, rfl, ?_⟩
      by_cases hminus : char = '-'
      · exact .inl hminus
      · cases hdigit : char.isDigit with
        | true => exact .inr rfl
        | false => simp [read_number_of_ne hminus, readUnsigned, hdigit] at h

end Json

/-! ## Integers -/

namespace JsonNumber

/-- The reader takes the written form of the number for that number. -/
def ReadsBack (number : JsonNumber) : Prop := Json.readNumber number.chars = some (number, [])

end JsonNumber

namespace Json

/-- Digits whose number fits 64 bits are taken as a whole. -/
theorem take_significand_of_lt {digits : List Char} {start : Nat}
    (h : Nat.ofDigitChars 10 digits start < 2 ^ 64) :
    takeSignificand start digits = (Nat.ofDigitChars 10 digits start, []) := by
  induction digits generalizing start with
  | nil => rfl
  | cons digit rest ih =>
      rw [Nat.ofDigitChars_cons] at h ⊢
      have hnext : 10 * start + Numeral.digitValue digit < 2 ^ 64 := by
        refine Nat.lt_of_le_of_lt ?_ h
        rw [Nat.ofDigitChars_eq_ofDigitChars_zero]
        exact Nat.le_trans (Nat.le_mul_of_pos_left _ (Nat.pow_pos (by decide)))
          (Nat.le_add_right _ _)
      simp only [takeSignificand, hnext, if_true]
      exact ih h

theorem take_significand_digits {value : Nat} (h : value < 2 ^ 64) :
    takeSignificand 0 (DoubleFormat.digits value) = (value, []) := by
  have hvalue : Nat.ofDigitChars 10 (Nat.toDigits 10 value) 0 = value :=
    Nat.ofDigitChars_toDigits (by decide) (by decide)
  rw [DoubleFormat.digits, take_significand_of_lt (by rwa [hvalue]), hvalue]

theorem digits_are_digits (value : Nat) :
    ∀ char ∈ DoubleFormat.digits value, char.isDigit = true :=
  fun _ hchar => Nat.isDigit_of_mem_toDigits (by decide) (by decide) hchar

/-- Only zero is written with a leading zero. -/
theorem digits_head (value : Nat) :
    (DoubleFormat.digits value).head? = some '0' → value = 0 := by
  unfold DoubleFormat.digits
  induction value using Nat.strongRecOn with
  | ind value ih =>
      intro hhead
      -- The leading digit is the one of the number without its last digit, down to a single digit.
      rw [Nat.toDigits_eq_if (by decide)] at hhead
      split at hhead
      · rename_i hsmall
        rw [List.head?_cons, Option.some.injEq] at hhead
        exact (by decide : ∀ small < 10, small.digitChar = '0' → small = 0) value hsmall hhead
      · rename_i hlarge
        have hquotient : value / 10 = 0 := by
          refine ih (value / 10) (by omega) ?_
          cases hdigits : Nat.toDigits 10 (value / 10) with
          | nil => exact False.elim (Nat.toDigits_ne_nil hdigits)
          | cons first others => simpa [hdigits] using hhead
        omega

theorem read_unsigned_digits (isNegative : Bool) (value : Nat) :
    readUnsigned isNegative (DoubleFormat.digits value) =
      (numberOfParts isNegative (DoubleFormat.digits value) [] none).map fun number =>
        (number, []) := by
  have hdigits : ∀ char ∈ DoubleFormat.digits value, char.isDigit = true :=
    digits_are_digits value
  have htake : (DoubleFormat.digits value ++ []).takeWhile Char.isDigit =
      DoubleFormat.digits value ++ [].takeWhile Char.isDigit :=
    List.takeWhile_append_of_pos hdigits
  have hdrop : (DoubleFormat.digits value ++ []).dropWhile Char.isDigit =
      [].dropWhile Char.isDigit := List.dropWhile_append_of_pos hdigits
  simp only [List.append_nil, List.takeWhile_nil, List.dropWhile_nil] at htake hdrop
  have hnonempty : (DoubleFormat.digits value).isEmpty = false := by
    simp [DoubleFormat.digits, Nat.toDigits_ne_nil]
  have hleading : ((DoubleFormat.digits value).head? == some '0' &&
      decide (1 < (DoubleFormat.digits value).length)) = false := by
    by_cases hzero : (DoubleFormat.digits value).head? = some '0'
    · rw [digits_head value hzero]
      rfl
    · simp [hzero]
  unfold readUnsigned
  simp only [htake, hdrop, hnonempty, hleading, Bool.or_false, Bool.false_eq_true, if_false]
  show (numberOfParts isNegative (DoubleFormat.digits value) [] none).bind _ = _
  cases numberOfParts isNegative (DoubleFormat.digits value) [] none <;> rfl

end Json

/-- An integer of 64 bits, signed or unsigned, is read back as itself. -/
theorem JsonNumber.reads_back_int {value : Int} (hlow : -(2 ^ 63) ≤ value)
    (hhigh : value < 2 ^ 64) : (JsonNumber.int value).ReadsBack := by
  simp only [ReadsBack, chars]
  by_cases hnegative : value < 0
  · rw [if_pos hnegative, Json.read_number_negative, Json.read_unsigned_digits]
    have htake := Json.take_significand_digits (show value.natAbs < 2 ^ 64 by omega)
    have hkept : (true && (value.natAbs == 0 || decide (2 ^ 63 < value.natAbs))) = false := by
      simp only [Bool.true_and, Bool.or_eq_false_iff, beq_eq_false_iff_ne, decide_eq_false_iff_not]
      omega
    simp only [Json.numberOfParts, htake, List.isEmpty_nil, Option.isNone_none, Bool.and_self,
      if_true, hkept, Bool.false_eq_true, if_false, Option.map_some, Option.some.injEq,
      Prod.mk.injEq, JsonNumber.int.injEq, and_true]
    omega
  · rw [if_neg hnegative]
    have htake := Json.take_significand_digits (show value.natAbs < 2 ^ 64 by omega)
    have hread : Json.readNumber (DoubleFormat.digits value.natAbs) =
        Json.readUnsigned false (DoubleFormat.digits value.natAbs) := by
      cases hdigits : DoubleFormat.digits value.natAbs with
      | nil => exact False.elim (Nat.toDigits_ne_nil hdigits)
      | cons first others =>
          refine Json.read_number_of_ne ?_ others
          rintro rfl
          have hdigit := Json.digits_are_digits value.natAbs '-' (by simp [hdigits])
          exact absurd hdigit (by decide)
    rw [hread, Json.read_unsigned_digits]
    simp only [Json.numberOfParts, htake, List.isEmpty_nil, Option.isNone_none, Bool.and_self,
      if_true, Bool.false_and, Bool.false_eq_true, if_false, Option.map_some, Option.some.injEq,
      Prod.mk.injEq, JsonNumber.int.injEq, and_true]
    omega

/-! ## Strings -/

namespace Json

theorem hex_value_digit : ∀ value < 16, hexValue? (hexDigit value) = some value := by
  decide

/-- A character below the blank is read back from its four hexadecimal digits. -/
theorem read_unit_escape {char : Char} (h : char.toNat < 32) (rest : List Char) :
    readUnit ('0' :: '0' :: hexDigit (char.toNat / 16) :: hexDigit (char.toNat % 16) :: rest) =
      some (char, rest) := by
  have hzero : hexValue? '0' = some 0 := by decide
  have hhigh := hex_value_digit (char.toNat / 16) (by omega)
  have hlow := hex_value_digit (char.toNat % 16) (by omega)
  have hcode : 4096 * 0 + 256 * 0 + 16 * (char.toNat / 16) + char.toNat % 16 = char.toNat := by
    omega
  simp only [readUnit, readHex4, hzero, hhigh, hlow, Option.bind_eq_bind, Option.bind_some, hcode]
  rw [if_neg (by omega), if_neg (by omega), Char.ofNat_toNat]

/-- One character of a string is read in one step. -/
theorem read_string_escape (fuel : Nat) (collected : List Char) (char : Char) (rest : List Char) :
    readString (fuel + 1) collected (escapeChar char ++ rest) =
      readString fuel (char :: collected) rest := by
  unfold escapeChar
  by_cases hquote : char = '"'
  · subst hquote
    rfl
  rw [if_neg hquote]
  by_cases hslash : char = '\\'
  · subst hslash
    rfl
  rw [if_neg hslash]
  by_cases hline : char = '\n'
  · subst hline
    rfl
  rw [if_neg hline]
  by_cases hreturn : char = '\r'
  · subst hreturn
    rfl
  rw [if_neg hreturn]
  by_cases htab : char = '\t'
  · subst htab
    rfl
  rw [if_neg htab]
  by_cases hback : char = '\x08'
  · subst hback
    rfl
  rw [if_neg hback]
  by_cases hfeed : char = '\x0c'
  · subst hfeed
    rfl
  rw [if_neg hfeed]
  by_cases hcontrol : char.toNat < 32
  · rw [if_pos hcontrol]
    simp [readString, read_unit_escape hcontrol]
  · rw [if_neg hcontrol]
    simp [readString, hslash, hcontrol]

/-- A string is read up to its closing quote. -/
theorem read_string_quoted (chars rest : List Char) (collected : List Char) {fuel : Nat}
    (h : chars.length < fuel) :
    readString fuel collected (chars.flatMap escapeChar ++ '"' :: rest) =
      some (String.ofList (collected.reverse ++ chars), rest) := by
  induction chars generalizing fuel collected with
  | nil =>
      obtain ⟨fuel, rfl⟩ := Nat.exists_eq_add_one.mpr h
      simp [readString]
  | cons char others ih =>
      obtain ⟨fuel, rfl⟩ := Nat.exists_eq_add_one.mpr (Nat.lt_of_le_of_lt (Nat.zero_le _) h)
      have hfuel : others.length < fuel := by
        simp only [List.length_cons] at h
        omega
      rw [List.flatMap_cons, List.append_assoc, read_string_escape, ih (char :: collected) hfuel]
      simp

theorem length_le_escaped (chars : List Char) :
    chars.length ≤ (chars.flatMap escapeChar).length := by
  induction chars with
  | nil => exact Nat.le_refl 0
  | cons char others ih =>
      have hchar : 1 ≤ (escapeChar char).length := by
        unfold escapeChar
        repeat (split; exact Nat.le_add_left 1 _)
        exact Nat.le_refl 1
      simp only [List.flatMap_cons, List.length_cons, List.length_append]
      omega

end Json

end EntityGate
