import Mathlib.Tactic.SplitIfs
import EntityGate.Proofs.Json.Tokens

/-!
# Written values have no control characters

The compact form of a value is one line: strings are escaped and everything else is written with
digits, signs, letters and brackets. See `visible_compact`.
-/

namespace EntityGate

/-- No character is a control character below the blank. -/
def Visible (chars : List Char) : Prop := ∀ char ∈ chars, 32 ≤ char.toNat

section Visible

variable {char : Char} {first second : List Char}

@[simp] theorem visible_nil : Visible [] := nofun

@[simp] theorem visible_cons {rest : List Char} :
    Visible (char :: rest) ↔ 32 ≤ char.toNat ∧ Visible rest := List.forall_mem_cons

@[simp] theorem visible_append : Visible (first ++ second) ↔ Visible first ∧ Visible second :=
  List.forall_mem_append

theorem Visible.line_break_not_mem (h : Visible first) : '\n' ∉ first := fun hbreak =>
  absurd (h '\n' hbreak) (by decide)

theorem visible_replicate (count : Nat) (h : 32 ≤ char.toNat) :
    Visible (List.replicate count char) :=
  fun _ hmem => List.eq_of_mem_replicate hmem ▸ h

end Visible

/-! ## Numbers -/

namespace DoubleFormat

theorem visible_digits (value : Nat) : Visible (digits value) := by
  intro char hchar
  have hdigit := Char.isDigit_iff_toNat.mp (Json.digits_are_digits value char hchar)
  exact Nat.le_trans (by decide) hdigit.1

theorem visible_positional {written : List Char} (h : Visible written) (leading : Int) :
    Visible (positional written leading) := by
  have hzeros (count : Nat) : Visible (List.replicate count '0') :=
    visible_replicate count (by decide)
  unfold positional
  split
  · simp [h, hzeros]
  · simp only
    split
    · simp [h, hzeros]
    · have htake : Visible (written.take (leading.toNat + 1)) :=
        fun char hchar => h char (List.mem_of_mem_take hchar)
      have hdrop : Visible (written.drop (leading.toNat + 1)) :=
        fun char hchar => h char (List.mem_of_mem_drop hchar)
      simp [htake, hdrop]

theorem visible_scientific (format : DoubleFormat) {written : List Char} (h : Visible written)
    (leading : Int) : Visible (format.scientific written leading) := by
  have hexponent : Visible (if leading < 0 then '-' :: digits leading.natAbs
      else if format.signedExponent then '+' :: digits leading.natAbs
      else digits leading.natAbs) := by
    split_ifs <;> simp [visible_digits]
  cases written with
  | nil => simpa [scientific] using hexponent
  | cons char rest =>
      cases rest with
      | nil => simpa [scientific] using ⟨(visible_cons.mp h).1, hexponent⟩
      | cons second others =>
          obtain ⟨hfirst, hothers⟩ := visible_cons.mp h
          have hpoint : Visible ('.' :: second :: others) := visible_cons.mpr ⟨by decide, hothers⟩
          simpa [scientific, hfirst, hexponent] using hpoint

theorem visible_write (format : DoubleFormat) (value : Binary64) :
    Visible (format.write value) := by
  have hsign : Visible (if value.negative then ['-'] else []) := by split <;> simp
  unfold write
  simp only
  split
  · exact visible_append.mpr ⟨hsign, by simp⟩
  · split
    · exact visible_append.mpr ⟨hsign, visible_positional (visible_digits _) _⟩
    · exact visible_append.mpr ⟨hsign, visible_scientific format (visible_digits _) _⟩

end DoubleFormat

theorem JsonNumber.visible_chars (number : JsonNumber) : Visible number.chars := by
  cases number with
  | int value =>
      show Visible (if value < 0 then _ else DoubleFormat.digits value.natAbs)
      split <;> simp [DoubleFormat.visible_digits]
  | double value => exact DoubleFormat.visible_write _ value

namespace Json

/-! ## Strings -/

theorem visible_hex_digit : ∀ value < 16, 32 ≤ (hexDigit value).toNat := by decide

theorem visible_escape_char (char : Char) : Visible (escapeChar char) := by
  have hunits : char.toNat < 32 → 32 ≤ (hexDigit (char.toNat / 16)).toNat ∧
      32 ≤ (hexDigit (char.toNat % 16)).toNat := fun hcontrol =>
    ⟨visible_hex_digit _ (by omega), visible_hex_digit _ (by omega)⟩
  unfold escapeChar
  split_ifs <;> simp_all

theorem visible_quote_chars (chars : List Char) : Visible (quoteChars chars) := by
  have hescaped : Visible (chars.flatMap escapeChar) := by
    intro char hchar
    obtain ⟨source, -, hsource⟩ := List.mem_flatMap.mp hchar
    exact visible_escape_char source char hsource
  simp [quoteChars, hescaped]

/-! ## Values -/

mutual

theorem visible_compact : ∀ value : Json, Visible value.compactChars
  | .null | .bool true | .bool false | .array [] | .object [] => by simp [compactChars]
  | .number value => value.visible_chars
  | .string value => visible_quote_chars value.toList
  | .array (item :: items) => by
      simp [compactChars, visible_compact item, visible_compact_items items]
  | .object ((key, value) :: fields) => by
      simp [compactChars, visible_quote_chars, visible_compact value, visible_compact_fields fields]

theorem visible_compact_items : ∀ items : List Json, Visible (compactItems items)
  | [] => by simp [compactItems]
  | item :: items => by simp [compactItems, visible_compact item, visible_compact_items items]

theorem visible_compact_fields : ∀ fields : List (String × Json), Visible (compactFields fields)
  | [] => by simp [compactFields]
  | (key, value) :: fields => by
      simp [compactFields, visible_quote_chars, visible_compact value,
        visible_compact_fields fields]

end

end Json

end EntityGate
