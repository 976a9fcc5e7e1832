import EntityGate.Proofs.Text.Base64
import EntityGate.Text.Naming
import Mathlib.Data.List.DropRight

/-!
# Trimmed texts and pieces of texts

Trimming leaves a trimmed text as it is: see `Text.trim_trim`. A trimmed text is blank only if it is
empty: see `Text.blank_iff_empty`. Digests are trimmed as they come.
A text without separators is its only piece, and no piece of a text has a separator. A joined text
has the pieces of what was joined: see `Text.split_chars_join`. A text that is put together is cut
into the same parts: see `Text.after_start_append`, `Text.cut_chars_append` and
`Text.cut_last_chars_append`.
-/

namespace EntityGate

namespace Text

variable {inClass : Char → Bool}

theorem strip_while_strip_while (chars : List Char) :
    stripWhile inClass (stripWhile inClass chars) = stripWhile inClass chars := by
  -- `dropEndWhile` is the library's `rdropWhile` under another name.
  show ((chars.dropWhile inClass).rdropWhile inClass |>.dropWhile inClass).rdropWhile inClass =
    (chars.dropWhile inClass).rdropWhile inClass
  have hkept : ((chars.dropWhile inClass).rdropWhile inClass).dropWhile inClass =
      (chars.dropWhile inClass).rdropWhile inClass := by
    refine List.dropWhile_eq_self_iff.mpr fun hlength => ?_
    -- What stands first after the end is cut stood first before.
    have hstart := List.rdropWhile_prefix inClass (l := chars.dropWhile inClass)
    rw [hstart.getElem hlength]
    exact List.dropWhile_get_zero_not inClass chars (hlength.trans_le hstart.length_le)
  rw [hkept, List.rdropWhile_idempotent]

@[simp] theorem trim_trim (text : String) : trim (trim text) = trim text := by
  unfold trim trimChars
  rw [String.toList_ofList, strip_while_strip_while]

/-- What is left of a text by trimming is trimmed. -/
theorem trim_of_non_blank {text name : String} (h : nonBlank? text = some name) :
    trim name = name := by
  simp only [nonBlank?] at h
  split at h
  · cases h
  · cases h
    exact trim_trim text

theorem non_blank_of_non_blank {text name : String} (h : nonBlank? text = some name) :
    nonBlank? name = some name := by
  have htrim := trim_of_non_blank h
  simp only [nonBlank?, htrim] at h ⊢
  split at h
  · cases h
  · next hfilled =>
    cases h
    rw [if_neg (by simpa using hfilled)]

theorem trim_of_blank {text : String} (h : isBlankText text = true) : trim text = "" := by
  have hnothing : text.toList.dropWhile isBlank = [] :=
    List.dropWhile_eq_nil_iff.mpr (List.all_eq_true.mp h)
  unfold trim trimChars stripWhile
  rw [hnothing]
  rfl

/-- A trimmed text is blank only if it is empty. -/
theorem blank_iff_empty {text : String} (h : trim text = text) :
    isBlankText text = true ↔ text = "" := by
  constructor
  · exact fun hblank => h.symm.trans (trim_of_blank hblank)
  · rintro rfl
    rfl

theorem not_blank_iff {text : String} (h : trim text = text) :
    isBlankText text = false ↔ text ≠ "" := by
  rw [← Bool.not_eq_true, blank_iff_empty h]

theorem mem_of_mem_trim_chars {chars : List Char} {char : Char} (h : char ∈ trimChars chars) :
    char ∈ chars := by
  have hstart := (List.rdropWhile_prefix isBlank (l := chars.dropWhile isBlank)).subset h
  exact (List.dropWhile_suffix isBlank).subset hstart

/-! ## Pieces -/

theorem split_chars_of_none {isSeparator : Char → Bool} {chars : List Char}
    (h : ∀ char ∈ chars, isSeparator char = false) : splitChars isSeparator chars = [chars] := by
  induction chars with
  | nil => rfl
  | cons char rest ih =>
      have hrest := ih fun other hother => h other (List.mem_cons_of_mem _ hother)
      simp [splitChars, h char List.mem_cons_self, hrest]

theorem not_separator_of_mem_piece {isSeparator : Char → Bool} {chars piece : List Char}
    (h : piece ∈ splitChars isSeparator chars) : ∀ char ∈ piece, isSeparator char = false := by
  induction chars generalizing piece with
  | nil =>
      obtain rfl := List.mem_singleton.mp h
      exact fun char hchar => (List.not_mem_nil hchar).elim
  | cons first rest ih =>
      unfold splitChars at h
      split at h
      · rcases List.mem_cons.mp h with rfl | h
        · exact fun char hchar => (List.not_mem_nil hchar).elim
        · exact ih h
      · next hfirst =>
        rw [Bool.not_eq_true] at hfirst
        split at h
        · next head pieces hpieces =>
          rw [hpieces] at ih
          rcases List.mem_cons.mp h with rfl | h
          · intro char hchar
            rcases List.mem_cons.mp hchar with rfl | hchar
            · exact hfirst
            · exact ih List.mem_cons_self char hchar
          · exact ih (List.mem_cons_of_mem _ h)
        · obtain rfl := List.mem_singleton.mp h
          intro char hchar
          obtain rfl := List.mem_singleton.mp hchar
          exact hfirst

theorem split_chars_ne_nil {isSeparator : Char → Bool} (chars : List Char) :
    splitChars isSeparator chars ≠ [] := by
  cases chars with
  | nil => exact nofun
  | cons char rest =>
      unfold splitChars
      split
      · exact nofun
      · split <;> exact nofun

/-- The pieces of a text with a separator are those on the left of it and those on the right. -/
theorem split_chars_parted {isSeparator : Char → Bool} (left : List Char) {separator : Char}
    (h : isSeparator separator = true) (right : List Char) :
    splitChars isSeparator (left ++ separator :: right) =
      splitChars isSeparator left ++ splitChars isSeparator right := by
  induction left with
  | nil => simp [splitChars, h]
  | cons char left ih =>
      cases hchar : isSeparator char with
      | true => simp [splitChars, hchar, ih]
      | false =>
          cases hpieces : splitChars isSeparator left with
          | nil => exact (split_chars_ne_nil left hpieces).elim
          | cons piece pieces => simp [splitChars, hchar, ih, hpieces]

/-- A joined text has the pieces of the texts that were joined. -/
theorem split_chars_join {isSeparator : Char → Bool} {separator : Char}
    (h : isSeparator separator = true) (first : String) (rest : List String) :
    splitChars isSeparator (join (String.ofList [separator]) (first :: rest)).toList =
      (first :: rest).flatMap fun text => splitChars isSeparator text.toList := by
  unfold join
  rw [String.toList_ofList, String.toList_ofList]
  induction rest generalizing first with
  | nil => simp
  | cons second rest ih =>
      rw [List.flatMap_cons, ← ih second, ← split_chars_parted _ h]
      simp

/-! ## Parts -/

theorem after_start_append (start rest : List Char) :
    afterStart? start (start ++ rest) = some rest := by
  induction start with
  | nil => cases rest <;> rfl
  | cons char start ih => simpa [afterStart?] using ih

/-- A text is cut at its first separator. -/
theorem cut_chars_append {separator : Char} {before : List Char} (h : separator ∉ before)
    (after : List Char) : cutChars? separator (before ++ separator :: after) =
      some (before, after) := by
  induction before with
  | nil => simp [cutChars?]
  | cons char before ih =>
      obtain ⟨hchar, hbefore⟩ := not_or.mp (List.mem_cons.not.mp h)
      have hother : ¬ char = separator := fun heq => hchar heq.symm
      simp only [List.cons_append, cutChars?, if_neg hother, ih hbefore, Option.map_some]

/-- A text without the separator is not cut. -/
theorem cut_chars_of_not_mem {separator : Char} {chars : List Char} (h : separator ∉ chars) :
    cutChars? separator chars = none := by
  induction chars with
  | nil => rfl
  | cons char rest ih =>
      obtain ⟨hchar, hrest⟩ := not_or.mp (List.mem_cons.not.mp h)
      rw [cutChars?, if_neg (Ne.symm hchar), ih hrest, Option.map_none]

/-- What stands before the first separator, all of it if there is none. -/
theorem take_while_eq_cut (separator : Char) (chars : List Char) :
    chars.takeWhile (· != separator) =
      ((cutChars? separator chars).map Prod.fst).getD chars := by
  induction chars with
  | nil => rfl
  | cons char rest ih =>
      by_cases hsame : char = separator
      · simp [cutChars?, hsame]
      · rw [List.takeWhile_cons_of_pos (by simpa using hsame), ih, cutChars?, if_neg hsame]
        cases cutChars? separator rest <;> rfl

/-- A text is cut at its last separator. -/
theorem cut_last_chars_append {separator : Char} {after : List Char} (h : separator ∉ after)
    (before : List Char) : cutLastChars? separator (before ++ separator :: after) =
      some (before, after) := by
  have hreverse : (before ++ separator :: after).reverse =
      after.reverse ++ separator :: before.reverse := by simp
  have hcut := cut_chars_append (by simpa using h : separator ∉ after.reverse) before.reverse
  simp only [cutLastChars?, hreverse, hcut, Option.map_some, List.reverse_reverse]

end Text

namespace Naming

theorem hex_digit_not_blank : ∀ value < 16, Text.isBlank (Digest.hexDigitOf value) = false := by
  decide

theorem hex_chars_not_blank (bytes : List UInt8) :
    ∀ char ∈ Digest.hexChars bytes, Text.isBlank char = false := by
  intro char hchar
  obtain ⟨byte, -, hchar⟩ := List.mem_flatMap.mp hchar
  have hbyte := byte.toNat_lt
  simp only [List.mem_cons, List.not_mem_nil, or_false] at hchar
  rcases hchar with rfl | rfl
  · exact hex_digit_not_blank _ (by omega)
  · exact hex_digit_not_blank _ (by omega)

/-- A digest has no white space around it. -/
theorem trim_short_hash (text : String) : Text.trim (shortHash text) = shortHash text := by
  unfold Text.trim
  rw [Text.trim_chars_of_not_blank, String.ofList_toList]
  intro char hchar
  simp only [shortHash, Digest.sha256Hex, String.toList_ofList] at hchar
  exact hex_chars_not_blank _ char (List.mem_of_mem_take hchar)

end Naming

end EntityGate
