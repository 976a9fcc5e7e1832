import EntityGate.Proofs.Text.Blank
import EntityGate.Proofs.Text.Utf8
import EntityGate.Text.Percent

/-!
# Paths of segments

A path is written with a slash before each of its segments, and segments without slashes are read
back from it: see `split_path`. A plain segment, of letters, digits, dashes and underscores, stands
for itself: see `decode_plain`.
-/

namespace EntityGate.Text

/-- The path of segments: each after a slash. -/
def pathOf : List String → String
  | [] => ""
  | segment :: rest => "/" ++ segment ++ pathOf rest

/-- The segment that stands for an identifier. -/
def idSegment : String := "\x7bid\x7d"

/-- A segment, or an identifier in place of the segment that stands for it. -/
def fillSegment (id segment : String) : String := if segment = idSegment then id else segment

/-- The path with an identifier in place of the segment that stands for it. -/
def fillPath (id path : String) : String :=
  join "/" ((split (· == '/') path).map (fillSegment id))

/-- There is no slash in the segment. -/
def Unbroken (segment : String) : Prop := ∀ char ∈ segment.toList, (char == '/') = false

theorem id_unbroken : Unbroken idSegment := by
  have hnone : idSegment.toList.contains '/' = false := by
    decide
  intro char hchar
  refine beq_eq_false_iff_ne.mpr fun heq => ?_
  rw [heq, ← List.contains_iff_mem, hnone] at hchar
  cases hchar

/-! ## Segments of a path -/

theorem path_chars_cons (segment : String) (rest : List String) :
    (pathOf (segment :: rest)).toList = '/' :: (segment.toList ++ (pathOf rest).toList) := by
  simp [pathOf]

/-- A piece ends at the first separator. -/
theorem split_chars_append {isSeparator : Char → Bool} {piece : List Char}
    (h : ∀ char ∈ piece, isSeparator char = false) {separator : Char}
    (hseparator : isSeparator separator = true) (rest : List Char) :
    splitChars isSeparator (piece ++ separator :: rest) = piece :: splitChars isSeparator rest := by
  rw [split_chars_parted piece hseparator, split_chars_of_none h]
  rfl

theorem split_segments {first : String} {segments : List String} (hfirst : Unbroken first)
    (h : ∀ segment ∈ segments, Unbroken segment) :
    splitChars (· == '/') (first.toList ++ (pathOf segments).toList) =
      (first :: segments).map String.toList := by
  induction segments generalizing first with
  | nil => simpa [pathOf] using split_chars_of_none hfirst
  | cons segment rest ih =>
      have hrest := ih (h segment List.mem_cons_self) fun other hother =>
        h other (List.mem_cons_of_mem _ hother)
      rw [path_chars_cons, split_chars_append hfirst (beq_self_eq_true '/'), hrest]
      rfl

/-- Segments without slashes are read back from their path, after an empty piece. -/
theorem split_path {segments : List String} (h : ∀ segment ∈ segments, Unbroken segment) :
    splitChars (· == '/') (pathOf segments).toList = ("" :: segments).map String.toList := by
  have hempty : Unbroken "" := fun _ hchar => (List.not_mem_nil hchar).elim
  exact split_segments hempty h

theorem path_of_injective {segments others : List String}
    (h : ∀ segment ∈ segments, Unbroken segment) (hothers : ∀ segment ∈ others, Unbroken segment)
    (heq : pathOf segments = pathOf others) : segments = others := by
  have hsplit := split_path h
  rw [heq, split_path hothers] at hsplit
  have hmap := (List.cons.inj hsplit).2
  exact (List.map_injective_iff.mpr fun _ _ => String.toList_inj.mp) hmap.symm

theorem join_segments (first : String) (segments : List String) :
    join "/" (first :: segments) = first ++ pathOf segments := by
  unfold join
  rw [← String.toList_inj, String.toList_ofList, String.toList_append]
  induction segments generalizing first with
  | nil => simp [pathOf]
  | cons segment rest ih =>
      rw [List.map_cons, List.map_cons, List.intersperse_cons_cons, List.flatten_cons,
        List.flatten_cons, ← List.map_cons, ih, path_chars_cons]
      rfl

/-- An identifier is filled in segment by segment. -/
theorem fill_path_of (id : String) {segments : List String}
    (h : ∀ segment ∈ segments, Unbroken segment) :
    fillPath id (pathOf segments) = pathOf (segments.map (fillSegment id)) := by
  have hsplit : split (· == '/') (pathOf segments) = "" :: segments := by
    unfold split
    rw [split_path h, List.map_map]
    simp [Function.comp_def]
  have hempty : fillSegment id "" = "" := if_neg (by decide)
  rw [fillPath, hsplit, List.map_cons, hempty, join_segments, String.empty_append]

/-! ## Plain segments -/

/-- Whether the character is a letter, a digit, a dash or an underscore. -/
def isPlain (char : Char) : Bool := isAlphanumeric char || char == '-' || char == '_'

/-- The segment is not empty and has plain characters only. -/
structure PlainSegment (segment : String) : Prop where
  ne_empty : segment ≠ ""
  all_plain : ∀ char ∈ segment.toList, isPlain char = true

instance (segment : String) : Decidable (PlainSegment segment) :=
  decidable_of_iff (segment ≠ "" ∧ segment.toList.all isPlain = true)
    ⟨fun h => ⟨h.1, List.all_eq_true.mp h.2⟩, fun h => ⟨h.1, List.all_eq_true.mpr h.2⟩⟩

variable {segment : String}

theorem not_plain :
    isPlain '/' = false ∧ isPlain '%' = false ∧ isPlain '.' = false ∧ isPlain '\x7b' = false := by
  decide +kernel

/-- A character that is not plain does not stand in a plain segment. -/
theorem PlainSegment.ne_char (h : PlainSegment segment) {odd : Char} (hodd : isPlain odd = false) :
    ∀ char ∈ segment.toList, char ≠ odd := by
  rintro char hchar rfl
  have hplain := h.all_plain char hchar
  rw [hodd] at hplain
  cases hplain

theorem PlainSegment.unbroken (h : PlainSegment segment) : Unbroken segment :=
  fun char hchar => beq_eq_false_iff_ne.mpr (h.ne_char not_plain.1 char hchar)

theorem PlainSegment.ne_id (h : PlainSegment segment) : segment ≠ idSegment := by
  rintro rfl
  exact h.ne_char not_plain.2.2.2 '\x7b' (by decide) rfl

theorem PlainSegment.ne_document (h : PlainSegment segment) : segment ≠ "openapi.json" := by
  rintro rfl
  exact h.ne_char not_plain.2.2.1 '.' (by decide) rfl

theorem PlainSegment.fill (h : PlainSegment segment) (id : String) :
    fillSegment id segment = segment :=
  if_neg h.ne_id

theorem percent_bytes_cons {char : Char} (h : char ≠ '%') (rest : List Char) :
    percentBytes (char :: rest) = String.utf8EncodeChar char ++ percentBytes rest := by
  rw [percentBytes.eq_def]
  split
  · next heq =>
    rw [List.cons.injEq] at heq
    exact (h heq.1).elim
  · next heq =>
    rw [List.cons.injEq] at heq
    rw [heq.1, heq.2]
  · next heq => cases heq

theorem percent_bytes_of_none {chars : List Char} (h : ∀ char ∈ chars, char ≠ '%') :
    percentBytes chars = encodeUtf8 chars := by
  induction chars with
  | nil => rfl
  | cons char rest ih =>
      rw [percent_bytes_cons (h char List.mem_cons_self),
        ih fun other hother => h other (List.mem_cons_of_mem _ hother)]
      rfl

/-- A plain segment stands for itself. -/
theorem decode_plain (h : PlainSegment segment) : decodeSegment? segment.toList = some segment := by
  rw [decodeSegment?, percent_bytes_of_none (h.ne_char not_plain.2.1), decode_encode,
    Option.map_some, String.ofList_toList]

end EntityGate.Text
