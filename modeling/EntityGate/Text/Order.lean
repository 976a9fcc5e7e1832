/-!
# The order of texts

Texts are compared by their UTF-8 bytes, which is their order by code points. It is a strict total
order.
-/

namespace EntityGate.Text

/-- The order of two texts by their code points. -/
def compareChars : List Char → List Char → Ordering
  | [], [] => .eq
  | [], _ :: _ => .lt
  | _ :: _, [] => .gt
  | left :: lefts, right :: rights =>
    (compare left.toNat right.toNat).then (compareChars lefts rights)

/-- The order of two texts by their UTF-8 bytes. -/
def compareTexts (left right : String) : Ordering := compareChars left.toList right.toList

theorem compare_chars_swap (left right : List Char) :
    (compareChars left right).swap = compareChars right left := by
  induction left generalizing right with
  | nil => cases right <;> rfl
  | cons first lefts ih =>
      cases right with
      | nil => rfl
      | cons second rights =>
          simp only [compareChars, Ordering.swap_then, ih, Nat.compare_swap]

@[simp] theorem compare_chars_self (chars : List Char) : compareChars chars chars = .eq := by
  induction chars with
  | nil => rfl
  | cons first rest ih => simp [compareChars, ih]

theorem eq_of_compare_chars {left right : List Char} (h : compareChars left right = .eq) :
    left = right := by
  induction left generalizing right with
  | nil =>
      cases right with
      | nil => rfl
      | cons second rights => cases h
  | cons first lefts ih =>
      cases right with
      | nil => cases h
      | cons second rights =>
          obtain ⟨hfirst, hrest⟩ := Ordering.then_eq_eq.mp h
          rw [ih hrest, Char.toNat_inj.mp (Nat.compare_eq_eq.mp hfirst)]

theorem compare_chars_trans {left middle right : List Char} (h : compareChars left middle = .lt)
    (h' : compareChars middle right = .lt) : compareChars left right = .lt := by
  induction left generalizing middle right with
  | nil =>
      cases right with
      | nil => cases middle <;> cases h'
      | cons third rights => rfl
  | cons first lefts ih =>
      cases middle with
      | nil => cases h
      | cons second middles =>
          cases right with
          | nil => cases h'
          | cons third rights =>
              simp only [compareChars, Ordering.then_eq_lt, Nat.compare_eq_lt,
                Nat.compare_eq_eq] at h h' ⊢
              -- The first two characters decide, or they agree and the rest decides.
              rcases h with h | ⟨h, hrest⟩ <;> rcases h' with h' | ⟨h', hrest'⟩
              · exact .inl (by omega)
              · exact .inl (by omega)
              · exact .inl (by omega)
              · exact .inr ⟨by omega, ih hrest hrest'⟩

theorem compare_texts_swap (left right : String) :
    (compareTexts left right).swap = compareTexts right left :=
  compare_chars_swap _ _

@[simp] theorem compare_texts_self (text : String) : compareTexts text text = .eq :=
  compare_chars_self _

theorem eq_of_compare_texts {left right : String} (h : compareTexts left right = .eq) :
    left = right :=
  String.toList_inj.mp (eq_of_compare_chars h)

theorem compare_texts_trans {left middle right : String} (h : compareTexts left middle = .lt)
    (h' : compareTexts middle right = .lt) : compareTexts left right = .lt :=
  compare_chars_trans h h'

end EntityGate.Text
