import Mathlib.Data.Nat.Bitwise
import EntityGate.Pattern.Basic

/-!
# Spans of patterns

The stretches of a text that a pattern matches, as a relation between the positions where they
start and where they end. Read `computes_ends` first: the evaluation on sets of positions computes
this relation, the bound on its repetitions included. So a pattern occurs in a text exactly if it
spans some stretch of it: see `occurs_in_iff`.
-/

namespace EntityGate

theorem CharSet.contains_single_iff {char mark : Char} :
    (single mark).contains char.toNat = true ↔ char = mark := by
  rw [single, contains, Bool.and_eq_true, decide_eq_true_iff, decide_eq_true_iff,
    ← Nat.le_antisymm_iff, Char.toNat_inj, eq_comm]

namespace Pattern

/-- A number of steps one after the other. -/
def Steps (step : Nat → Nat → Prop) : Nat → Nat → Nat → Prop
  | 0, start, stop => start = stop
  | count + 1, start, stop => ∃ between, Steps step count start between ∧ step between stop

/-- The character before a position, the one before the text being given. -/
def before? (outside : Option Char) (text : List Char) : Nat → Option Char
  | 0 => outside
  | position + 1 => text[position]?

/-- The pattern matches the stretch of the text between two positions. A repetition takes at least
the lower number of rounds, and no more than this if its bounds cross. -/
def Spans (text : List Char) : Pattern → Nat → Nat → Prop
  | .empty => fun start stop => start = stop
  | .member set => fun start stop =>
    stop = start + 1 ∧ ∃ char, text[start]? = some char ∧ set.contains char.toNat = true
  | .anchor condition => fun start stop =>
    start = stop ∧ holds condition (before? none text start) text[start]? = true
  | .sequence first second => fun start stop =>
    ∃ between, Spans text first start between ∧ Spans text second between stop
  | .choice left right => fun start stop =>
    Spans text left start stop ∨ Spans text right start stop
  | .counted body least most => fun start stop =>
    ∃ count, least ≤ count ∧ (∀ bound, most = some bound → count ≤ max least bound) ∧
      Steps (Spans text body) count start stop

/-! ## Steps -/

section Steps

variable {step : Nat → Nat → Prop} {start stop count further : Nat}

theorem steps_add : Steps step (count + further) start stop ↔
    ∃ between, Steps step count start between ∧ Steps step further between stop := by
  induction further generalizing stop with
  | zero => simp [Steps]
  | succ further ih =>
      show (∃ last, Steps step (count + further) start last ∧ step last stop) ↔ _
      simp only [ih, Steps]
      constructor
      · rintro ⟨last, ⟨between, hfirst, hsecond⟩, hlast⟩
        exact ⟨between, hfirst, last, hsecond, hlast⟩
      · rintro ⟨between, hfirst, last, hsecond, hlast⟩
        exact ⟨last, ⟨between, hfirst, hsecond⟩, hlast⟩

/-- The first of several steps. -/
theorem steps_succ_iff : Steps step (count + 1) start stop ↔
    ∃ between, step start between ∧ Steps step count between stop := by
  rw [Nat.add_comm, steps_add]
  simp [Steps]

theorem Steps.le (hstep : ∀ {start stop}, step start stop → start ≤ stop)
    (h : Steps step count start stop) : start ≤ stop := by
  induction count generalizing stop with
  | zero => exact Nat.le_of_eq h
  | succ count ih =>
      obtain ⟨between, hfirst, hlast⟩ := h
      exact (ih hfirst).trans (hstep hlast)

theorem Steps.le_bound {bound : Nat}
    (hstep : ∀ {start stop}, step start stop → start ≤ bound → stop ≤ bound)
    (h : Steps step count start stop) (hstart : start ≤ bound) : stop ≤ bound := by
  induction count generalizing stop with
  | zero => exact h ▸ hstart
  | succ count ih =>
      obtain ⟨between, hfirst, hlast⟩ := h
      exact hstep hlast (ih hfirst)

/-- Steps that do not go back and stay where they are can be left out: at most one step for each
position is needed. -/
theorem Steps.shorten (hstep : ∀ {start stop}, step start stop → start ≤ stop)
    (h : Steps step count start stop) :
    ∃ fewer, fewer ≤ stop - start ∧ Steps step fewer start stop := by
  induction count generalizing stop with
  | zero => exact ⟨0, Nat.zero_le _, h⟩
  | succ count ih =>
      obtain ⟨between, hfirst, hlast⟩ := h
      obtain ⟨fewer, hfewer, hsteps⟩ := ih hfirst
      have hbetween := Steps.le hstep hfirst
      rcases Nat.eq_or_lt_of_le (hstep hlast) with rfl | hlt
      · exact ⟨fewer, hfewer, hsteps⟩
      · exact ⟨fewer + 1, by omega, between, hsteps, hlast⟩

end Steps

variable {text : List Char} {pattern body : Pattern} {start stop : Nat}

theorem Spans.le (h : Spans text pattern start stop) : start ≤ stop := by
  induction pattern generalizing start stop with
  | empty => exact Nat.le_of_eq h
  | member set => exact h.1 ▸ Nat.le_succ start
  | anchor condition => exact Nat.le_of_eq h.1
  | sequence first second ihfirst ihsecond =>
      obtain ⟨between, hfirst, hsecond⟩ := h
      exact (ihfirst hfirst).trans (ihsecond hsecond)
  | choice left right ihleft ihright => exact h.elim ihleft ihright
  | counted body least most ih =>
      obtain ⟨count, -, -, hsteps⟩ := h
      exact hsteps.le ih

theorem Spans.le_length (h : Spans text pattern start stop) (hstart : start ≤ text.length) :
    stop ≤ text.length := by
  induction pattern generalizing start stop with
  | empty => exact h ▸ hstart
  | member set =>
      obtain ⟨rfl, char, hchar, -⟩ := h
      exact (List.getElem?_eq_some_iff.mp hchar).1
  | anchor condition => exact h.1 ▸ hstart
  | sequence first second ihfirst ihsecond =>
      obtain ⟨between, hfirst, hsecond⟩ := h
      exact ihsecond hsecond (ihfirst hfirst hstart)
  | choice left right ihleft ihright =>
      exact h.elim (fun h => ihleft h hstart) fun h => ihright h hstart
  | counted body least most ih =>
      obtain ⟨count, -, -, hsteps⟩ := h
      exact hsteps.le_bound ih hstart

/-- A member of a set spans one character. -/
theorem spans_member_iff {set : CharSet} : Spans text (.member set) start stop ↔
    stop = start + 1 ∧ ∃ char, text.drop start = char :: text.drop stop ∧
      set.contains char.toNat = true := by
  refine and_congr_right ?_
  rintro rfl
  refine exists_congr fun char => and_congr_left fun _ => ?_
  rw [← List.head?_drop, ← List.tail_drop]
  cases text.drop start <;> simp

/-! ## Sets of positions -/

theorem test_bit_bit (rest : Nat) (first : Bool) (position : Nat) :
    (2 * rest + first.toNat).testBit position =
      match position with
      | 0 => first
      | before + 1 => rest.testBit before := by
  rw [← Nat.bit_val]
  cases position with
  | zero => exact Nat.testBit_bit_zero ..
  | succ before => exact Nat.testBit_bit_succ ..

theorem test_bit_char_positions (set : CharSet) (text : List Char) (position : Nat) :
    (charPositions set text).testBit position = true ↔
      ∃ char, text[position]? = some char ∧ set.contains char.toNat = true := by
  induction text generalizing position with
  | nil => simp [charPositions]
  | cons char rest ih =>
      rw [charPositions, test_bit_bit]
      cases position with
      | zero => simp
      | succ before => simp [ih]

theorem before_cons (outside : Option Char) (char : Char) (rest : List Char) (position : Nat) :
    before? outside (char :: rest) (position + 1) = before? (some char) rest position := by
  cases position <;> rfl

theorem test_bit_anchor_positions (condition : Anchor) (outside : Option Char) (text : List Char)
    (position : Nat) :
    (anchorPositions condition outside text).testBit position = true ↔
      position ≤ text.length ∧
        holds condition (before? outside text position) text[position]? = true := by
  induction text generalizing outside position with
  | nil =>
      have hbit := test_bit_bit 0 (holds condition outside none) position
      rw [Nat.mul_zero, Nat.zero_add] at hbit
      rw [anchorPositions, hbit]
      cases position <;> simp [before?]
  | cons char rest ih =>
      rw [anchorPositions, test_bit_bit]
      cases position with
      | zero => simp [before?]
      | succ position => simp [ih, before_cons]

/-- All positions of the set are positions of the text. -/
def Within (text : List Char) (positions : Nat) : Prop :=
  ∀ position, positions.testBit position = true → position ≤ text.length

/-- On sets of positions of the text the function is the image under the relation. -/
def Computes (text : List Char) (image : Nat → Nat) (step : Nat → Nat → Prop) : Prop :=
  ∀ starts, Within text starts → ∀ stop, (image starts).testBit stop = true ↔
    ∃ start, starts.testBit start = true ∧ step start stop

section Computes

variable {image : Nat → Nat} {step : Nat → Nat → Prop}

theorem Computes.within (h : Computes text image step)
    (hstep : ∀ {start stop}, step start stop → start ≤ text.length → stop ≤ text.length)
    {starts : Nat} (hstarts : Within text starts) : Within text (image starts) := by
  intro stop hstop
  obtain ⟨start, hstart, hspan⟩ := (h starts hstarts stop).mp hstop
  exact hstep hspan (hstarts start hstart)

theorem Computes.iterate (h : Computes text image step)
    (hstep : ∀ {start stop}, step start stop → start ≤ text.length → stop ≤ text.length)
    (count : Nat) : Computes text (Nat.repeat image count) (Steps step count) := by
  induction count with
  | zero => exact fun starts _ stop => by simp [Nat.repeat, Steps]
  | succ count ih =>
      intro starts hstarts stop
      have hwithin := ih.within (fun hsteps => hsteps.le_bound hstep) hstarts
      simp only [Nat.repeat, h _ hwithin, ih starts hstarts, Steps]
      constructor
      · rintro ⟨between, ⟨start, hstart, hsteps⟩, hlast⟩
        exact ⟨start, hstart, between, hsteps, hlast⟩
      · rintro ⟨start, hstart, between, hsteps, hlast⟩
        exact ⟨between, ⟨start, hstart, hsteps⟩, hlast⟩

/-- Collecting what is reached takes any number of steps up to the number of rounds. -/
theorem Computes.collect (h : Computes text image step)
    (hstep : ∀ {start stop}, step start stop → start ≤ text.length → stop ≤ text.length)
    (rounds : Nat) : Computes text (Nat.repeat (fun reached => reached ||| image reached) rounds)
      fun start stop => ∃ count, count ≤ rounds ∧ Steps step count start stop := by
  induction rounds with
  | zero => exact fun starts _ stop => by simp [Nat.repeat, Steps]
  | succ rounds ih =>
      intro starts hstarts stop
      have hwithin := ih.within (fun ⟨_, _, hsteps⟩ => hsteps.le_bound hstep) hstarts
      simp only [Nat.repeat, Nat.testBit_or, Bool.or_eq_true, h _ hwithin, ih starts hstarts]
      constructor
      · rintro (⟨start, hstart, count, hcount, hsteps⟩ |
          ⟨between, ⟨start, hstart, count, hcount, hsteps⟩, hlast⟩)
        · exact ⟨start, hstart, count, by omega, hsteps⟩
        · exact ⟨start, hstart, count + 1, by omega, between, hsteps, hlast⟩
      · rintro ⟨start, hstart, count, hcount, hsteps⟩
        rcases Nat.eq_or_lt_of_le hcount with rfl | hlt
        · obtain ⟨between, hsteps, hlast⟩ := hsteps
          exact .inr ⟨between, ⟨start, hstart, rounds, le_rfl, hsteps⟩, hlast⟩
        · exact .inl ⟨start, hstart, count, by omega, hsteps⟩

end Computes

/-- The evaluation of a pattern computes its spans. -/
theorem computes_ends (text : List Char) (pattern : Pattern) :
    Computes text (ends text pattern) (Spans text pattern) := by
  induction pattern with
  | empty => exact fun starts _ stop => by simp [ends, Spans]
  | member set =>
      intro starts _ stop
      cases stop with
      | zero => simp [ends, Spans]
      | succ stop =>
          rw [ends, Nat.testBit_succ, Nat.mul_div_cancel_left _ Nat.two_pos, Nat.testBit_and,
            Bool.and_eq_true, test_bit_char_positions]
          simp [Spans]
  | anchor condition =>
      intro starts hstarts stop
      simp only [ends, Spans, Nat.testBit_and, Bool.and_eq_true, test_bit_anchor_positions]
      constructor
      · rintro ⟨hstop, -, hholds⟩
        exact ⟨stop, hstop, rfl, hholds⟩
      · rintro ⟨start, hstart, rfl, hholds⟩
        exact ⟨hstart, hstarts start hstart, hholds⟩
  | sequence first second ihfirst ihsecond =>
      intro starts hstarts stop
      have hwithin := ihfirst.within Spans.le_length hstarts
      simp only [ends, Spans, ihsecond _ hwithin, ihfirst starts hstarts]
      constructor
      · rintro ⟨between, ⟨start, hstart, hfirst⟩, hsecond⟩
        exact ⟨start, hstart, between, hfirst, hsecond⟩
      · rintro ⟨start, hstart, between, hfirst, hsecond⟩
        exact ⟨between, ⟨start, hstart, hfirst⟩, hsecond⟩
  | choice left right ihleft ihright =>
      intro starts hstarts stop
      simp only [ends, Spans, Nat.testBit_or, Bool.or_eq_true, ihleft starts hstarts,
        ihright starts hstarts, and_or_left, exists_or]
  | counted body least most ih =>
      intro starts hstarts stop
      have hiterate := ih.iterate Spans.le_length least
      have hwithin := hiterate.within (fun hsteps => hsteps.le_bound Spans.le_length) hstarts
      simp only [ends, Spans, (ih.collect Spans.le_length _) _ hwithin, hiterate starts hstarts]
      constructor
      · rintro ⟨between, ⟨start, hstart, hfirst⟩, count, hcount, hfurther⟩
        refine ⟨start, hstart, least + count, by omega, ?_,
          steps_add.mpr ⟨between, hfirst, hfurther⟩⟩
        rintro bound rfl
        simp only at hcount
        omega
      · rintro ⟨start, hstart, count, hleast, hmost, hsteps⟩
        obtain ⟨further, rfl⟩ := Nat.exists_eq_add_of_le hleast
        obtain ⟨between, hfirst, hfurther⟩ := steps_add.mp hsteps
        refine ⟨between, ⟨start, hstart, hfirst⟩, ?_⟩
        cases most with
        | some bound =>
            have := hmost bound rfl
            exact ⟨further, by simp only; omega, hfurther⟩
        | none =>
            -- A repetition without bound needs no more steps than there are positions.
            obtain ⟨fewer, hfewer, hshort⟩ := hfurther.shorten Spans.le
            have hbetween := hfirst.le_bound Spans.le_length (hstarts start hstart)
            have hstop := hfurther.le_bound Spans.le_length hbetween
            exact ⟨fewer, by simp only; omega, hshort⟩

/-- A pattern occurs in a text exactly if it spans some stretch of it. -/
theorem occurs_in_iff {text : List Char} {pattern : Pattern} : pattern.occursIn text = true ↔
    ∃ start stop, start ≤ text.length ∧ Spans text pattern start stop := by
  have hall : ∀ position, (Nat.pow 2 (text.length + 1) - 1).testBit position = true ↔
      position ≤ text.length := by
    intro position
    show (2 ^ (text.length + 1) - 1).testBit position = true ↔ _
    rw [Nat.testBit_two_pow_sub_one, decide_eq_true_iff, Nat.lt_succ_iff]
  have hends := computes_ends text pattern _ fun position => (hall position).mp
  simp only [hall] at hends
  rw [occursIn, bne_iff_ne]
  constructor
  · intro hne
    obtain ⟨stop, hstop⟩ := Nat.exists_testBit_of_ne_zero hne
    obtain ⟨start, hstart, hspans⟩ := (hends stop).mp hstop
    exact ⟨start, stop, hstart, hspans⟩
  · rintro ⟨start, stop, hstart, hspans⟩ hzero
    have hstop := (hends stop).mpr ⟨start, hstart, hspans⟩
    rw [hzero, Nat.zero_testBit] at hstop
    cases hstop

end Pattern

end EntityGate
