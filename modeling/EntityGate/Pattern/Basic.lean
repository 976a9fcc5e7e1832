import EntityGate.Pattern.CharSet

/-!
# Patterns

A pattern matches stretches of a text. Its meaning is a map on sets of positions: from the
positions where a match may start to those where it may end. Sets of positions are natural
numbers read as bit sets, so that repetition is a bounded iteration and the search for a match
anywhere is one evaluation from all positions.
-/

namespace EntityGate

/-- A condition on a position that consumes nothing. -/
inductive Anchor where
  | textStart
  | textEnd
  | lineStart
  | lineEnd
  | wordBoundary (unicode : Bool)
  | notWordBoundary (unicode : Bool)
  | wordStart (unicode : Bool)
  | wordEnd (unicode : Bool)
  | wordStartHalf (unicode : Bool)
  | wordEndHalf (unicode : Bool)
  deriving DecidableEq, Repr

/-- A pattern. -/
inductive Pattern where
  | empty
  | member (set : CharSet)
  | anchor (anchor : Anchor)
  | sequence (first second : Pattern)
  | choice (left right : Pattern)
  | counted (body : Pattern) (least : Nat) (most : Option Nat)
  deriving Repr, Inhabited

namespace Pattern

/-- Whether a neighbouring character belongs to a word. -/
def isWordAt (unicode : Bool) : Option Char → Bool
  | none => false
  | some char => (CharSet.wordChars unicode).contains char.toNat

/-- Whether the condition holds between the two neighbouring characters. -/
def holds (condition : Anchor) (before after : Option Char) : Bool :=
  match condition with
  | .textStart => before.isNone
  | .textEnd => after.isNone
  | .lineStart => before.isNone || before == some '\n'
  | .lineEnd => after.isNone || after == some '\n'
  | .wordBoundary unicode => isWordAt unicode before != isWordAt unicode after
  | .notWordBoundary unicode => isWordAt unicode before == isWordAt unicode after
  | .wordStart unicode => !isWordAt unicode before && isWordAt unicode after
  | .wordEnd unicode => isWordAt unicode before && !isWordAt unicode after
  | .wordStartHalf unicode => !isWordAt unicode before
  | .wordEndHalf unicode => !isWordAt unicode after

/-- The positions of the characters that are members of a set. -/
def charPositions (set : CharSet) : List Char → Nat
  | [] => 0
  | char :: rest => 2 * charPositions set rest + (set.contains char.toNat).toNat

/-- The positions where a condition holds, the character before the first one being given. -/
def anchorPositions (condition : Anchor) : Option Char → List Char → Nat
  | before, [] => (holds condition before none).toNat
  | before, char :: rest =>
    2 * anchorPositions condition (some char) rest + (holds condition before (some char)).toNat

/-- The positions where a match may end when it starts in one of the given positions. -/
def ends (text : List Char) : Pattern → Nat → Nat
  | .empty => fun starts => starts
  | .member set =>
    let members := charPositions set text
    fun starts => 2 * (starts &&& members)
  | .anchor condition =>
    let members := anchorPositions condition none text
    fun starts => starts &&& members
  | .sequence first second =>
    let firstEnds := ends text first
    let secondEnds := ends text second
    fun starts => secondEnds (firstEnds starts)
  | .choice left right =>
    let leftEnds := ends text left
    let rightEnds := ends text right
    fun starts => leftEnds starts ||| rightEnds starts
  | .counted body least most =>
    let bodyEnds := ends text body
    let further := match most with
      | some bound => bound - least
      | none => text.length + 1
    fun starts =>
      Nat.repeat (fun reached => reached ||| bodyEnds reached) further
        (Nat.repeat bodyEnds least starts)

/-- Whether the pattern matches some stretch of the text. -/
def occursIn (pattern : Pattern) (text : List Char) : Bool :=
  ends text pattern (Nat.pow 2 (text.length + 1) - 1) != 0

/-- How much room the compiled pattern takes, roughly, in states. -/
def weight : Pattern → Nat
  | .empty => 1
  | .member set => set.weight
  | .anchor _ => 1
  | .sequence first second => weight first + weight second
  | .choice left right => weight left + weight right + 1
  | .counted body least most => (weight body + 1) * max 1 (max least (most.getD least))

/-- The patterns one after the other. -/
def sequenceAll (patterns : List Pattern) : Pattern := patterns.foldr .sequence .empty

end Pattern

end EntityGate
