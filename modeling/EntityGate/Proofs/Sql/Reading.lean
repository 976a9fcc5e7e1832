import EntityGate.Proofs.Sql.Tokens

/-!
# Reading conditions

The part of SQL's grammar that says how conditions combine. Parentheses bind first, then the word
AND, then the word OR, and the AND behind a BETWEEN belongs to it. The comparison `1 = 0` is false,
`1 = 1` is true, and a statement without a clause has the condition that is always true. All other
comparisons are atoms. `readClause` reads the text of a clause; `Reads` says what its pieces read
as wherever they stand.
-/

namespace EntityGate.Sql

/-! ## Conditions -/

/-- A combination of atoms. -/
inductive Condition (α : Type) where
  | constant (value : Bool)
  | atom (content : α)
  | both (first second : Condition α)
  | either (first second : Condition α)

namespace Condition

variable {α β : Type}

/-- The truth value under an assignment to the atoms. -/
def eval (truth : α → Bool) : Condition α → Bool
  | constant value => value
  | atom content => truth content
  | both first second => first.eval truth && second.eval truth
  | either first second => first.eval truth || second.eval truth

/-- The condition with other atoms in the same places. -/
def map (change : α → β) : Condition α → Condition β
  | constant value => .constant value
  | atom content => .atom (change content)
  | both first second => .both (first.map change) (second.map change)
  | either first second => .either (first.map change) (second.map change)

/-- The atoms from left to right. -/
def atoms : Condition α → List α
  | constant _ => []
  | atom content => [content]
  | both first second => first.atoms ++ second.atoms
  | either first second => first.atoms ++ second.atoms

/-- The condition that all of the given ones are true. -/
def allOf : List (Condition α) → Condition α
  | [] => .constant true
  | condition :: rest => .both condition (allOf rest)

/-- The condition that one of the given ones is true. -/
def someOf : List (Condition α) → Condition α
  | [] => .constant false
  | condition :: rest => .either condition (someOf rest)

variable (truth : α → Bool) (change : α → β) (conditions : List (Condition α))

@[simp] theorem eval_all_of : (allOf conditions).eval truth = conditions.all (eval truth) := by
  induction conditions with
  | nil => rfl
  | cons condition rest ih => rw [allOf, eval, ih, List.all_cons]

@[simp] theorem eval_some_of : (someOf conditions).eval truth = conditions.any (eval truth) := by
  induction conditions with
  | nil => rfl
  | cons condition rest ih => rw [someOf, eval, ih, List.any_cons]

@[simp] theorem map_all_of :
    (allOf conditions).map change = allOf (conditions.map (map change)) := by
  induction conditions with
  | nil => rfl
  | cons condition rest ih => rw [allOf, map, ih, List.map_cons, allOf]

@[simp] theorem map_some_of :
    (someOf conditions).map change = someOf (conditions.map (map change)) := by
  induction conditions with
  | nil => rfl
  | cons condition rest ih => rw [someOf, map, ih, List.map_cons, someOf]

@[simp] theorem atoms_all_of : (allOf conditions).atoms = conditions.flatMap atoms := by
  induction conditions with
  | nil => rfl
  | cons condition rest ih => rw [allOf, atoms, ih, List.flatMap_cons]

@[simp] theorem atoms_some_of : (someOf conditions).atoms = conditions.flatMap atoms := by
  induction conditions with
  | nil => rfl
  | cons condition rest ih => rw [someOf, atoms, ih, List.flatMap_cons]

end Condition

/-! ## The reader -/

/-- What stands on one level of parentheses: a token, or a group with its condition. -/
inductive Item where
  | token (token : Token)
  | group (tokens : List Token) (condition : Condition (List Token))

/-- The word that joins conditions which must both be true. -/
def andWord : List Char := ['A', 'N', 'D']

/-- The word that joins conditions of which one must be true. -/
def orWord : List Char := ['O', 'R']

/-- The word that owns the next AND. -/
def betweenWord : List Char := ['B', 'E', 'T', 'W', 'E', 'E', 'N']

namespace Item

/-- The tokens of an item, with the parentheses of a group. -/
def tokens : Item → List Token
  | .token written => [written]
  | .group inner _ => .symbol '(' :: (inner ++ [.symbol ')'])

/-- Whether the item is the word. -/
def isWord (word : List Char) : Item → Bool
  | .token (.word chars) => chars == word
  | _ => false

/-- Whether the next AND belongs to a BETWEEN, behind the item. -/
def claims (claimed : Bool) (item : Item) : Bool :=
  item.isWord betweenWord || claimed && !item.isWord andWord

end Item

/-- The parts with an item in front of the first one. -/
def prepend (item : Item) : List (List Item) → List (List Item)
  | [] => [[item]]
  | part :: parts => (item :: part) :: parts

/-- The parts between the connectives of a level. -/
def partsAt (connective : List Char) : Bool → List Item → List (List Item)
  | _, [] => [[]]
  | claimed, item :: rest =>
    if item.isWord connective && !claimed then [] :: partsAt connective false rest
    else prepend item (partsAt connective (item.claims claimed) rest)

/-- The condition of what stands between two connectives. -/
def operand : List Item → Condition (List Token)
  | [.group _ condition] => condition
  | items =>
    let tokens := items.flatMap Item.tokens
    if tokens = [.word ['1'], .symbol '=', .word ['0']] then .constant false
    else if tokens = [.word ['1'], .symbol '=', .word ['1']] then .constant true
    else .atom tokens

/-- The condition of a level. -/
def readLevel (level : List Item) : Condition (List Token) :=
  .someOf ((partsAt orWord false level).map fun part =>
    .allOf ((partsAt andWord false part).map operand))

/-- A level and those around it, of which what is behind an open parenthesis is known. -/
abbrev Levels := List Item × List (List Item)

/-- The levels with one more token, from right to left: a closing parenthesis starts a level, and
the opening one makes it a group. -/
def place (token : Token) (levels : Levels) : Option Levels :=
  if token = .symbol ')' then some ([], levels.1 :: levels.2)
  else if token = .symbol '(' then
    match levels.2 with
    | [] => none
    | enclosing :: outer =>
      some (.group (levels.1.flatMap Item.tokens) (readLevel levels.1) :: enclosing, outer)
  else some (.token token :: levels.1, levels.2)

/-- The levels with the tokens in front. -/
def nest (tokens : List Token) (levels : Option Levels) : Option Levels :=
  tokens.foldr (fun token found => found.bind (place token)) levels

/-- The condition that the tokens write; none when parentheses do not match. -/
def readCondition (tokens : List Token) : Option (Condition (List Token)) :=
  match nest tokens (some ([], [])) with
  | some (level, []) => some (readLevel level)
  | _ => none

/-- The condition of a clause, or of an empty text without one. -/
def readClause (chars : List Char) : Option (Condition (List Token)) :=
  match (tokens? chars).map significant with
  | none => none
  | some [] => some (.constant true)
  | some (token :: rest) =>
    if token = .word ['W', 'H', 'E', 'R', 'E'] then readCondition rest else none

theorem read_clause_where {chars : List Char} {rest : List Token}
    (h : (tokens? chars).map significant = some (.word ['W', 'H', 'E', 'R', 'E'] :: rest)) :
    readClause chars = readCondition rest := by
  rw [readClause, h]
  exact if_pos rfl

/-! ## Levels of parentheses -/

@[simp] theorem nest_append (first second : List Token) (levels : Option Levels) :
    nest (first ++ second) levels = nest first (nest second levels) :=
  List.foldr_append ..

/-- The tokens are those of the items, and are read as them wherever they stand. -/
structure Reads (tokens : List Token) (items : List Item) : Prop where
  nested : ∀ level outer, nest tokens (some (level, outer)) = some (items ++ level, outer)
  whole : items.flatMap Item.tokens = tokens

namespace Reads

variable {tokens first second : List Token} {items firstItems secondItems : List Item}

theorem nil : Reads [] [] := ⟨fun _ _ => rfl, rfl⟩

theorem append (hfirst : Reads first firstItems) (hsecond : Reads second secondItems) :
    Reads (first ++ second) (firstItems ++ secondItems) := by
  constructor
  · intro level outer
    rw [nest_append, hsecond.nested, hfirst.nested, List.append_assoc]
  · rw [List.flatMap_append, hfirst.whole, hsecond.whole]

theorem token {token : Token} (hopening : token ≠ .symbol '(') (hclosing : token ≠ .symbol ')') :
    Reads [token] [.token token] := by
  refine ⟨fun level outer => ?_, rfl⟩
  show place token (level, outer) = _
  rw [place, if_neg hclosing, if_neg hopening]
  rfl

theorem word (chars : List Char) : Reads [.word chars] [.token (.word chars)] :=
  .token nofun nofun

theorem group (h : Reads tokens items) :
    Reads (.symbol '(' :: (tokens ++ [.symbol ')'])) [.group tokens (readLevel items)] := by
  constructor
  · intro level outer
    -- The closing parenthesis, which is read first, puts the level aside for the opening one.
    have hinner : nest (tokens ++ [.symbol ')']) (some (level, outer)) =
        some (items, level :: outer) := by
      rw [nest_append]
      show nest tokens (some ([], level :: outer)) = _
      rw [h.nested, List.append_nil]
    show (nest (tokens ++ [.symbol ')']) (some (level, outer))).bind (place (.symbol '(')) = _
    rw [hinner, Option.bind_some]
    show some (Item.group (items.flatMap Item.tokens) (readLevel items) :: level, outer) = _
    rw [h.whole]
    rfl
  · exact List.append_nil _

theorem ne_nil (h : Reads tokens items) (htokens : tokens ≠ []) : items ≠ [] := by
  rintro rfl
  exact htokens h.whole.symm

theorem read_condition (h : Reads tokens items) :
    readCondition tokens = some (readLevel items) := by
  rw [readCondition, h.nested, List.append_nil]

end Reads

/-! ## Parts between connectives -/

/-- The word joins conditions. -/
def IsConnective (word : List Char) : Prop := word = andWord ∨ word = orWord

/-- Whether the item is no word that joins conditions or owns one that does. -/
def Item.isQuiet (item : Item) : Bool :=
  !item.isWord andWord && !item.isWord orWord && !item.isWord betweenWord

/-- The items in front of the first part. -/
def glue (items : List Item) (parts : List (List Item)) : List (List Item) :=
  items.foldr prepend parts

@[simp] theorem glue_cons (items part : List Item) (parts : List (List Item)) :
    glue items (part :: parts) = (items ++ part) :: parts := by
  induction items with
  | nil => rfl
  | cons item rest ih => rw [glue, List.foldr_cons, ← glue, ih, prepend, List.cons_append]

/-- The items belong to one part of any level they stand on. -/
def Whole (items : List Item) : Prop :=
  ∀ connective, IsConnective connective → ∀ rest,
    partsAt connective false (items ++ rest) = glue items (partsAt connective false rest)

section Parts

variable {connective : List Char} {items first second : List Item}

theorem parts_at_quiet (hconnective : IsConnective connective)
    (h : ∀ item ∈ items, item.isQuiet = true) (claimed : Bool) (rest : List Item) :
    partsAt connective claimed (items ++ rest) = glue items (partsAt connective claimed rest) := by
  induction items with
  | nil => rfl
  | cons item others ih =>
      have hitem := h item List.mem_cons_self
      simp only [Item.isQuiet, Bool.and_eq_true, Bool.not_eq_true'] at hitem
      obtain ⟨⟨hand, hor⟩, hbetween⟩ := hitem
      have hword : item.isWord connective = false := by
        rcases hconnective with rfl | rfl
        · exact hand
        · exact hor
      have hclaims : item.claims claimed = claimed := by
        simp [Item.claims, hand, hbetween]
      rw [List.cons_append, partsAt, hword, hclaims,
        ih fun other hother => h other (List.mem_cons_of_mem _ hother)]
      rfl

theorem Whole.of_quiet (h : ∀ item ∈ items, item.isQuiet = true) : Whole items :=
  fun _ hconnective rest => parts_at_quiet hconnective h false rest

/-- A BETWEEN keeps its own AND. -/
theorem Whole.between (hfirst : ∀ item ∈ first, item.isQuiet = true)
    (hitems : ∀ item ∈ items, item.isQuiet = true)
    (hsecond : ∀ item ∈ second, item.isQuiet = true) :
    Whole (first ++ .token (.word betweenWord) :: (items ++ .token (.word andWord) :: second)) := by
  intro connective hconnective rest
  -- The BETWEEN claims an AND and its own AND takes the claim back: neither of them separates.
  have hbetween (others : List Item) :
      partsAt connective false (.token (.word betweenWord) :: others) =
        prepend (.token (.word betweenWord)) (partsAt connective true others) := by
    rcases hconnective with rfl | rfl <;> rfl
  have hand (others : List Item) :
      partsAt connective true (.token (.word andWord) :: others) =
        prepend (.token (.word andWord)) (partsAt connective false others) := by
    rcases hconnective with rfl | rfl <;> rfl
  simp only [List.append_assoc, List.cons_append]
  rw [parts_at_quiet hconnective hfirst, hbetween, parts_at_quiet hconnective hitems, hand,
    parts_at_quiet hconnective hsecond]
  simp only [glue, List.foldr_append, List.foldr_cons]

theorem Whole.group (tokens : List Token) (condition : Condition (List Token)) :
    Whole [.group tokens condition] :=
  .of_quiet (by simp [Item.isQuiet, Item.isWord])

theorem Whole.parts_at (h : Whole items) (hconnective : IsConnective connective) :
    partsAt connective false items = [items] := by
  have hnil := h connective hconnective []
  rwa [List.append_nil, partsAt, glue_cons, List.append_nil] at hnil

/-- The items of parts with a connective between them. -/
def joinItems (connective : List Char) : List (List Item) → List Item
  | [] => []
  | [part] => part
  | part :: next :: parts =>
    part ++ .token (.word connective) :: joinItems connective (next :: parts)

/-- A level is cut into the parts that were joined. -/
theorem parts_at_joined (hconnective : IsConnective connective) {part : List Item}
    {parts : List (List Item)} (h : ∀ found ∈ part :: parts, Whole found) :
    partsAt connective false (joinItems connective (part :: parts)) = part :: parts := by
  induction parts generalizing part with
  | nil => exact (h part List.mem_cons_self).parts_at hconnective
  | cons next others ih =>
      have hcut (rest : List Item) :
          partsAt connective false (.token (.word connective) :: rest) =
            [] :: partsAt connective false rest := by
        rcases hconnective with rfl | rfl <;> rfl
      rw [joinItems, h part List.mem_cons_self connective hconnective, hcut,
        ih fun found hfound => h found (List.mem_cons_of_mem _ hfound), glue_cons, List.append_nil]

/-- Parts joined by AND are one part for OR. -/
theorem parts_at_other {part : List Item} {parts : List (List Item)}
    (h : ∀ found ∈ part :: parts, Whole found) :
    partsAt orWord false (joinItems andWord (part :: parts)) =
      [joinItems andWord (part :: parts)] := by
  induction parts generalizing part with
  | nil => exact (h part List.mem_cons_self).parts_at (.inr rfl)
  | cons next others ih =>
      have hkeep (rest : List Item) :
          partsAt orWord false (.token (.word andWord) :: rest) =
            prepend (.token (.word andWord)) (partsAt orWord false rest) := rfl
      rw [joinItems, h part List.mem_cons_self orWord (.inr rfl), hkeep,
        ih fun found hfound => h found (List.mem_cons_of_mem _ hfound), prepend, glue_cons]

theorem read_level_and {parts : List (List Item)} (hne : parts ≠ [])
    (h : ∀ found ∈ parts, Whole found) :
    readLevel (joinItems andWord parts) = .someOf [.allOf (parts.map operand)] := by
  obtain ⟨part, others, rfl⟩ := List.exists_cons_of_ne_nil hne
  rw [readLevel, parts_at_other h, List.map_cons, List.map_nil, parts_at_joined (.inl rfl) h]

theorem read_level_or {parts : List (List Item)} (hne : parts ≠ [])
    (h : ∀ found ∈ parts, Whole found) :
    readLevel (joinItems orWord parts) =
      .someOf ((parts.map operand).map fun condition => .allOf [condition]) := by
  obtain ⟨part, others, rfl⟩ := List.exists_cons_of_ne_nil hne
  rw [readLevel, parts_at_joined (.inr rfl) h, List.map_map]
  congr 1
  refine List.map_congr_left fun found hfound => ?_
  rw [(h found hfound).parts_at (.inl rfl), List.map_cons, List.map_nil]
  rfl

end Parts

end EntityGate.Sql
