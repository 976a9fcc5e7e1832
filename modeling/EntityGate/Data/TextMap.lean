import EntityGate.Text.Order

/-!
# Maps sorted by text

A map from texts to values that is kept in the order of its keys' UTF-8 bytes.
-/

namespace EntityGate

/-- The keys of entries come in order, each once. -/
def TextMap.InOrder {α : Type} (entries : List (String × α)) : Prop :=
  entries.Pairwise fun entry later => Text.compareTexts entry.1 later.1 = .lt

/-- Entries sorted by key, each key once. -/
structure TextMap (α : Type) where
  entries : List (String × α)
  sorted : TextMap.InOrder entries
  deriving DecidableEq, Repr

namespace TextMap

variable {α : Type}

/-- The map without entries. -/
def empty : TextMap α := ⟨[], .nil⟩

instance : Inhabited (TextMap α) := ⟨empty⟩

/-- Puts an entry in its place, over any entry of the same key. -/
def insertEntry (key : String) (value : α) : List (String × α) → List (String × α)
  | [] => [(key, value)]
  | (name, old) :: rest =>
    match Text.compareTexts key name with
    | .lt => (key, value) :: (name, old) :: rest
    | .eq => (key, value) :: rest
    | .gt => (name, old) :: insertEntry key value rest

theorem mem_insert_entry {key : String} {value : α} {entries : List (String × α)}
    {entry : String × α} (h : entry ∈ insertEntry key value entries) :
    entry = (key, value) ∨ entry ∈ entries := by
  induction entries with
  | nil => exact .inl (List.mem_singleton.mp h)
  | cons first rest ih =>
      obtain ⟨name, old⟩ := first
      unfold insertEntry at h
      split at h
      · exact List.mem_cons.mp h
      · rcases List.mem_cons.mp h with rfl | h
        · exact .inl rfl
        · exact .inr (List.mem_cons_of_mem _ h)
      · rcases List.mem_cons.mp h with rfl | h
        · exact .inr List.mem_cons_self
        · exact (ih h).imp_right (List.mem_cons_of_mem _)

theorem InOrder.insert_entry {entries : List (String × α)} (h : InOrder entries) (key : String)
    (value : α) : InOrder (insertEntry key value entries) := by
  induction entries with
  | nil => exact List.pairwise_singleton _ _
  | cons first rest ih =>
      obtain ⟨name, old⟩ := first
      obtain ⟨hfirst, hrest⟩ := List.pairwise_cons.mp h
      unfold insertEntry
      split
      · next hlt =>
        refine List.pairwise_cons.mpr ⟨fun entry hentry => ?_, h⟩
        rcases List.mem_cons.mp hentry with rfl | hentry
        · exact hlt
        · exact Text.compare_texts_trans hlt (hfirst entry hentry)
      · next heq =>
        obtain rfl := Text.eq_of_compare_texts heq
        exact List.pairwise_cons.mpr ⟨hfirst, hrest⟩
      · next hgt =>
        refine List.pairwise_cons.mpr ⟨fun entry hentry => ?_, ih hrest⟩
        rcases mem_insert_entry hentry with rfl | hentry
        · rw [← Text.compare_texts_swap, hgt]
          rfl
        · exact hfirst entry hentry

/-- The map with a value under a key. -/
def insert (map : TextMap α) (key : String) (value : α) : TextMap α :=
  ⟨insertEntry key value map.entries, map.sorted.insert_entry key value⟩

/-- The value under a key. -/
def find? (map : TextMap α) (key : String) : Option α := map.entries.lookup key

/-- Whether the key is present. -/
def contains (map : TextMap α) (key : String) : Bool := (map.find? key).isSome

/-- The map without a key. -/
def erase (map : TextMap α) (key : String) : TextMap α :=
  ⟨map.entries.filter fun entry => entry.1 != key, List.Pairwise.filter _ map.sorted⟩

/-- The keys in order. -/
def keys (map : TextMap α) : List String := map.entries.map Prod.fst

/-- Whether there is no entry. -/
def isEmpty (map : TextMap α) : Bool := map.entries.isEmpty

/-- The map of entries inserted one after the other. -/
def ofList (entries : List (String × α)) : TextMap α :=
  entries.foldl (fun map entry => map.insert entry.1 entry.2) empty

end TextMap

end EntityGate
