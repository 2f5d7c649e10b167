/-!
# Tables in insertion order

A table maps keys to values and remembers the order in which its keys were first inserted.
Replacing the value of a key keeps its place; removing a key forgets it.
-/

namespace Nominal

/-- A list of entries, looked up by key. -/
structure Table (Key : Type) (Value : Type) where
  entries : List (Key × Value) := []
  deriving Repr, DecidableEq

namespace Table

variable {Key Value : Type} [DecidableEq Key]

/-- The table without entries. -/
def empty : Table Key Value := {}

instance : Inhabited (Table Key Value) := ⟨empty⟩

/-- Replaces the value of the first entry of a key, or appends an entry. -/
def setEntry (key : Key) (value : Value) : List (Key × Value) → List (Key × Value)
  | [] => [(key, value)]
  | entry :: rest =>
    if entry.1 = key then (key, value) :: rest else entry :: setEntry key value rest

/-- The value of a key. -/
def get? (table : Table Key Value) (key : Key) : Option Value :=
  (table.entries.find? (·.1 = key)).map (·.2)

/-- Whether a key is present. -/
def contains (table : Table Key Value) (key : Key) : Bool :=
  table.entries.any (·.1 = key)

/-- Sets the value of a key: in place if it is present, at the end otherwise. -/
def set (table : Table Key Value) (key : Key) (value : Value) : Table Key Value :=
  ⟨setEntry key value table.entries⟩

/-- Removes a key. -/
def erase (table : Table Key Value) (key : Key) : Table Key Value :=
  ⟨table.entries.filter (·.1 ≠ key)⟩

/-- The keys in insertion order. -/
def keys (table : Table Key Value) : List Key :=
  table.entries.map (·.1)

/-- The values in insertion order. -/
def values (table : Table Key Value) : List Value :=
  table.entries.map (·.2)

/-- The number of entries. -/
def size (table : Table Key Value) : Nat :=
  table.entries.length

omit [DecidableEq Key] in
@[simp]
theorem keys_length (table : Table Key Value) : table.keys.length = table.size := by
  simp [keys, size]

omit [DecidableEq Key] in
@[simp]
theorem values_length (table : Table Key Value) : table.values.length = table.size := by
  simp [values, size]

end Table

end Nominal
