import Std.Data.HashMap
import Nominal.Collection.LinkedLists
import Nominal.Collection.Table

/-!
# Maps with linked entries

A map that finds an entry by its key in constant time and keeps the entries in insertion order, by
linking them.  Its content is the table `LinkedMap.toTable`.

A traversal walks the links and may edit the map while it does.  It goes on with the entry that
follows the visited one at that time, and ends if the visited entry has been removed, even if its
key was inserted again.
-/

namespace Nominal

/-- An index from keys to cells, and one linked list of entries. -/
structure LinkedMap (Key Value : Type) [BEq Key] [Hashable Key] where
  index : Std.HashMap Key Nat := ∅
  lists : LinkedLists (Key × Value) := LinkedLists.unused 1

/-- A change of a map. -/
inductive Edit (Key Value : Type) where
  | set (key : Key) (value : Value)
  | delete (key : Key)
  deriving Repr

namespace LinkedMap

variable {Key Value : Type} [BEq Key] [Hashable Key]

/-- The map without entries. -/
def empty : LinkedMap Key Value := {}

/-- The map without entries, made ready for use at once. -/
def ready : LinkedMap Key Value :=
  { lists := (LinkedLists.unused 1).clear 0 }

/-- The entry in a cell. -/
def entryAt? (map : LinkedMap Key Value) (position : Nat) : Option (Key × Value) :=
  (map.lists.cells[position]?).map (·.value)

/-- The entry at a site. -/
def siteEntry? (map : LinkedMap Key Value) : Site → Option (Key × Value)
  | .anchor _ => none
  | .cell position => map.entryAt? position

/-- The value of a key. -/
def get? (map : LinkedMap Key Value) (key : Key) : Option Value := do
  let position ← map.index[key]?
  let entry ← map.entryAt? position
  return entry.2

/-- Whether a key is present. -/
def contains (map : LinkedMap Key Value) (key : Key) : Bool :=
  map.index.contains key

/-- Sets the value of a key, in place if it is present and at the end otherwise.  Also returns the
value that it had. -/
def set (map : LinkedMap Key Value) (key : Key) (value : Value) :
    Option Value × LinkedMap Key Value :=
  match map.index[key]? with
  | some position =>
    (map.get? key,
      { map with
        lists := { map.lists with
          cells := map.lists.cells.modify position fun cell =>
            { cell with value := (cell.value.1, value) } } })
  | none =>
    match map.lists.push? 0 (key, value) with
    | some (position, lists) => (none, { index := map.index.insert key position, lists })
    | none => (none, map)

/-- Removes a key and returns the value that it had. -/
def delete (map : LinkedMap Key Value) (key : Key) : Option Value × LinkedMap Key Value :=
  match map.index[key]? with
  | some position =>
    (map.get? key, { index := map.index.erase key, lists := map.lists.remove 0 position })
  | none => (none, map)

/-- The number of entries. -/
def size (map : LinkedMap Key Value) : Nat :=
  map.index.size

/-- The entries in insertion order. -/
def entries (map : LinkedMap Key Value) : List (Key × Value) :=
  (map.lists.sites 0).filterMap map.siteEntry?

/-- The content of the map. -/
def toTable (map : LinkedMap Key Value) : Table Key Value :=
  ⟨map.entries⟩

/-- The keys in insertion order. -/
def keys (map : LinkedMap Key Value) : List Key :=
  map.entries.map (·.1)

/-- The values in insertion order. -/
def values (map : LinkedMap Key Value) : List Value :=
  map.entries.map (·.2)

/-- The oldest entry. -/
def oldest? (map : LinkedMap Key Value) : Option (Key × Value) :=
  (map.lists.front? 0).bind map.siteEntry?

/-- Applies one change. -/
def apply (map : LinkedMap Key Value) : Edit Key Value → LinkedMap Key Value
  | .set key value => (map.set key value).2
  | .delete key => (map.delete key).2

/-- Visits the entries from a site on.  The calls are made one after the other: each is given the
entry that is visited, and the edits that it asks for are applied before the traversal goes on.
When all calls are made, the remaining entries are visited without a change.  Returns the visited
entries and the edited map. -/
def traverseFrom :
    List (Key → Value → List (Edit Key Value)) → Option Site → LinkedMap Key Value →
      List (Key × Value) × LinkedMap Key Value
  | _, none, map => ([], map)
  | [], some site, map =>
    let remaining := map.lists.sitesFrom (map.lists.cells.size + 1) (some site)
    (remaining.filterMap map.siteEntry?, map)
  | call :: calls, some site, map =>
    match map.siteEntry? site with
    | none => ([], map)
    | some entry =>
      let edited := (call entry.1 entry.2).foldl apply map
      let (visited, final) := traverseFrom calls (edited.lists.next? site) edited
      (entry :: visited, final)

/-- Visits the entries from the oldest one on, making the calls one after the other. -/
def traverseCalls (map : LinkedMap Key Value)
    (calls : List (Key → Value → List (Edit Key Value))) :
    List (Key × Value) × LinkedMap Key Value :=
  traverseFrom calls (map.lists.front? 0) map

/-- Visits the entries from the oldest one on, making the same call for each of the first `budget`
entries. -/
def traverse (map : LinkedMap Key Value) (visit : Key → Value → List (Edit Key Value))
    (budget : Nat) : List (Key × Value) × LinkedMap Key Value :=
  map.traverseCalls (List.replicate budget visit)

/-- Visits entries until one of them is refused.  Returns the visited keys, the refused one
included, and whether there was one. -/
def visitUntil (map : LinkedMap Key Value) (refused : Key → Bool) : List Key × Bool :=
  go map.keys
where
  /-- The visited part of the remaining keys. -/
  go : List Key → List Key × Bool
    | [] => ([], false)
    | key :: rest =>
      if refused key then ([key], true)
      else
        let (visited, stopped) := go rest
        (key :: visited, stopped)

end LinkedMap

end Nominal
