/-!
# Linked lists over shared cells

A family of doubly linked lists of values.  Every list has an anchor, and every pushed value lives
in a cell; anchors and cells refer to each other by position.  A cell remembers the list that owns
it, so removing it through another list does nothing.

Clearing a list only resets its anchor.  The cells that were in it keep their links and their
owner; removing such a cell afterwards still relinks its former neighbours.
-/

namespace Nominal

/-- One end of a link: the anchor of a list, or a cell. -/
inductive Site where
  | anchor (list : Nat)
  | cell (position : Nat)
  deriving Repr, DecidableEq

/-- A cell and its two neighbours.  A cell that was removed has neither neighbours nor owner. -/
structure Cell (Value : Type) where
  value : Value
  next : Option Site
  previous : Option Site
  owner : Option Nat
  deriving Repr

/-- The two ends of a list.  A list that was never used has no links yet. -/
structure Anchor where
  next : Option Site := none
  previous : Option Site := none
  length : Int := 0
  deriving Repr, Inhabited

/-- The cells of all lists, and the anchor of each list. -/
structure LinkedLists (Value : Type) where
  cells : Array (Cell Value) := #[]
  anchors : Array Anchor := #[]
  deriving Repr

namespace LinkedLists

variable {Value : Type}

/-- Lists that have not been used yet. -/
def unused (count : Nat) : LinkedLists Value :=
  { anchors := Array.replicate count {} }

/-- What follows a site. -/
def nextOf (lists : LinkedLists Value) : Site → Option Site
  | .anchor list => (lists.anchors[list]?).bind (·.next)
  | .cell position => (lists.cells[position]?).bind (·.next)

/-- Makes `target` follow `site`. -/
def setNext (lists : LinkedLists Value) (site : Site) (target : Option Site) : LinkedLists Value :=
  match site with
  | .anchor list => { lists with anchors := lists.anchors.modify list ({ · with next := target }) }
  | .cell position => { lists with cells := lists.cells.modify position ({ · with next := target }) }

/-- Makes `target` precede `site`. -/
def setPrevious (lists : LinkedLists Value) (site : Site) (target : Option Site) :
    LinkedLists Value :=
  match site with
  | .anchor list =>
    { lists with anchors := lists.anchors.modify list ({ · with previous := target }) }
  | .cell position =>
    { lists with cells := lists.cells.modify position ({ · with previous := target }) }

/-- Changes the length of a list. -/
def addLength (lists : LinkedLists Value) (list : Nat) (change : Int) : LinkedLists Value :=
  { lists with
    anchors := lists.anchors.modify list fun anchor =>
      { anchor with length := anchor.length + change } }

/-- Clears a list, or makes it ready for use. -/
def clear (lists : LinkedLists Value) (list : Nat) : LinkedLists Value :=
  { lists with
    anchors := lists.anchors.modify list fun _ =>
      { next := some (.anchor list), previous := some (.anchor list), length := 0 } }

/-- Makes a list ready for use unless it already is. -/
def prepare (lists : LinkedLists Value) (list : Nat) : LinkedLists Value :=
  match (lists.anchors[list]?).bind (·.next) with
  | none => lists.clear list
  | some _ => lists

/-- Appends a value to a list and returns the position of its cell.  There is no result if the
cell before the end of the list was removed behind its back. -/
def push? (lists : LinkedLists Value) (list : Nat) (value : Value) :
    Option (Nat × LinkedLists Value) := do
  let ready := lists.prepare list
  let last ← (ready.anchors[list]?).bind (·.previous)
  let following ← ready.nextOf last
  let position := ready.cells.size
  let cell : Cell Value :=
    { value, next := some following, previous := some last, owner := some list }
  let grown := { ready with cells := ready.cells.push cell }
  let linked := (grown.setNext last (some (.cell position))).setPrevious following
    (some (.cell position))
  return (position, linked.addLength list 1)

/-- Removes a cell from a list, if the list owns it. -/
def remove (lists : LinkedLists Value) (list : Nat) (position : Nat) : LinkedLists Value :=
  match lists.cells[position]? with
  | none => lists
  | some cell =>
    if cell.owner = some list then
      match cell.previous, cell.next with
      | some before, some after =>
        let bridged := (lists.setNext before (some after)).setPrevious after (some before)
        let detached := { bridged with
          cells := bridged.cells.modify position fun old =>
            { old with next := none, previous := none, owner := none } }
        detached.addLength list (-1)
      | _, _ => lists
    else lists

/-- The first site of a list: nothing if its length is zero. -/
def front? (lists : LinkedLists Value) (list : Nat) : Option Site :=
  match lists.anchors[list]? with
  | none => none
  | some anchor => if anchor.length = 0 then none else anchor.next

/-- The site after a cell, unless the cell is the last one of its list.  An anchor and a removed
cell have no successor. -/
def next? (lists : LinkedLists Value) : Site → Option Site
  | .anchor _ => none
  | .cell position =>
    match lists.cells[position]? with
    | none => none
    | some cell =>
      match cell.owner with
      | none => none
      | some list => if cell.next = some (.anchor list) then none else cell.next

/-- The value at a site; an anchor holds the default value. -/
def valueAt [Inhabited Value] (lists : LinkedLists Value) : Site → Value
  | .anchor _ => default
  | .cell position =>
    match lists.cells[position]? with
    | some cell => cell.value
    | none => default

/-- At most `steps` sites, starting at the given one and following the links. -/
def sitesFrom (lists : LinkedLists Value) : Nat → Option Site → List Site
  | 0, _ => []
  | _, none => []
  | steps + 1, some site => site :: lists.sitesFrom steps (lists.next? site)

/-- The sites of a list, in order. -/
def sites (lists : LinkedLists Value) (list : Nat) : List Site :=
  lists.sitesFrom (lists.cells.size + 1) (lists.front? list)

/-- The content of a list. -/
def values [Inhabited Value] (lists : LinkedLists Value) (list : Nat) : List Value :=
  (lists.sites list).map lists.valueAt

end LinkedLists

end Nominal
