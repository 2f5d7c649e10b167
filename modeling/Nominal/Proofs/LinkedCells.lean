import Mathlib.Data.Nat.Basic
import Mathlib.Logic.Function.Basic
import Nominal.Collection.LinkedLists

/-!
# Links between cells

What is seen of linked lists: what follows and what precedes a site, which list owns a cell, what a
cell holds and how long a list is taken to be.  Putting a cell between two neighbours, taking it
out, replacing its value and clearing a list each change a few of these.
-/

namespace Nominal

/-- The list that a site belongs to. -/
def Site.owner (owner : Nat → Option Nat) : Site → Option Nat
  | .anchor list => some list
  | .cell position => owner position

namespace Site

variable {owner : Nat → Option Nat} {position : Nat} {newOwner : Option Nat} {site : Site}

theorem owner_update_self :
    (cell position).owner (Function.update owner position newOwner) = newOwner := by
  rw [Site.owner, Function.update_self]

theorem owner_update_of_ne (other : site ≠ cell position) :
    site.owner (Function.update owner position newOwner) = site.owner owner := by
  cases site with
  | anchor list => rfl
  | cell place =>
      exact Function.update_of_ne (fun same => other (congrArg cell same)) newOwner owner

end Site

/-- What is seen of linked lists. -/
@[ext]
structure Picture (Value : Type) where
  next : Site → Option Site
  previous : Site → Option Site
  owner : Nat → Option Nat
  value : Nat → Option Value
  length : Nat → Int
  cells : Nat
  anchors : Nat

namespace Picture

variable {Value : Type}

/-- A new cell between two neighbours. -/
def insert (picture : Picture Value) (list : Nat) (value : Value) (earlier later : Site) :
    Picture Value :=
  let site := Site.cell picture.cells
  { next := Function.update (Function.update picture.next site (some later)) earlier (some site)
    previous :=
      Function.update (Function.update picture.previous site (some earlier)) later (some site)
    owner := Function.update picture.owner picture.cells (some list)
    value := Function.update picture.value picture.cells (some value)
    length := Function.update picture.length list (picture.length list + 1)
    cells := picture.cells + 1
    anchors := picture.anchors }

/-- A cell taken out from between its neighbours. -/
def remove (picture : Picture Value) (list position : Nat) (earlier later : Site) :
    Picture Value :=
  { picture with
    next :=
      Function.update (Function.update picture.next earlier (some later)) (.cell position) none
    previous :=
      Function.update (Function.update picture.previous later (some earlier)) (.cell position) none
    owner := Function.update picture.owner position none
    length := Function.update picture.length list (picture.length list - 1) }

/-- An anchor that follows itself. -/
def clear (picture : Picture Value) (list : Nat) : Picture Value :=
  { picture with
    next := Function.update picture.next (.anchor list) (some (.anchor list))
    previous := Function.update picture.previous (.anchor list) (some (.anchor list))
    length := Function.update picture.length list 0 }

/-- Another value in a cell. -/
def replace (picture : Picture Value) (position : Nat) (value : Value) : Picture Value :=
  { picture with value := Function.update picture.value position (some value) }

/-- A list that was never used is cleared before it is. -/
def prepare (picture : Picture Value) (list : Nat) : Picture Value :=
  if (picture.next (.anchor list)).isSome then picture else picture.clear list

theorem isSome_next_prepare (picture : Picture Value) (list : Nat) :
    ((picture.prepare list).next (.anchor list)).isSome := by
  rw [prepare]
  split
  next used => exact used
  next =>
    dsimp only [clear]
    rw [Function.update_self]
    rfl

theorem cells_prepare (picture : Picture Value) (list : Nat) :
    (picture.prepare list).cells = picture.cells := by
  rw [prepare]
  split <;> rfl

theorem anchors_prepare (picture : Picture Value) (list : Nat) :
    (picture.prepare list).anchors = picture.anchors := by
  rw [prepare]
  split <;> rfl

theorem owner_prepare (picture : Picture Value) (list : Nat) :
    (picture.prepare list).owner = picture.owner := by
  rw [prepare]
  split <;> rfl

theorem value_prepare (picture : Picture Value) (list : Nat) :
    (picture.prepare list).value = picture.value := by
  rw [prepare]
  split <;> rfl

end Picture

namespace LinkedLists

variable {Value : Type} {lists : LinkedLists Value}

/-- What precedes a site. -/
def previousOf (lists : LinkedLists Value) : Site → Option Site
  | .anchor list => (lists.anchors[list]?).bind (·.previous)
  | .cell position => (lists.cells[position]?).bind (·.previous)

/-- What is seen of the lists. -/
def picture (lists : LinkedLists Value) : Picture Value where
  next := lists.nextOf
  previous := lists.previousOf
  owner position := (lists.cells[position]?).bind (·.owner)
  value position := (lists.cells[position]?).map (·.value)
  length list := (lists.anchors[list]?).elim 0 (·.length)
  cells := lists.cells.size
  anchors := lists.anchors.size

/-- There is such an anchor or cell. -/
def Has (lists : LinkedLists Value) : Site → Prop
  | .anchor list => list < lists.anchors.size
  | .cell position => position < lists.cells.size

theorem has_of_next {site target : Site} (follows : lists.picture.next site = some target) :
    lists.Has site := by
  cases site <;>
    · obtain ⟨_, found, -⟩ := Option.bind_eq_some_iff.mp follows
      exact (Array.getElem?_eq_some_iff.mp found).1

theorem has_of_owner {position list : Nat} (owned : lists.picture.owner position = some list) :
    lists.Has (.cell position) := by
  obtain ⟨_, found, -⟩ := Option.bind_eq_some_iff.mp owned
  exact (Array.getElem?_eq_some_iff.mp found).1

/-! ## Elementary changes -/

/-- What is read of a place of an array after one place has changed. -/
theorem read_modify {Item Answer : Type} (items : Array Item) (position other : Nat)
    (change : Item → Item) (read : Option Item → Answer) :
    read (items.modify position change)[other]?
      = if other = position then read (items[position]?.map change) else read items[other]? := by
  rw [Array.getElem?_modify]
  by_cases here : other = position
  · subst here
    rw [if_pos rfl, if_pos rfl]
  · rw [if_neg (Ne.symm here), if_neg here]

theorem picture_modifyCell (position : Nat) (change : Cell Value → Cell Value) :
    ({ lists with cells := lists.cells.modify position change } : LinkedLists Value).picture
      = { lists.picture with
          next := Function.update lists.picture.next (.cell position)
            ((lists.cells[position]?).bind fun cell => (change cell).next)
          previous := Function.update lists.picture.previous (.cell position)
            ((lists.cells[position]?).bind fun cell => (change cell).previous)
          owner := Function.update lists.picture.owner position
            ((lists.cells[position]?).bind fun cell => (change cell).owner)
          value := Function.update lists.picture.value position
            ((lists.cells[position]?).map fun cell => (change cell).value) } := by
  ext1
  case next | previous =>
    funext site
    cases site with
    | anchor list => rfl
    | cell other =>
        refine (read_modify lists.cells position other change (Option.bind · _)).trans ?_
        simp only [Function.update_apply, Site.cell.injEq, Option.bind_map]
        rfl
  case owner =>
    funext other
    refine (read_modify lists.cells position other change (Option.bind · _)).trans ?_
    simp only [Function.update_apply, Option.bind_map]
    rfl
  case value =>
    funext other
    refine (read_modify lists.cells position other change (Option.map _)).trans ?_
    simp only [Function.update_apply, Option.map_map]
    rfl
  case length => rfl
  case cells => simp [picture]
  case anchors => rfl

theorem picture_modifyAnchor (list : Nat) (change : Anchor → Anchor) :
    ({ lists with anchors := lists.anchors.modify list change } : LinkedLists Value).picture
      = { lists.picture with
          next := Function.update lists.picture.next (.anchor list)
            ((lists.anchors[list]?).bind fun anchor => (change anchor).next)
          previous := Function.update lists.picture.previous (.anchor list)
            ((lists.anchors[list]?).bind fun anchor => (change anchor).previous)
          length := Function.update lists.picture.length list
            ((lists.anchors[list]?).elim 0 fun anchor => (change anchor).length) } := by
  ext1
  case next | previous =>
    funext site
    cases site with
    | anchor other =>
        refine (read_modify lists.anchors list other change (Option.bind · _)).trans ?_
        simp only [Function.update_apply, Site.anchor.injEq, Option.bind_map]
        rfl
    | cell position => rfl
  case length =>
    funext other
    refine (read_modify lists.anchors list other change (Option.elim · 0 _)).trans ?_
    simp only [Function.update_apply, Option.elim_map]
    rfl
  case anchors => simp [picture]
  all_goals rfl

/-- A cell whose value changes keeps its place. -/
theorem picture_modifyValue {position : Nat} {old : Value}
    (held : lists.picture.value position = some old) (change : Value → Value) :
    ({ lists with
        cells := lists.cells.modify position fun cell =>
          { cell with value := change cell.value } } : LinkedLists Value).picture
      = lists.picture.replace position (change old) := by
  obtain ⟨cell, present, content⟩ := Option.map_eq_some_iff.mp held
  refine (picture_modifyCell position _).trans ?_
  ext1
  case next => exact Function.update_eq_self (.cell position) lists.picture.next
  case previous => exact Function.update_eq_self (.cell position) lists.picture.previous
  case owner => exact Function.update_eq_self position lists.picture.owner
  case value => rw [present, Option.map_some, content]; rfl
  all_goals rfl

theorem picture_setNext {site : Site} (target : Option Site) (has : lists.Has site) :
    (lists.setNext site target).picture
      = { lists.picture with next := Function.update lists.picture.next site target } := by
  cases site with
  | anchor list =>
      refine (picture_modifyAnchor list _).trans ?_
      ext1
      case next => rw [Array.getElem?_eq_getElem has]; rfl
      case previous => exact Function.update_eq_self (.anchor list) lists.picture.previous
      case length => exact Function.update_eq_self list lists.picture.length
      all_goals rfl
  | cell position =>
      refine (picture_modifyCell position _).trans ?_
      ext1
      case next => rw [Array.getElem?_eq_getElem has]; rfl
      case previous => exact Function.update_eq_self (.cell position) lists.picture.previous
      case owner => exact Function.update_eq_self position lists.picture.owner
      case value => exact Function.update_eq_self position lists.picture.value
      all_goals rfl

theorem picture_setPrevious {site : Site} (target : Option Site) (has : lists.Has site) :
    (lists.setPrevious site target).picture
      = { lists.picture with previous := Function.update lists.picture.previous site target } := by
  cases site with
  | anchor list =>
      refine (picture_modifyAnchor list _).trans ?_
      ext1
      case next => exact Function.update_eq_self (.anchor list) lists.picture.next
      case previous => rw [Array.getElem?_eq_getElem has]; rfl
      case length => exact Function.update_eq_self list lists.picture.length
      all_goals rfl
  | cell position =>
      refine (picture_modifyCell position _).trans ?_
      ext1
      case next => exact Function.update_eq_self (.cell position) lists.picture.next
      case previous => rw [Array.getElem?_eq_getElem has]; rfl
      case owner => exact Function.update_eq_self position lists.picture.owner
      case value => exact Function.update_eq_self position lists.picture.value
      all_goals rfl

theorem picture_addLength {list : Nat} (change : Int) (has : lists.Has (.anchor list)) :
    (lists.addLength list change).picture
      = { lists.picture with
          length := Function.update lists.picture.length list
            (lists.picture.length list + change) } := by
  refine (picture_modifyAnchor list _).trans ?_
  ext1
  case next => exact Function.update_eq_self (.anchor list) lists.picture.next
  case previous => exact Function.update_eq_self (.anchor list) lists.picture.previous
  case length => simp only [picture, Array.getElem?_eq_getElem has, Option.elim_some]
  all_goals rfl

theorem picture_clear {list : Nat} (has : lists.Has (.anchor list)) :
    (lists.clear list).picture = lists.picture.clear list := by
  refine (picture_modifyAnchor list _).trans ?_
  rw [Array.getElem?_eq_getElem has]
  rfl

/-- A removed cell keeps its value. -/
theorem picture_detach {position : Nat} (has : lists.Has (.cell position)) :
    ({ lists with
        cells := lists.cells.modify position fun old =>
          { old with next := none, previous := none, owner := none } } : LinkedLists Value).picture
      = { lists.picture with
          next := Function.update lists.picture.next (.cell position) none
          previous := Function.update lists.picture.previous (.cell position) none
          owner := Function.update lists.picture.owner position none } := by
  refine (picture_modifyCell position _).trans ?_
  ext1
  case value => exact Function.update_eq_self position lists.picture.value
  case next | previous | owner => rw [Array.getElem?_eq_getElem has]; rfl
  all_goals rfl

theorem picture_pushCell (cell : Cell Value) :
    ({ lists with cells := lists.cells.push cell } : LinkedLists Value).picture
      = { lists.picture with
          next := Function.update lists.picture.next (.cell lists.cells.size) cell.next
          previous := Function.update lists.picture.previous (.cell lists.cells.size) cell.previous
          owner := Function.update lists.picture.owner lists.cells.size cell.owner
          value := Function.update lists.picture.value lists.cells.size (some cell.value)
          cells := lists.cells.size + 1 } := by
  ext1
  case next | previous =>
    funext site
    cases site with
    | anchor list => rfl
    | cell other =>
        by_cases here : other = lists.cells.size <;>
          simp [picture, nextOf, previousOf, Function.update_apply, Array.getElem?_push, here]
  case owner | value =>
    funext other
    by_cases here : other = lists.cells.size <;>
      simp [picture, Function.update_apply, Array.getElem?_push, here]
  case cells => simp [picture]
  all_goals rfl

/-! ## Pushing and removing -/

theorem picture_prepare {list : Nat} (has : lists.Has (.anchor list)) :
    (lists.prepare list).picture = lists.picture.prepare list := by
  have first : lists.picture.next (.anchor list) = (lists.anchors[list]?).bind (·.next) := rfl
  rw [prepare, Picture.prepare, first]
  cases (lists.anchors[list]?).bind (·.next) with
  | none => exact picture_clear has
  | some site => rfl

theorem has_setNext {site target : Site} {follower : Option Site} :
    (lists.setNext site follower).Has target ↔ lists.Has target := by
  cases site <;> cases target <;> simp [Has, setNext]

theorem has_setPrevious {site target : Site} {follower : Option Site} :
    (lists.setPrevious site follower).Has target ↔ lists.Has target := by
  cases site <;> cases target <;> simp [Has, setPrevious]

theorem Has.pushCell {site : Site} (has : lists.Has site) (cell : Cell Value) :
    ({ lists with cells := lists.cells.push cell } : LinkedLists Value).Has site := by
  cases site with
  | anchor list => exact has
  | cell position =>
      have inside : position < lists.cells.size := has
      simp only [Has, Array.size_push]
      omega

/-- Lists with a new cell between two neighbours. -/
def insertCell (lists : LinkedLists Value) (list : Nat) (value : Value) (earlier later : Site) :
    LinkedLists Value :=
  let site := some (Site.cell lists.cells.size)
  let cell : Cell Value :=
    { value, next := some later, previous := some earlier, owner := some list }
  let grown := { lists with cells := lists.cells.push cell }
  ((grown.setNext earlier site).setPrevious later site).addLength list 1

theorem picture_insertCell {list : Nat} (value : Value) {earlier later : Site}
    (has : lists.Has (.anchor list)) (hasEarlier : lists.Has earlier) (hasLater : lists.Has later) :
    (lists.insertCell list value earlier later).picture
      = lists.picture.insert list value earlier later := by
  rw [insertCell, picture_addLength, picture_setPrevious, picture_setNext, picture_pushCell]
  · rfl
  · exact hasEarlier.pushCell _
  · exact has_setNext.mpr (hasLater.pushCell _)
  · exact has_setPrevious.mpr (has_setNext.mpr (has.pushCell _))

/-- A pushed cell comes between what precedes the anchor and what follows that. -/
theorem push?_eq {list : Nat} (value : Value) {last following : Site}
    (precedes : (lists.prepare list).picture.previous (.anchor list) = some last)
    (follows : (lists.prepare list).picture.next last = some following) :
    lists.push? list value = some ((lists.prepare list).cells.size,
      (lists.prepare list).insertCell list value last following) := by
  have found : ((lists.prepare list).anchors[list]?).bind (·.previous) = some last := precedes
  have followed : (lists.prepare list).nextOf last = some following := follows
  simp only [push?, found, followed, Option.bind_eq_bind, Option.bind_some]
  rfl

theorem picture_remove {list position : Nat} {earlier later : Site}
    (has : lists.Has (.anchor list)) (owned : lists.picture.owner position = some list)
    (precedes : lists.picture.previous (.cell position) = some earlier)
    (follows : lists.picture.next (.cell position) = some later)
    (hasEarlier : lists.Has earlier) (hasLater : lists.Has later) :
    (lists.remove list position).picture = lists.picture.remove list position earlier later := by
  have hasCell := has_of_owner owned
  obtain ⟨cell, found, owner⟩ := Option.bind_eq_some_iff.mp owned
  have before : cell.previous = some earlier := by
    simpa [picture, previousOf, found] using precedes
  have after : cell.next = some later := by
    simpa [picture, nextOf, found] using follows
  simp only [remove, found, owner, before, after, if_true]
  rw [picture_addLength, picture_detach, picture_setPrevious, picture_setNext]
  · rfl
  · exact hasEarlier
  · exact has_setNext.mpr hasLater
  · exact has_setPrevious.mpr (has_setNext.mpr hasCell)
  · exact has_setPrevious.mpr (has_setNext.mpr has)

/-- Only the owner of a cell can remove it. -/
theorem remove_of_owner_ne {list position : Nat}
    (foreign : lists.picture.owner position ≠ some list) : lists.remove list position = lists := by
  rw [remove]
  cases found : lists.cells[position]? with
  | none => rfl
  | some cell =>
      have other : cell.owner ≠ some list := by
        simpa [picture, found] using foreign
      exact if_neg other

end LinkedLists

end Nominal
