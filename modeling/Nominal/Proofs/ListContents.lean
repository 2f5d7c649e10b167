import Nominal.Proofs.CellThreads

/-!
# What lists hold

Some lists are pushed to, removed from and cleared in any order.  Cells are numbered as they are
pushed, and a cell may be removed through any list at any later time.  Beside the linked lists runs
a ledger, which writes down for every list the cells that it holds.

The ledger also keeps the cells that were dropped when a list was cleared.  Such a cell still names
the list as its owner, so removing it through that list is not refused: it turns links that are in
use and makes the list one shorter than it is.  As long as that has not happened since a list was
last cleared, reading it gives what the ledger says, whatever happens to other lists; and it has
happened exactly if the list is not as long as the ledger says.
-/

namespace Nominal

/-- A change of one of some lists.  A list that is made ready at once is cleared first. -/
inductive ListAction (count : Nat) (Value : Type) where
  | push (list : Fin count) (value : Value)
  | remove (list : Fin count) (position : Nat)
  | clear (list : Fin count)
  deriving Repr

/-- What is written down about a list. -/
structure Shelf (Value : Type) where
  /-- The cells pushed since the list was last cleared and not removed through it, in order. -/
  held : List (Nat × Value) := []
  /-- The cells that were held when the list was cleared and not removed through it since. -/
  dropped : List Nat := []
  /-- How many dropped cells were removed since the list was last cleared. -/
  strays : Nat := 0
  deriving Repr

namespace Shelf

variable {Value : Type}

/-- The numbers of the cells held. -/
def positions (shelf : Shelf Value) : List Nat :=
  shelf.held.map (·.1)

/-- The values held. -/
def values (shelf : Shelf Value) : List Value :=
  shelf.held.map (·.2)

def push (shelf : Shelf Value) (position : Nat) (value : Value) : Shelf Value :=
  { shelf with held := shelf.held ++ [(position, value)] }

def remove (shelf : Shelf Value) (position : Nat) : Shelf Value :=
  if position ∈ shelf.dropped then
    { shelf with dropped := shelf.dropped.filter (· ≠ position), strays := shelf.strays + 1 }
  else { shelf with held := shelf.held.filter (·.1 ≠ position) }

def clear (shelf : Shelf Value) : Shelf Value :=
  { held := [], dropped := shelf.dropped ++ shelf.positions, strays := 0 }

def replace (shelf : Shelf Value) (position : Nat) (value : Value) : Shelf Value :=
  { shelf with
    held := shelf.held.map fun entry => if entry.1 = position then (position, value) else entry }

section

variable (shelf : Shelf Value) (position : Nat) (value : Value)

theorem length_positions : shelf.positions.length = shelf.held.length :=
  List.length_map _

theorem positions_push : (shelf.push position value).positions = shelf.positions ++ [position] := by
  simp [push, positions]

theorem positions_replace : (shelf.replace position value).positions = shelf.positions := by
  rw [positions, replace, List.map_map]
  refine List.map_congr_left fun entry _ => ?_
  dsimp only [Function.comp]
  split
  next here => exact here.symm
  next => rfl

end

theorem positions_remove {shelf : Shelf Value} {position : Nat}
    (notDropped : position ∉ shelf.dropped) :
    (shelf.remove position).positions = shelf.positions.filter (· ≠ position) := by
  rw [remove, if_neg notDropped, positions, positions, List.filter_map]
  rfl

end Shelf

/-- What is written down about all lists. -/
structure Ledger (count : Nat) (Value : Type) where
  /-- The number of cells pushed so far. -/
  pushed : Nat := 0
  shelves : Fin count → Shelf Value := fun _ => {}

/-- Writes down an action. -/
def Ledger.note {count : Nat} {Value : Type} (ledger : Ledger count Value) :
    ListAction count Value → Ledger count Value
  | .push list value =>
    { pushed := ledger.pushed + 1
      shelves := Function.update ledger.shelves list
        ((ledger.shelves list).push ledger.pushed value) }
  | .remove list position =>
    { ledger with
      shelves := Function.update ledger.shelves list ((ledger.shelves list).remove position) }
  | .clear list =>
    { ledger with shelves := Function.update ledger.shelves list (ledger.shelves list).clear }

/-- Performs an action. -/
def LinkedLists.perform? {count : Nat} {Value : Type} (lists : LinkedLists Value) :
    ListAction count Value → Option (LinkedLists Value)
  | .push list value => (lists.push? list value).map (·.2)
  | .remove list position => some (lists.remove list position)
  | .clear list => some (lists.clear list)

/-! ## One list -/

namespace Shelf

variable {Value : Type} {shelf : Shelf Value} {picture changed : Picture Value} {list other : Nat}

/-- What is written down about a list is true of it. -/
structure Describes (shelf : Shelf Value) (picture : Picture Value) (list : Nat) : Prop where
  value : ∀ entry ∈ shelf.held, picture.value entry.1 = some entry.2
  /-- A list owns the cells that it holds and those that it dropped. -/
  owner : ∀ position, picture.owner position = some list ↔
    position ∈ shelf.positions ∨ position ∈ shelf.dropped
  distinct : (shelf.positions ++ shelf.dropped).Nodup
  length : picture.length list = shelf.held.length - shelf.strays
  keeps : shelf.strays = 0 → picture.Keeps list shelf.positions

namespace Describes

/-- What happens elsewhere leaves the description true. -/
theorem frame (describes : shelf.Describes picture list)
    (value : ∀ position, picture.owner position = some list →
      changed.value position = picture.value position)
    (owner : ∀ position, changed.owner position = some list ↔ picture.owner position = some list)
    (length : changed.length list = picture.length list)
    (keeps : picture.Keeps list shelf.positions → changed.Keeps list shelf.positions) :
    shelf.Describes changed list where
  value entry listed := by
    have owned := (describes.owner entry.1).mpr (.inl (List.mem_map_of_mem listed))
    rw [value entry.1 owned, describes.value entry listed]
  owner position := (owner position).trans (describes.owner position)
  distinct := describes.distinct
  length := length.trans describes.length
  keeps sound := keeps (describes.keeps sound)

theorem prepare (describes : shelf.Describes picture list) (linked : picture.Linked) (other : Nat) :
    shelf.Describes (picture.prepare other) list := by
  refine describes.frame ?_ ?_ ?_ fun keeps => keeps.prepared linked other
  · exact fun position _ => congrFun (picture.value_prepare other) position
  · exact fun position => by rw [picture.owner_prepare]
  · rw [linked.length_prepare]

theorem lt_cells (describes : shelf.Describes picture list) (linked : picture.Linked)
    {position : Nat} (listed : position ∈ shelf.positions ∨ position ∈ shelf.dropped) :
    position < picture.cells := by
  by_contra! beyond
  have owned := (describes.owner position).mpr listed
  rw [linked.bounded position beyond] at owned
  cases owned

theorem push (describes : shelf.Describes picture list) (linked : picture.Linked) (value : Value)
    {last following : Site} (precedes : picture.previous (.anchor list) = some last)
    (follows : picture.next last = some following) :
    (shelf.push picture.cells value).Describes (picture.insert list value last following) list := by
  have fresh : ∀ position, position ∈ shelf.positions ∨ position ∈ shelf.dropped →
      position ≠ picture.cells := fun position listed =>
    Nat.ne_of_lt (describes.lt_cells linked listed)
  have grown := positions_push shelf picture.cells value
  constructor
  case value =>
    intro entry listed
    dsimp only [Picture.insert]
    rcases List.mem_append.mp listed with old | new
    · rw [Function.update_of_ne (fresh _ (.inl (List.mem_map_of_mem old)))]
      exact describes.value entry old
    · obtain rfl := List.mem_singleton.mp new
      rw [Function.update_self]
  case owner =>
    intro position
    rw [grown, List.mem_append, List.mem_singleton]
    dsimp only [Picture.insert]
    by_cases new : position = picture.cells
    · rw [new, Function.update_self]
      simp
    · rw [Function.update_of_ne new, describes.owner]
      simp [new, Shelf.push]
  case distinct =>
    have perm : ((shelf.positions ++ [picture.cells]) ++ shelf.dropped).Perm
        (picture.cells :: (shelf.positions ++ shelf.dropped)) := by
      rw [List.append_assoc, List.singleton_append]
      exact List.perm_middle
    rw [grown]
    refine perm.nodup_iff.mpr (List.nodup_cons.mpr ⟨fun listed => ?_, describes.distinct⟩)
    exact fresh _ (List.mem_append.mp listed) rfl
  case length =>
    dsimp only [Picture.insert, Shelf.push]
    rw [Function.update_self, describes.length, List.length_append, List.length_singleton]
    omega
  case keeps =>
    intro sound
    rw [grown]
    rcases describes.keeps sound with threads | ⟨unused, -, -⟩
    · exact .inl (threads.insert linked value precedes follows)
    · have paired := linked.paired (.anchor list)
      rw [unused, precedes] at paired
      cases paired

theorem push_other (describes : shelf.Describes picture other) (linked : picture.Linked)
    (different : other ≠ list) (value : Value) {last following : Site}
    (precedes : picture.previous (.anchor list) = some last)
    (follows : picture.next last = some following) :
    shelf.Describes (picture.insert list value last following) other := by
  have unowned := linked.bounded picture.cells le_rfl
  refine describes.frame ?_ ?_ ?_ fun keeps => keeps.insert linked different value precedes follows
  · intro position owned
    apply Function.update_of_ne
    rintro rfl
    rw [unowned] at owned
    cases owned
  · intro position
    dsimp only [Picture.insert]
    by_cases new : position = picture.cells
    · rw [new, Function.update_self, unowned]
      simpa using different.symm
    · rw [Function.update_of_ne new]
  · exact Function.update_of_ne different ..

/-- Removing a dropped cell makes the list one shorter than it is. -/
theorem remove_dropped (describes : shelf.Describes picture list) {position : Nat}
    (dropped : position ∈ shelf.dropped) (earlier later : Site) :
    (shelf.remove position).Describes (picture.remove list position earlier later) list := by
  have absent : position ∉ shelf.positions := fun held =>
    (List.nodup_append'.mp describes.distinct).2.2 held dropped
  rw [Shelf.remove, if_pos dropped]
  constructor
  case value => exact describes.value
  case owner =>
    intro place
    dsimp only [Picture.remove]
    by_cases here : place = position
    · rw [here, Function.update_self]
      exact ⟨nofun, fun listed => listed.elim (fun held => absurd held absent) (by simp)⟩
    · rw [Function.update_of_ne here, describes.owner]
      simp [positions, here]
  case distinct => exact describes.distinct.sublist (List.filter_sublist.append_left _)
  case length =>
    dsimp only [Picture.remove]
    rw [Function.update_self, describes.length]
    omega
  case keeps => exact nofun

/-- Removing a cell that the list holds takes it out. -/
theorem remove_held (describes : shelf.Describes picture list) (linked : picture.Linked)
    {position : Nat} (held : position ∈ shelf.positions) {earlier later : Site}
    (precedes : picture.previous (.cell position) = some earlier)
    (follows : picture.next (.cell position) = some later) :
    (shelf.remove position).Describes (picture.remove list position earlier later) list := by
  have absent : position ∉ shelf.dropped := (List.nodup_append'.mp describes.distinct).2.2 held
  have left := positions_remove absent
  constructor
  case value =>
    intro entry listed
    rw [Shelf.remove, if_neg absent] at listed
    exact describes.value entry (List.mem_of_mem_filter listed)
  case owner =>
    intro place
    rw [left, Shelf.remove, if_neg absent]
    dsimp only [Picture.remove]
    by_cases here : place = position
    · rw [here, Function.update_self]
      simpa using absent
    · rw [Function.update_of_ne here, describes.owner]
      simp [here]
  case distinct =>
    rw [left, Shelf.remove, if_neg absent]
    exact describes.distinct.sublist (List.filter_sublist.append_right _)
  case length =>
    have distinct := (List.nodup_append'.mp describes.distinct).1
    have shorter := length_filter_ne_of_nodup distinct held
    rw [← left, length_positions, length_positions] at shorter
    have strays : (shelf.remove position).strays = shelf.strays := by
      rw [Shelf.remove, if_neg absent]
    dsimp only [Picture.remove]
    rw [Function.update_self, describes.length, strays]
    omega
  case keeps =>
    intro sound
    rw [Shelf.remove, if_neg absent] at sound
    rw [left]
    rcases describes.keeps sound with threads | ⟨-, -, empty⟩
    · exact .inl (threads.remove linked held precedes follows)
    · rw [empty] at held
      cases held

theorem remove (describes : shelf.Describes picture list) (linked : picture.Linked) {position : Nat}
    (owned : picture.owner position = some list) {earlier later : Site}
    (precedes : picture.previous (.cell position) = some earlier)
    (follows : picture.next (.cell position) = some later) :
    (shelf.remove position).Describes (picture.remove list position earlier later) list := by
  rcases (describes.owner position).mp owned with held | dropped
  · exact describes.remove_held linked held precedes follows
  · exact describes.remove_dropped dropped earlier later

theorem remove_other (describes : shelf.Describes picture other)
    (linked : picture.Linked) (different : other ≠ list) {position : Nat}
    (owned : picture.owner position = some list) {earlier later : Site}
    (precedes : picture.previous (.cell position) = some earlier)
    (follows : picture.next (.cell position) = some later) :
    shelf.Describes (picture.remove list position earlier later) other := by
  refine describes.frame (fun _ _ => rfl) ?_ ?_ fun keeps =>
    keeps.remove linked different owned precedes follows
  · intro place
    dsimp only [Picture.remove]
    by_cases here : place = position
    · rw [here, Function.update_self, owned]
      simpa using different.symm
    · rw [Function.update_of_ne here]
  · exact Function.update_of_ne different ..

theorem clear (describes : shelf.Describes picture list) :
    shelf.clear.Describes (picture.clear list) list where
  value := nofun
  owner position := by
    rw [show (picture.clear list).owner = picture.owner from rfl, describes.owner]
    simp [Shelf.clear, positions, or_comm]
  distinct := by
    have swapped : (shelf.dropped ++ shelf.positions).Nodup :=
      List.nodup_append_comm.mp describes.distinct
    exact swapped
  length := Function.update_self ..
  keeps _ := .inl (.clear picture list)

theorem clear_other (describes : shelf.Describes picture other) (linked : picture.Linked)
    (different : other ≠ list) : shelf.Describes (picture.clear list) other :=
  describes.frame (fun _ _ => rfl) (fun _ => Iff.rfl) (Function.update_of_ne different ..)
    fun keeps => keeps.clear linked different

theorem replace (describes : shelf.Describes picture list) (linked : picture.Linked)
    (position : Nat) (value : Value) :
    (shelf.replace position value).Describes (picture.replace position value) list := by
  constructor
  case value =>
    intro entry listed
    obtain ⟨old, held, rfl⟩ := List.mem_map.mp listed
    dsimp only [Picture.replace]
    split
    next => exact Function.update_self ..
    next elsewhere => rw [Function.update_of_ne elsewhere, describes.value old held]
  case owner =>
    rw [positions_replace]
    exact describes.owner
  case distinct =>
    rw [positions_replace]
    exact describes.distinct
  case length => exact describes.length.trans (by simp [Shelf.replace])
  case keeps =>
    rw [positions_replace]
    exact fun sound => (describes.keeps sound).replace linked position value

end Describes

/-- A cell that a list neither holds nor dropped is not written down. -/
theorem remove_of_absent {position : Nat} (notHeld : position ∉ shelf.positions)
    (notDropped : position ∉ shelf.dropped) : shelf.remove position = shelf := by
  have kept : shelf.held.filter (·.1 ≠ position) = shelf.held := by
    refine List.filter_eq_self.mpr fun entry listed => decide_eq_true ?_
    rintro rfl
    exact notHeld (List.mem_map_of_mem listed)
  rw [remove, if_neg notDropped, kept]

end Shelf

/-! ## All lists -/

variable {count : Nat} {Value : Type}

/-- What is written down is true of all lists. -/
structure Ledger.Describes (ledger : Ledger count Value) (lists : LinkedLists Value) : Prop where
  linked : lists.picture.Linked
  pushed : lists.picture.cells = ledger.pushed
  anchors : lists.picture.anchors = count
  shelf : ∀ list : Fin count, (ledger.shelves list).Describes lists.picture list

namespace Ledger.Describes

variable {ledger : Ledger count Value} {lists : LinkedLists Value}

theorem has (describes : ledger.Describes lists) (list : Fin count) : lists.Has (.anchor list) :=
  lt_of_lt_of_eq list.isLt describes.anchors.symm

/-- Before the first action. -/
theorem start (count : Nat) (Value : Type) :
    ({} : Ledger count Value).Describes (LinkedLists.unused count) := by
  have picture := LinkedLists.picture_unused count Value
  refine ⟨LinkedLists.linked_unused count Value, ?_, ?_, fun list => ?_⟩
  · exact congrArg Picture.cells picture
  · exact congrArg Picture.anchors picture
  · rw [picture]
    exact ⟨nofun, by simp [Shelf.positions], .nil, rfl, fun _ => .inr ⟨rfl, rfl, rfl⟩⟩

/-- One list is written down anew. -/
theorem update {pushed : Nat} {shelves : Fin count → Shelf Value} {shelf : Shelf Value}
    (list : Fin count) (linked : lists.picture.Linked) (cells : lists.picture.cells = pushed)
    (anchors : lists.picture.anchors = count) (here : shelf.Describes lists.picture list)
    (elsewhere : ∀ other : Fin count, other.val ≠ list.val →
      (shelves other).Describes lists.picture other) :
    ({ pushed, shelves := Function.update shelves list shelf } : Ledger count Value).Describes
      lists := by
  refine ⟨linked, cells, anchors, fun other => ?_⟩
  dsimp only
  by_cases same : other = list
  · rw [same, Function.update_self]
    exact here
  · rw [Function.update_of_ne same]
    exact elsewhere other (Fin.val_ne_of_ne same)

theorem push (describes : ledger.Describes lists) (list : Fin count) (value : Value) :
    ∃ next, lists.perform? (.push list value) = some next ∧
      (ledger.note (.push list value)).Describes next := by
  obtain ⟨last, following, pushed, pushes, precedes, follows, picture⟩ :=
    LinkedLists.exists_push? describes.linked (describes.has list) value
  have linked := describes.linked.prepare list
  have ready : ∀ other, (ledger.shelves other).Describes (lists.picture.prepare list) other :=
    fun other => (describes.shelf other).prepare describes.linked list
  have cells : (lists.picture.prepare list).cells = ledger.pushed :=
    (lists.picture.cells_prepare list).trans describes.pushed
  have anchors : (lists.picture.prepare list).anchors = count :=
    (lists.picture.anchors_prepare list).trans describes.anchors
  refine ⟨pushed, by rw [LinkedLists.perform?, pushes, Option.map_some], ?_⟩
  apply Ledger.Describes.update list
  case linked => exact picture ▸ linked.insert value precedes follows
  case cells => exact (congrArg Picture.cells picture).trans (congrArg (· + 1) cells)
  case anchors => exact (congrArg Picture.anchors picture).trans anchors
  case here =>
    rw [picture, ← cells]
    exact (ready list).push linked value precedes follows
  case elsewhere =>
    intro other different
    rw [picture]
    exact (ready other).push_other linked different value precedes follows

theorem remove (describes : ledger.Describes lists) (list : Fin count) (position : Nat) :
    (ledger.note (.remove list position)).Describes (lists.remove list position) := by
  by_cases owned : lists.picture.owner position = some list.val
  · obtain ⟨earlier, later, precedes, follows, picture⟩ :=
      LinkedLists.exists_remove describes.linked owned
    apply Ledger.Describes.update list
    case linked => exact picture ▸ describes.linked.remove owned precedes follows
    case cells => exact picture ▸ describes.pushed
    case anchors => exact picture ▸ describes.anchors
    case here =>
      rw [picture]
      exact (describes.shelf list).remove describes.linked owned precedes follows
    case elsewhere =>
      intro other different
      rw [picture]
      exact (describes.shelf other).remove_other describes.linked different owned precedes follows
  · have absent := ((describes.shelf list).owner position).not.mp owned
    obtain ⟨notHeld, notDropped⟩ := not_or.mp absent
    have same : ledger.note (.remove list position) = ledger := by
      rw [note, Shelf.remove_of_absent notHeld notDropped, Function.update_eq_self]
    rw [same, LinkedLists.remove_of_owner_ne owned]
    exact describes

theorem clear (describes : ledger.Describes lists) (list : Fin count) :
    (ledger.note (.clear list)).Describes (lists.clear list) := by
  have picture := LinkedLists.picture_clear (describes.has list)
  apply Ledger.Describes.update list
  case linked => exact picture ▸ describes.linked.clear list
  case cells => exact picture ▸ describes.pushed
  case anchors => exact picture ▸ describes.anchors
  case here =>
    rw [picture]
    exact (describes.shelf list).clear
  case elsewhere =>
    intro other different
    rw [picture]
    exact (describes.shelf other).clear_other describes.linked different

/-- What one action changes is written down. -/
theorem perform (describes : ledger.Describes lists) (action : ListAction count Value) :
    ∃ next, lists.perform? action = some next ∧ (ledger.note action).Describes next := by
  cases action with
  | push list value => exact describes.push list value
  | remove list position => exact ⟨_, rfl, describes.remove list position⟩
  | clear list => exact ⟨_, rfl, describes.clear list⟩

/-- What all actions of a run change is written down. -/
theorem performAll (describes : ledger.Describes lists) (actions : List (ListAction count Value)) :
    ∃ final, actions.foldlM LinkedLists.perform? lists = some final ∧
      (actions.foldl note ledger).Describes final := by
  induction actions generalizing ledger lists with
  | nil => exact ⟨lists, rfl, describes⟩
  | cons action rest ih =>
      obtain ⟨next, performs, described⟩ := describes.perform action
      obtain ⟨final, run, described⟩ := ih described
      refine ⟨final, ?_, described⟩
      rw [List.foldlM_cons, performs]
      exact run

end Ledger.Describes

/-! ## Reading the lists -/

namespace LinkedLists

variable {lists : LinkedLists Value}

/-- Removing a cell through a list that neither holds nor dropped it changes nothing, and removing a
dropped cell does. -/
theorem remove_eq_self_iff {list position : Nat} {shelf : Shelf Value}
    (linked : lists.picture.Linked) (describes : shelf.Describes lists.picture list)
    (notHeld : position ∉ shelf.positions) :
    lists.remove list position = lists ↔ position ∉ shelf.dropped := by
  constructor
  · intro unchanged dropped
    have owned := (describes.owner position).mpr (.inr dropped)
    obtain ⟨earlier, later, -, -, picture⟩ := exists_remove linked owned
    have shorter : lists.picture.length list = lists.picture.length list - 1 := by
      have after := congrArg (·.length list) picture
      dsimp only [Picture.remove] at after
      rwa [unchanged, Function.update_self] at after
    omega
  · intro notDropped
    refine remove_of_owner_ne fun owned => ?_
    exact ((describes.owner position).mp owned).elim notHeld notDropped

variable [Inhabited Value]

theorem valueAt_cell {position : Nat} {value : Value}
    (found : lists.picture.value position = some value) :
    lists.valueAt (.cell position) = value := by
  obtain ⟨cell, present, rfl⟩ := Option.map_eq_some_iff.mp found
  rw [valueAt, present]

theorem values_eq {list : Nat} {shelf : Shelf Value} (linked : lists.picture.Linked)
    (describes : shelf.Describes lists.picture list) (sound : shelf.strays = 0) :
    lists.values list = shelf.values := by
  rw [values, sites_of_keeps linked (describes.keeps sound), Shelf.positions, Shelf.values,
    List.map_map, List.map_map]
  exact List.map_congr_left fun entry listed => valueAt_cell (describes.value entry listed)

/-- Every run succeeds.  After it, a list has the length and the content that the ledger says
exactly if no dropped cell was removed through it since it was last cleared; and removing a cell
that it does not hold leaves all lists as they are exactly if the list has not dropped the cell. -/
theorem contents_after (actions : List (ListAction count Value)) :
    let ledger := actions.foldl Ledger.note {}
    ∃ final, actions.foldlM perform? (unused count) = some final ∧ ∀ list : Fin count,
      let shelf := ledger.shelves list
      (final.picture.length list = shelf.values.length ∧ final.values list = shelf.values ↔
        shelf.strays = 0) ∧
      ∀ position ∉ shelf.positions,
        final.remove list position = final ↔ position ∉ shelf.dropped := by
  intro ledger
  obtain ⟨final, run, describes⟩ := (Ledger.Describes.start count Value).performAll actions
  refine ⟨final, run, fun list => ?_⟩
  intro shelf
  have described : shelf.Describes final.picture list := describes.shelf list
  have size : shelf.values.length = shelf.held.length := List.length_map _
  refine ⟨⟨?_, fun sound => ⟨?_, values_eq describes.linked described sound⟩⟩,
    fun position notHeld => remove_eq_self_iff describes.linked described notHeld⟩
  · rintro ⟨length, -⟩
    rw [described.length, size] at length
    omega
  · rw [described.length, sound, size]
    simp

/-- The cell of a cleared list, removed afterwards, leaves the anchor as the content of the list. -/
theorem not_contents_droppedCell :
    let actions : List (ListAction 1 Int) := [.push 0 5, .clear 0, .remove 0 0]
    ((actions.foldl Ledger.note {}).shelves 0).values = [] ∧
      (actions.foldlM perform? (unused 1)).map (·.values 0) = some [0] := by
  decide

end LinkedLists

end Nominal
