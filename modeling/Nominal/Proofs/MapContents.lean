import Nominal.Collection.LinkedMap
import Nominal.Proofs.ListContents
import Nominal.Proofs.MemberInvariant

/-!
# Linked maps as tables

A linked map answers every request as the table of its entries does: its index finds the cells of
the keys, its list runs through these cells, and every edit keeps the two in agreement.

A traversal is at a cell and not at a key.  Edits leave the cell of an entry in place unless the key
is deleted; then the cell is gone for good, and the traversal ends there, though the key may have
been set again.  Otherwise it goes on with the entry that comes after the visited key in the edited
table.
-/

namespace Nominal

variable {Key Value : Type} [DecidableEq Key]

/-- Whether an edit removes a key. -/
def Edit.deletes (key : Key) : Edit Key Value → Bool
  | .set _ _ => false
  | .delete other => other = key

/-! ## Tables that are edited while they are visited -/

namespace Table

/-- Applies one change. -/
def apply (table : Table Key Value) : Edit Key Value → Table Key Value
  | .set key value => table.set key value
  | .delete key => table.erase key

theorem contains_iff {table : Table Key Value} {key : Key} :
    table.contains key = true ↔ key ∈ table.keys := by
  simp [contains, keys]

/-- Setting a key that is present replaces the value of its entry. -/
theorem setEntry_of_mem {entries : List (Key × Value)} {key : Key} (value : Value)
    (distinct : (entries.map (·.1)).Nodup) (present : key ∈ entries.map (·.1)) :
    setEntry key value entries
      = entries.map fun entry => if entry.1 = key then (key, value) else entry := by
  induction entries with
  | nil => cases present
  | cons entry rest ih =>
      obtain ⟨fresh, distinct⟩ := List.nodup_cons.mp distinct
      rw [setEntry, List.map_cons]
      split
      next here =>
        have others :
            rest.map (fun other => if other.1 = key then (key, value) else other) = rest := by
          refine (List.map_congr_left (g := id) fun other listed => if_neg ?_).trans (List.map_id _)
          exact fun same => fresh (List.mem_map.mpr ⟨other, listed, same.trans here.symm⟩)
        rw [others]
      next different =>
        rw [ih distinct ((List.mem_cons.mp present).resolve_left (Ne.symm different))]

/-- The entries after a key. -/
def after (table : Table Key Value) (key : Key) : List (Key × Value) :=
  (table.entries.dropWhile (·.1 ≠ key)).tail

theorem after_eq {before rest : List (Key × Value)} {entry : Key × Value}
    (fresh : entry.1 ∉ before.map (·.1)) :
    (⟨before ++ entry :: rest⟩ : Table Key Value).after entry.1 = rest := by
  have passed : ∀ other ∈ before, decide (other.1 ≠ entry.1) = true := by
    intro other listed
    rw [decide_eq_true_eq]
    intro same
    exact fresh (List.mem_map.mpr ⟨other, listed, same⟩)
  rw [after, List.dropWhile_append_of_pos passed, List.dropWhile_cons_of_neg (by simp),
    List.tail_cons]

/-- Visits the entries ahead.  After each call the visited key is looked up in the edited table, and
the walk goes on behind it; it ends there if the call deleted the key.  When all calls are made, the
entries ahead are visited as they are. -/
def walk :
    List (Key → Value → List (Edit Key Value)) → List (Key × Value) → Table Key Value →
      List (Key × Value) × Table Key Value
  | _, [], table => ([], table)
  | [], ahead, table => (ahead, table)
  | call :: calls, entry :: _, table =>
    let edits := call entry.1 entry.2
    let edited := edits.foldl apply table
    let ahead := if edits.any (·.deletes entry.1) then [] else edited.after entry.1
    let (visited, final) := walk calls ahead edited
    (entry :: visited, final)

end Table

/-- What is asked of a map. -/
inductive MapRequest (Key Value : Type) where
  | set (key : Key) (value : Value)
  | delete (key : Key)
  | get (key : Key)
  | contains (key : Key)
  | size
  | keys
  | values
  | oldest
  | traverse (calls : List (Key → Value → List (Edit Key Value)))

/-- What a map answers. -/
inductive MapAnswer (Key Value : Type) where
  | found (value : Option Value)
  | present (isPresent : Bool)
  | count (size : Nat)
  | keys (keys : List Key)
  | values (values : List Value)
  | oldest (entry : Option (Key × Value))
  | visited (entries : List (Key × Value))

/-- The answer of a linked map, and the map that is left. -/
def LinkedMap.respond [Hashable Key] (map : LinkedMap Key Value) :
    MapRequest Key Value → MapAnswer Key Value × LinkedMap Key Value
  | .set key value => ((map.set key value).map .found id)
  | .delete key => ((map.delete key).map .found id)
  | .get key => (.found (map.get? key), map)
  | .contains key => (.present (map.contains key), map)
  | .size => (.count map.size, map)
  | .keys => (.keys map.keys, map)
  | .values => (.values map.values, map)
  | .oldest => (.oldest map.oldest?, map)
  | .traverse calls => (map.traverseCalls calls).map .visited id

/-- The answer of a table, and the table that is left. -/
def Table.respond (table : Table Key Value) :
    MapRequest Key Value → MapAnswer Key Value × Table Key Value
  | .set key value => (.found (table.get? key), table.set key value)
  | .delete key => (.found (table.get? key), table.erase key)
  | .get key => (.found (table.get? key), table)
  | .contains key => (.present (table.contains key), table)
  | .size => (.count table.size, table)
  | .keys => (.keys table.keys, table)
  | .values => (.values table.values, table)
  | .oldest => (.oldest table.entries.head?, table)
  | .traverse calls => (walk calls table.entries table).map .visited id

/-- The answers to some requests, one after the other, and what is left. -/
def respondAll {State Request Answer : Type} (respond : State → Request → Answer × State) :
    State → List Request → List Answer × State
  | state, [] => ([], state)
  | state, request :: rest =>
    let (answer, next) := respond state request
    let (answers, final) := respondAll respond next rest
    (answer :: answers, final)

/-! ## Cells and entries -/

namespace LinkedMap

variable [Hashable Key] {map edited : LinkedMap Key Value}
  {slots left : List (Nat × Key × Value)} {key : Key} {value : Value} {position : Nat}

/-- The cells of a map, in order, hold some entries, and the index finds them. -/
structure Shows (map : LinkedMap Key Value) (slots : List (Nat × Key × Value)) : Prop where
  linked : map.lists.picture.Linked
  single : map.lists.picture.anchors = 1
  shelf : ({ held := slots } : Shelf (Key × Value)).Describes map.lists.picture 0
  index : ∀ key position,
    map.index[key]? = some position ↔ ∃ value, (position, key, value) ∈ slots
  size : map.index.size = slots.length

/-- The entries that some cells hold. -/
def tableOf (slots : List (Nat × Key × Value)) : Table Key Value :=
  ⟨slots.map (·.2)⟩

/-- Another entry in one of the cells. -/
def put (slots : List (Nat × Key × Value)) (position : Nat) (entry : Key × Value) :
    List (Nat × Key × Value) :=
  slots.map fun slot => if slot.1 = position then (position, entry) else slot

/-- The cells without one of them. -/
def without (slots : List (Nat × Key × Value)) (position : Nat) : List (Nat × Key × Value) :=
  slots.filter (·.1 ≠ position)

omit [DecidableEq Key] [Hashable Key] in
theorem mem_without {slot : Nat × Key × Value} :
    slot ∈ without slots position ↔ slot ∈ slots ∧ slot.1 ≠ position := by
  simp [without]

namespace Shows

theorem entryAt? (shows : map.Shows slots) (listed : (position, key, value) ∈ slots) :
    map.entryAt? position = some (key, value) :=
  shows.shelf.value (position, key, value) listed

theorem distinct (shows : map.Shows slots) : (slots.map (·.1)).Nodup := by
  have distinct := shows.shelf.distinct
  rwa [List.append_nil] at distinct

/-- The cell of a key is the only one. -/
theorem position_eq (shows : map.Shows slots) {other : Nat} {otherValue : Value}
    (one : (position, key, value) ∈ slots) (another : (other, key, otherValue) ∈ slots) :
    position = other := by
  have found := (shows.index key position).mpr ⟨value, one⟩
  exact Option.some.inj (found.symm.trans ((shows.index key other).mpr ⟨otherValue, another⟩))

theorem entry_eq (shows : map.Shows slots) {entry other : Key × Value}
    (one : (position, entry) ∈ slots) (another : (position, other) ∈ slots) : entry = other :=
  Option.some.inj ((shows.entryAt? one).symm.trans (shows.entryAt? another))

/-- The cell of a key and the key of a cell. -/
theorem position_eq_iff (shows : map.Shows slots)
    (listed : (position, key, value) ∈ slots) (slot : Nat × Key × Value)
    (inSlots : slot ∈ slots) : slot.1 = position ↔ slot.2.1 = key := by
  obtain ⟨other, otherKey, otherValue⟩ := slot
  constructor
  · rintro rfl
    exact congrArg Prod.fst (shows.entry_eq inSlots listed)
  · rintro rfl
    exact shows.position_eq inSlots listed

theorem nodup_keys (shows : map.Shows slots) : (tableOf slots).keys.Nodup := by
  rw [Table.keys, tableOf, List.map_map]
  refine List.Nodup.map_on ?_ (shows.distinct.of_map _)
  rintro ⟨position, key, value⟩ one ⟨other, otherKey, otherValue⟩ another same
  obtain rfl : key = otherKey := same
  obtain rfl := shows.position_eq one another
  exact congrArg (Prod.mk position) (shows.entry_eq one another)

/-- Reading some of the cells gives their entries. -/
theorem filterMap_siteEntry? (shows : map.Shows slots) {part : List (Nat × Key × Value)}
    (listed : part ⊆ slots) :
    ((part.map (·.1)).map .cell).filterMap map.siteEntry? = part.map (·.2) := by
  induction part with
  | nil => rfl
  | cons slot rest ih =>
      obtain ⟨here, listed⟩ := List.cons_subset.mp listed
      have found : map.siteEntry? (.cell slot.1) = some slot.2 := shows.entryAt? here
      rw [List.map_cons, List.map_cons, List.filterMap_cons_some found, ih listed, List.map_cons]

theorem toTable_eq (shows : map.Shows slots) : map.toTable = tableOf slots := by
  have sites := LinkedLists.sites_of_keeps shows.linked (shows.shelf.keeps rfl)
  rw [toTable, entries, sites, tableOf]
  exact congrArg Table.mk (shows.filterMap_siteEntry? (List.Subset.refl slots))

theorem keys_eq (shows : map.Shows slots) : map.keys = (tableOf slots).keys :=
  congrArg Table.keys shows.toTable_eq

theorem values_eq (shows : map.Shows slots) : map.values = (tableOf slots).values :=
  congrArg Table.values shows.toTable_eq

theorem mem_entries (shows : map.Shows slots) (found : map.index[key]? = some position) :
    ∃ value, (position, key, value) ∈ slots ∧ (key, value) ∈ (tableOf slots).entries := by
  obtain ⟨value, listed⟩ := (shows.index key position).mp found
  exact ⟨value, listed, List.mem_map_of_mem listed⟩

/-- The index knows the keys of all cells. -/
theorem absent (shows : map.Shows slots) (unknown : map.index[key]? = none) (position : Nat)
    (value : Value) : (position, key, value) ∉ slots := by
  intro listed
  have found := (shows.index key position).mpr ⟨value, listed⟩
  rw [unknown] at found
  cases found

theorem notMem_keys (shows : map.Shows slots) (unknown : map.index[key]? = none) :
    key ∉ (tableOf slots).keys := by
  intro listed
  obtain ⟨entry, inEntries, rfl⟩ := List.mem_map.mp listed
  obtain ⟨⟨position, key, value⟩, inSlots, rfl⟩ := List.mem_map.mp inEntries
  exact shows.absent unknown position value inSlots

theorem get?_eq (shows : map.Shows slots) (key : Key) :
    map.get? key = (tableOf slots).get? key := by
  cases found : map.index[key]? with
  | none =>
      rw [Table.get?_eq_none_iff.mpr (shows.notMem_keys found), get?, found]
      rfl
  | some position =>
      obtain ⟨value, listed, inEntries⟩ := shows.mem_entries found
      rw [Table.get?_eq_some_of_mem shows.nodup_keys inEntries, get?, found]
      simp [shows.entryAt? listed]

theorem contains_eq (shows : map.Shows slots) (key : Key) :
    map.contains key = (tableOf slots).contains key := by
  rw [contains, Std.HashMap.contains_eq_isSome_getElem?, Bool.eq_iff_iff, Table.contains_iff]
  cases found : map.index[key]? with
  | none => exact iff_of_false nofun (shows.notMem_keys found)
  | some position =>
      obtain ⟨value, -, inEntries⟩ := shows.mem_entries found
      exact iff_of_true rfl (List.mem_map_of_mem inEntries)

theorem size_eq (shows : map.Shows slots) : map.size = (tableOf slots).size := by
  rw [LinkedMap.size, shows.size, Table.size, tableOf, List.length_map]

theorem oldest?_eq (shows : map.Shows slots) : map.oldest? = (tableOf slots).entries.head? := by
  rw [oldest?, LinkedLists.front?_of_keeps (shows.shelf.keeps rfl)]
  cases slots with
  | nil => rfl
  | cons slot rest => exact shows.entryAt? List.mem_cons_self

end Shows

/-! ## Edits -/

/-- What an edit does to the cells: a cell stays where it is, unless its key is deleted; then it is
gone, and a cell that is gone does not come back. -/
structure Carries (map : LinkedMap Key Value) (slots : List (Nat × Key × Value))
    (edited : LinkedMap Key Value) (left : List (Nat × Key × Value)) (deleted : Key → Bool) :
    Prop where
  kept : ∀ {position key value}, (position, key, value) ∈ slots → deleted key = false →
    ∃ value, (position, key, value) ∈ left
  gone : ∀ {position key value}, (position, key, value) ∈ slots → deleted key = true →
    position ∉ left.map (·.1)
  lost : ∀ {position}, position < map.lists.picture.cells → position ∉ slots.map (·.1) →
    position ∉ left.map (·.1)
  grows : map.lists.picture.cells ≤ edited.lists.picture.cells

namespace Carries

theorem refl (map : LinkedMap Key Value) (slots : List (Nat × Key × Value)) :
    Carries map slots map slots fun _ => false :=
  ⟨fun listed _ => ⟨_, listed⟩, nofun, fun _ absent => absent, le_rfl⟩

theorem trans {final : LinkedMap Key Value} {last : List (Nat × Key × Value)}
    {deleted later : Key → Bool} (first : Carries map slots edited left deleted)
    (second : Carries edited left final last later) (shows : map.Shows slots) :
    Carries map slots final last fun key => deleted key || later key where
  kept listed remains := by
    obtain ⟨notDeleted, notLater⟩ := Bool.or_eq_false_iff.mp remains
    obtain ⟨value, listed⟩ := first.kept listed notDeleted
    exact second.kept listed notLater
  gone {position key value} listed removed := by
    have inside : position < map.lists.picture.cells :=
      shows.shelf.lt_cells shows.linked (.inl (List.mem_map_of_mem listed))
    cases early : deleted key with
    | true => exact second.lost (inside.trans_le first.grows) (first.gone listed early)
    | false =>
        obtain ⟨value, listed⟩ := first.kept listed early
        exact second.gone listed (by simpa [early] using removed)
  lost inside absent := second.lost (inside.trans_le first.grows) (first.lost inside absent)
  grows := first.grows.trans second.grows

/-- A new cell at the end. -/
theorem snoc {entry : Key × Value} (grows : map.lists.picture.cells ≤ edited.lists.picture.cells) :
    Carries map slots edited (slots ++ [(map.lists.picture.cells, entry)]) fun _ => false where
  kept inSlots _ := ⟨_, List.mem_append_left _ inSlots⟩
  gone := nofun
  lost inside absent := by
    rw [List.map_append, List.mem_append, not_or]
    exact ⟨absent, List.mem_singleton.not.mpr (Nat.ne_of_lt inside)⟩
  grows := grows

end Carries

/-- The edited map shows a table, and its cells are those of the map before as far as no key was
deleted. -/
def Becomes (map : LinkedMap Key Value) (slots : List (Nat × Key × Value))
    (edited : LinkedMap Key Value) (table : Table Key Value) (deleted : Key → Bool) : Prop :=
  ∃ left, edited.Shows left ∧ tableOf left = table ∧ Carries map slots edited left deleted

namespace Shows

/-- A new value is put into the cell of its key. -/
theorem exists_mem_put_iff (shows : map.Shows slots) {old : Value}
    (listed : (position, key, old) ∈ slots) (value : Value) (place : Nat) (asked : Key) :
    (∃ held, (place, asked, held) ∈ put slots position (key, value)) ↔
      ∃ held, (place, asked, held) ∈ slots := by
  have places : (put slots position (key, value)).map (fun slot => (slot.1, slot.2.1))
      = slots.map fun slot => (slot.1, slot.2.1) := by
    rw [put, List.map_map]
    refine List.map_congr_left fun slot inSlots => ?_
    dsimp only [Function.comp]
    split
    next here => rw [(shows.position_eq_iff listed slot inSlots).mp here, here]
    next => rfl
  simpa using iff_of_eq (congrArg ((place, asked) ∈ ·) places)

theorem tableOf_put (shows : map.Shows slots) {old : Value}
    (listed : (position, key, old) ∈ slots) (value : Value) :
    tableOf (put slots position (key, value)) = (tableOf slots).set key value := by
  have present : key ∈ (tableOf slots).keys := List.mem_map_of_mem (List.mem_map_of_mem listed)
  refine congrArg Table.mk (Eq.trans ?_ (Table.setEntry_of_mem value shows.nodup_keys present).symm)
  rw [put, tableOf, List.map_map, List.map_map]
  refine List.map_congr_left fun slot inSlots => ?_
  simp only [Function.comp, shows.position_eq_iff listed slot inSlots]
  split <;> rfl

theorem carries_put (shows : map.Shows slots) {old : Value}
    (listed : (position, key, old) ∈ slots)
    (grows : map.lists.picture.cells ≤ edited.lists.picture.cells) :
    Carries map slots edited (put slots position (key, value)) fun _ => false := by
  have positions : (put slots position (key, value)).map (·.1) = slots.map (·.1) :=
    Shelf.positions_replace { held := slots } position (key, value)
  constructor
  case kept => exact fun inSlots _ => (shows.exists_mem_put_iff listed value _ _).mpr ⟨_, inSlots⟩
  case gone => exact nofun
  case lost => exact fun _ absent => positions ▸ absent
  case grows => exact grows

/-- Setting a key that is present puts the value into its cell. -/
theorem set_present (shows : map.Shows slots) (found : map.index[key]? = some position)
    (value : Value) :
    Becomes map slots (map.set key value).2 ((tableOf slots).set key value) fun _ => false := by
  obtain ⟨old, listed⟩ := (shows.index key position).mp found
  -- the edited map is named, so that facts about it can be rewritten without its record
  obtain ⟨edited, result⟩ : ∃ edited, edited = (map.set key value).2 := ⟨_, rfl⟩
  rw [← result]
  rw [set, found] at result
  have index : edited.index = map.index := by rw [result]
  have picture : edited.lists.picture = map.lists.picture.replace position (key, value) :=
    (congrArg (fun after => after.lists.picture) result).trans
      (LinkedLists.picture_modifyValue (shows.entryAt? listed) fun entry => (entry.1, value))
  have stays := shows.exists_mem_put_iff listed value
  refine ⟨put slots position (key, value), ?_, shows.tableOf_put listed value, ?_⟩
  · constructor
    case linked => exact picture ▸ shows.linked.replace position (key, value)
    case single => exact picture ▸ shows.single
    case shelf => exact picture ▸ shows.shelf.replace shows.linked position (key, value)
    case index => exact fun asked place => by rw [index, stays, shows.index]
    case size => rw [index, shows.size, put, List.length_map]
  · exact shows.carries_put listed (picture ▸ le_rfl)

/-- Setting a key that is absent puts an entry into a new cell at the end. -/
theorem set_absent (shows : map.Shows slots) (unknown : map.index[key]? = none) (value : Value) :
    Becomes map slots (map.set key value).2 ((tableOf slots).set key value) fun _ => false := by
  have has : map.lists.Has (.anchor 0) := Nat.zero_lt_one.trans_eq shows.single.symm
  obtain ⟨last, following, pushed, pushes, precedes, follows, picture⟩ :=
    LinkedLists.exists_push? shows.linked has (key, value)
  have linked := shows.linked.prepare 0
  have cells := map.lists.picture.cells_prepare 0
  have result : (map.set key value).2 =
      { index := map.index.insert key map.lists.picture.cells, lists := pushed } := by
    rw [set, unknown, pushes]
    rfl
  rw [result]
  refine ⟨slots ++ [(map.lists.picture.cells, key, value)], ?_, ?_, ?_⟩
  · constructor
    case linked => exact picture ▸ linked.insert (key, value) precedes follows
    case single =>
      exact (congrArg Picture.anchors picture).trans
        ((map.lists.picture.anchors_prepare 0).trans shows.single)
    case shelf =>
      have pushed := (shows.shelf.prepare shows.linked 0).push linked (key, value) precedes follows
      rw [cells] at pushed
      exact picture ▸ pushed
    case index =>
      intro asked place
      rw [Std.HashMap.getElem?_insert]
      by_cases here : key = asked
      · subst here
        simp [shows.absent unknown, eq_comm (b := place)]
      · simp [here, shows.index, Ne.symm here]
    case size =>
      have outside : key ∉ map.index := by
        rw [Std.HashMap.mem_iff_isSome_getElem?, unknown]
        exact Bool.false_ne_true
      rw [Std.HashMap.size_insert, if_neg outside, shows.size, List.length_append]
      rfl
  · have entries := Table.entries_set value (shows.notMem_keys unknown)
    refine congrArg Table.mk (Eq.trans ?_ entries.symm)
    rw [List.map_append]
    rfl
  · have grown := (congrArg Picture.cells picture).trans (congrArg (· + 1) cells)
    exact .snoc ((Nat.le_succ _).trans_eq grown.symm)

theorem tableOf_without (shows : map.Shows slots) {old : Value}
    (listed : (position, key, old) ∈ slots) :
    tableOf (without slots position) = (tableOf slots).erase key := by
  refine congrArg Table.mk ?_
  rw [without, tableOf, List.filter_map]
  refine congrArg (List.map _) (List.filter_congr fun slot inSlots => ?_)
  exact decide_eq_decide.mpr (shows.position_eq_iff listed slot inSlots).not

/-- Removing the cell of a key leaves the cells of other keys. -/
theorem mem_without_iff (shows : map.Shows slots) {old : Value}
    (listed : (position, key, old) ∈ slots) {place : Nat} {asked : Key} {held : Value} :
    (place, asked, held) ∈ without slots position ↔ (place, asked, held) ∈ slots ∧ key ≠ asked := by
  rw [mem_without]
  refine and_congr_right fun inSlots => not_congr ?_
  exact (shows.position_eq_iff listed _ inSlots).trans eq_comm

theorem carries_without (shows : map.Shows slots) {old : Value}
    (listed : (position, key, old) ∈ slots)
    (grows : map.lists.picture.cells ≤ edited.lists.picture.cells) :
    Carries map slots edited (without slots position) fun other => key = other where
  kept inSlots remains :=
    ⟨_, (shows.mem_without_iff listed).mpr ⟨inSlots, of_decide_eq_false remains⟩⟩
  gone {place other value} inSlots deleted stays := by
    obtain rfl := of_decide_eq_true deleted
    obtain ⟨slot, inLeft, same⟩ := List.mem_map.mp stays
    exact (mem_without.mp inLeft).2 (same.trans (shows.position_eq inSlots listed))
  lost _ absent inLeft := absent (List.filter_sublist.map _ |>.subset inLeft)
  grows := grows

/-- Deleting a key that is present removes its cell. -/
theorem delete_present (shows : map.Shows slots) (found : map.index[key]? = some position) :
    Becomes map slots (map.delete key).2 ((tableOf slots).erase key) fun other => key = other := by
  obtain ⟨old, listed⟩ := (shows.index key position).mp found
  have owned : map.lists.picture.owner position = some 0 :=
    (shows.shelf.owner position).mpr (.inl (List.mem_map_of_mem listed))
  obtain ⟨earlier, later, precedes, follows, picture⟩ :=
    LinkedLists.exists_remove shows.linked owned
  have shelf : ({ held := without slots position } : Shelf (Key × Value)).Describes
      (map.lists.picture.remove 0 position earlier later) 0 := by
    have removed := shows.shelf.remove shows.linked owned precedes follows
    rwa [Shelf.remove, if_neg List.not_mem_nil] at removed
  have result : (map.delete key).2 =
      { index := map.index.erase key, lists := map.lists.remove 0 position } := by
    rw [delete, found]
  rw [result]
  refine ⟨without slots position, ?_, shows.tableOf_without listed, ?_⟩
  · constructor
    case linked => exact picture ▸ shows.linked.remove owned precedes follows
    case single => exact picture ▸ shows.single
    case shelf => exact picture ▸ shelf
    case index =>
      intro asked place
      simp only [shows.mem_without_iff listed, Std.HashMap.getElem?_erase, beq_iff_eq]
      by_cases here : key = asked <;> simp [here, shows.index]
    case size =>
      have inside : key ∈ map.index := by
        rw [Std.HashMap.mem_iff_isSome_getElem?, found]
        rfl
      have before : map.lists.picture.length 0 = slots.length - (0 : Nat) := shows.shelf.length
      have after : Function.update map.lists.picture.length 0 (map.lists.picture.length 0 - 1) 0
          = (without slots position).length - (0 : Nat) := shelf.length
      rw [Function.update_self, before] at after
      rw [Std.HashMap.size_erase, if_pos inside, shows.size]
      omega
  · exact shows.carries_without listed (picture ▸ le_rfl)

theorem delete_absent (shows : map.Shows slots) (unknown : map.index[key]? = none) :
    Becomes map slots (map.delete key).2 ((tableOf slots).erase key) fun other => key = other := by
  have result : (map.delete key).2 = map := by
    rw [delete, unknown]
  have unchanged : (tableOf slots).entries.filter (·.1 ≠ key) = (tableOf slots).entries := by
    refine List.filter_eq_self.mpr fun entry listed => decide_eq_true ?_
    rintro rfl
    exact shows.notMem_keys unknown (List.mem_map_of_mem listed)
  rw [result]
  refine ⟨slots, shows, congrArg Table.mk unchanged.symm, ?_⟩
  constructor
  case kept => exact fun inSlots _ => ⟨_, inSlots⟩
  case gone =>
    intro place other value inSlots deleted
    obtain rfl := of_decide_eq_true deleted
    exact absurd inSlots (shows.absent unknown place value)
  case lost => exact fun _ absent => absent
  case grows => exact le_rfl

/-- An edit changes the map as it changes the table. -/
theorem apply (shows : map.Shows slots) (edit : Edit Key Value) :
    Becomes map slots (map.apply edit) ((tableOf slots).apply edit) (edit.deletes ·) := by
  cases edit with
  | set key value =>
      cases found : map.index[key]? with
      | some position => exact shows.set_present found value
      | none => exact shows.set_absent found value
  | delete key =>
      cases found : map.index[key]? with
      | some position => exact shows.delete_present found
      | none => exact shows.delete_absent found

/-- Edits change the map as they change the table. -/
theorem applyAll (shows : map.Shows slots) (edits : List (Edit Key Value)) :
    Becomes map slots (edits.foldl LinkedMap.apply map) (edits.foldl Table.apply (tableOf slots))
      fun key => edits.any (·.deletes key) := by
  induction edits generalizing map slots with
  | nil => exact ⟨slots, shows, rfl, .refl map slots⟩
  | cons edit rest ih =>
      obtain ⟨next, showsNext, tableNext, first⟩ := shows.apply edit
      obtain ⟨left, showsLeft, tableLeft, later⟩ := ih showsNext
      refine ⟨left, showsLeft, tableLeft.trans (by rw [tableNext]; rfl), ?_⟩
      exact first.trans later shows

/-! ## Traversals -/

/-- A cell that holds no entry belongs to no list. -/
theorem owner_eq_none (shows : map.Shows slots) (gone : position ∉ slots.map (·.1)) :
    map.lists.picture.owner position = none := by
  by_contra owned
  obtain ⟨list, owned⟩ := Option.ne_none_iff_exists'.mp owned
  have used := shows.linked.used owned
  have has : list < map.lists.picture.anchors := LinkedLists.has_of_next (Option.some_get used).symm
  obtain rfl : list = 0 := Nat.lt_one_iff.mp (has.trans_eq shows.single)
  exact ((shows.shelf.owner position).mp owned).elim gone List.not_mem_nil

theorem threads {before ahead : List (Nat × Key × Value)} {slot : Nat × Key × Value}
    (shows : map.Shows (before ++ slot :: ahead)) :
    map.lists.picture.Threads 0 (before.map (·.1) ++ slot.1 :: ahead.map (·.1)) := by
  have keeps : map.lists.picture.Keeps 0 ((before ++ slot :: ahead).map (·.1)) :=
    shows.shelf.keeps rfl
  rw [List.map_append, List.map_cons] at keeps
  refine keeps.resolve_right fun unused => ?_
  simp at unused

theorem after_eq {before ahead : List (Nat × Key × Value)} {slot : Nat × Key × Value}
    (shows : map.Shows (before ++ slot :: ahead)) :
    (tableOf (before ++ slot :: ahead)).after slot.2.1 = ahead.map (·.2) := by
  have distinct := shows.nodup_keys
  rw [tableOf, List.map_append, List.map_cons] at distinct ⊢
  rw [Table.keys, List.map_append, List.map_cons] at distinct
  have fresh := (List.nodup_cons.mp (List.nodup_middle.mp distinct)).1
  exact Table.after_eq fun listed => fresh (List.mem_append_left _ listed)

/-- The remaining cells are read without a change. -/
theorem sitesFrom {before ahead : List (Nat × Key × Value)} {slot : Nat × Key × Value}
    (shows : map.Shows (before ++ slot :: ahead)) :
    (map.lists.sitesFrom (map.lists.cells.size + 1) (some (.cell slot.1))).filterMap map.siteEntry?
      = (slot :: ahead).map (·.2) := by
  have threads := shows.threads
  have enough := threads.length_le shows.linked
  rw [List.length_append] at enough
  have sites := LinkedLists.sitesFrom_of_threads shows.linked threads
    (Nat.le_succ_of_le ((Nat.le_add_left ..).trans enough))
  refine (congrArg (List.filterMap map.siteEntry?) sites).trans ?_
  exact shows.filterMap_siteEntry? (List.subset_append_right before (slot :: ahead))

end Shows

/-- The map has the content of a table. -/
def Holds (map : LinkedMap Key Value) (table : Table Key Value) : Prop :=
  ∃ slots, map.Shows slots ∧ tableOf slots = table

/-- The same answer, and a map that is left with the content of the table that is left. -/
def Agrees {Answer : Type} (result : Answer × LinkedMap Key Value)
    (expected : Answer × Table Key Value) : Prop :=
  result.1 = expected.1 ∧ result.2.Holds expected.2

/-- A traversal visits what a walk over the table visits, and leaves the same table. -/
theorem Shows.traverseFrom {before ahead : List (Nat × Key × Value)}
    (shows : map.Shows (before ++ ahead)) (calls : List (Key → Value → List (Edit Key Value))) :
    Agrees (LinkedMap.traverseFrom calls (ahead.head?.map (.cell ·.1)) map)
      (Table.walk calls (ahead.map (·.2)) (tableOf (before ++ ahead))) := by
  induction calls generalizing map before ahead with
  | nil =>
      cases ahead with
      | nil => exact ⟨rfl, _, shows, rfl⟩
      | cons slot rest => exact ⟨shows.sitesFrom, _, shows, rfl⟩
  | cons call calls ih =>
      cases ahead with
      | nil => exact ⟨rfl, _, shows, rfl⟩
      | cons slot rest =>
          obtain ⟨left, showsLeft, tableLeft, carries⟩ := shows.applyAll (call slot.2.1 slot.2.2)
          have inSlots : slot ∈ before ++ slot :: rest := by simp
          have visited : map.siteEntry? (.cell slot.1) = some slot.2 := shows.entryAt? inSlots
          rw [List.head?_cons, Option.map_some, LinkedMap.traverseFrom, visited]
          suffices goesOn : Agrees (LinkedMap.traverseFrom calls _ _) (Table.walk calls _ _) from
            ⟨congrArg (slot.2 :: ·) goesOn.1, goesOn.2⟩
          rw [← tableLeft]
          split
          next deleted =>
            have gone := showsLeft.owner_eq_none (carries.gone inSlots deleted)
            rw [LinkedLists.next?_of_owner_eq_none gone]
            cases calls <;> exact ⟨rfl, _, showsLeft, rfl⟩
          next kept =>
            obtain ⟨value, stays⟩ := carries.kept inSlots (Bool.not_eq_true _ ▸ kept)
            obtain ⟨earlier, later, rfl⟩ := List.append_of_mem stays
            rw [LinkedLists.next?_of_threads showsLeft.threads showsLeft.linked, showsLeft.after_eq,
              List.head?_map, Option.map_map]
            rw [List.append_cons] at showsLeft ⊢
            exact ih showsLeft

/-! ## Requests -/

theorem set_fst (map : LinkedMap Key Value) (key : Key) (value : Value) :
    (map.set key value).1 = map.get? key := by
  rw [set]
  split
  next => rfl
  next unknown =>
    rw [get?, unknown]
    split <;> rfl

theorem delete_fst (map : LinkedMap Key Value) (key : Key) :
    (map.delete key).1 = map.get? key := by
  rw [delete]
  split
  next => rfl
  next unknown =>
    rw [get?, unknown]
    rfl

theorem Shows.holds (shows : map.Shows slots) : map.Holds (tableOf slots) :=
  ⟨slots, shows, rfl⟩

namespace Holds

variable {table : Table Key Value}

theorem empty_of_describes {lists : LinkedLists (Key × Value)}
    (describes : ({} : Ledger 1 (Key × Value)).Describes lists) :
    ({ lists } : LinkedMap Key Value).Holds Table.empty := by
  refine ⟨[], ?_, rfl⟩
  constructor
  case linked => exact describes.linked
  case single => exact describes.anchors
  case shelf => exact describes.shelf 0
  case index => simp
  case size => rfl

/-- Before the first request. -/
theorem start (prepared : Bool) :
    (if prepared then ready else empty : LinkedMap Key Value).Holds Table.empty := by
  have unused := Ledger.Describes.start 1 (Key × Value)
  cases prepared with
  | false => exact empty_of_describes unused
  | true =>
      obtain ⟨next, performs, described⟩ := unused.perform (.clear 0)
      obtain rfl := Option.some.inj performs
      have nothing : ({} : Ledger 1 (Key × Value)).note (.clear 0) = {} :=
        congrArg (Ledger.mk 0) (Function.update_eq_self ..)
      exact empty_of_describes (nothing ▸ described)

/-- A request is answered as the table answers it. -/
theorem respond (holds : map.Holds table) (request : MapRequest Key Value) :
    Agrees (map.respond request) (table.respond request) := by
  obtain ⟨slots, shows, rfl⟩ := holds
  cases request with
  | set key value =>
      obtain ⟨left, showsLeft, tableLeft, -⟩ := shows.apply (.set key value)
      refine ⟨congrArg MapAnswer.found ?_, left, showsLeft, tableLeft⟩
      exact (set_fst map key value).trans (shows.get?_eq key)
  | delete key =>
      obtain ⟨left, showsLeft, tableLeft, -⟩ := shows.apply (.delete key)
      refine ⟨congrArg MapAnswer.found ?_, left, showsLeft, tableLeft⟩
      exact (delete_fst map key).trans (shows.get?_eq key)
  | get key => exact ⟨congrArg MapAnswer.found (shows.get?_eq key), shows.holds⟩
  | contains key => exact ⟨congrArg MapAnswer.present (shows.contains_eq key), shows.holds⟩
  | size => exact ⟨congrArg MapAnswer.count shows.size_eq, shows.holds⟩
  | keys => exact ⟨congrArg MapAnswer.keys shows.keys_eq, shows.holds⟩
  | values => exact ⟨congrArg MapAnswer.values shows.values_eq, shows.holds⟩
  | oldest => exact ⟨congrArg MapAnswer.oldest shows.oldest?_eq, shows.holds⟩
  | traverse calls =>
      have front := LinkedLists.front?_of_keeps (shows.shelf.keeps rfl)
      rw [Shelf.positions, List.head?_map, Option.map_map] at front
      have whole : map.Shows ([] ++ slots) := shows
      have visits := whole.traverseFrom calls
      rw [LinkedMap.respond, traverseCalls, front]
      exact ⟨congrArg MapAnswer.visited visits.1, visits.2⟩

/-- All requests are answered as the table answers them. -/
theorem respondAll (holds : map.Holds table) (requests : List (MapRequest Key Value)) :
    Agrees (Nominal.respondAll LinkedMap.respond map requests)
      (Nominal.respondAll Table.respond table requests) := by
  induction requests generalizing map table with
  | nil => exact ⟨rfl, holds⟩
  | cons request rest ih =>
      have first := holds.respond request
      have later := ih first.2
      exact ⟨congrArg₂ List.cons first.1 later.1, later.2⟩

end Holds

/-- A map answers every sequence of requests as the table of its entries does, which has no key
twice, and is left with the content of that table. -/
theorem answers_as_table (prepared : Bool) (requests : List (MapRequest Key Value)) :
    let (answers, map) := respondAll respond (if prepared then ready else empty) requests
    let (expected, table) := respondAll Table.respond .empty requests
    answers = expected ∧ map.toTable = table ∧ table.keys.Nodup := by
  obtain ⟨same, slots, shows, content⟩ := (Holds.start prepared).respondAll requests
  exact ⟨same, shows.toTable_eq.trans content, content ▸ shows.nodup_keys⟩

end LinkedMap

end Nominal
