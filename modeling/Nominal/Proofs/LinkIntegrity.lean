import Nominal.Proofs.LinkedCells

/-!
# Integrity of links

A cell is always the way back to where a link to it comes from.  Anchors are not: clearing a list
turns its anchor away from its cells, but not the cells away from the anchor.  That a cell is the
way back, that links stay among the sites of one list and that exactly the owned cells have both
neighbours holds after every step, in whatever order cells are pushed, removed and dropped.

So a push finds both ends of its list, and a cell that is removed through its owner has two
neighbours to link.
-/

namespace Nominal

/-- Links in one direction: a cell is the way back to where a link to it comes from, and both ends
of a link belong to one list. -/
structure Pointing (next previous : Site → Option Site) (owner : Nat → Option Nat) : Prop where
  back : ∀ {site : Site} {position : Nat}, next site = some (.cell position) →
    previous (.cell position) = some site
  within : ∀ {site target : Site}, next site = some target → target.owner owner = site.owner owner

namespace Pointing

variable {next previous : Site → Option Site} {owner : Nat → Option Nat} {list position : Nat}
  {earlier later : Site}

/-- A new cell between two neighbours that are linked. -/
theorem insert (forward : Pointing next previous owner) (follows : next earlier = some later)
    (ofEarlier : earlier.owner owner = some list) (ofLater : later.owner owner = some list)
    (fresh : owner position = none) (unlinked : previous (.cell position) = none) :
    Pointing
      (Function.update (Function.update next (.cell position) (some later)) earlier
        (some (.cell position)))
      (Function.update (Function.update previous (.cell position) (some earlier)) later
        (some (.cell position)))
      (Function.update owner position (some list)) := by
  have notEarlier : earlier ≠ .cell position := by
    rintro rfl
    simp [Site.owner, fresh] at ofEarlier
  have notLater : later ≠ .cell position := by
    rintro rfl
    simp [Site.owner, fresh] at ofLater
  constructor
  · intro site other linked
    by_cases atEarlier : site = earlier
    · rw [atEarlier, Function.update_self, Option.some.injEq, Site.cell.injEq] at linked
      rw [← linked, Function.update_of_ne notLater.symm, Function.update_self, atEarlier]
    rw [Function.update_of_ne atEarlier] at linked
    by_cases atNew : site = .cell position
    · rw [atNew, Function.update_self, Option.some.injEq] at linked
      rw [← linked, Function.update_self, atNew]
    rw [Function.update_of_ne atNew] at linked
    have returns := forward.back linked
    have notNew : Site.cell other ≠ .cell position := by
      intro same
      rw [same, unlinked] at returns
      cases returns
    have elsewhere : Site.cell other ≠ later := by
      rintro rfl
      exact atEarlier (Option.some.inj (returns.symm.trans (forward.back follows)))
    rw [Function.update_of_ne elsewhere, Function.update_of_ne notNew, returns]
  · intro site target linked
    by_cases atEarlier : site = earlier
    · rw [atEarlier, Function.update_self, Option.some.injEq] at linked
      rw [← linked, Site.owner_update_self, atEarlier, Site.owner_update_of_ne notEarlier,
        ofEarlier]
    rw [Function.update_of_ne atEarlier] at linked
    by_cases atNew : site = .cell position
    · rw [atNew, Function.update_self, Option.some.injEq] at linked
      rw [← linked, Site.owner_update_of_ne notLater, atNew, Site.owner_update_self, ofLater]
    rw [Function.update_of_ne atNew] at linked
    have notNew : target ≠ .cell position := by
      rintro rfl
      rw [forward.back linked] at unlinked
      cases unlinked
    rw [Site.owner_update_of_ne notNew, Site.owner_update_of_ne atNew, forward.within linked]

/-- A cell taken out from between its neighbours. -/
theorem remove (forward : Pointing next previous owner) (backward : Pointing previous next owner)
    (precedes : previous (.cell position) = some earlier)
    (follows : next (.cell position) = some later) :
    Pointing
      (Function.update (Function.update next earlier (some later)) (.cell position) none)
      (Function.update (Function.update previous later (some earlier)) (.cell position) none)
      (Function.update owner position none) := by
  have atLoop : later = .cell position → earlier = .cell position := by
    rintro rfl
    exact Option.some.inj (precedes.symm.trans (forward.back follows))
  have onlyEarlier : ∀ {site}, next site = some (.cell position) → site = earlier := by
    intro site linked
    exact Option.some.inj ((forward.back linked).symm.trans precedes)
  constructor
  · intro site other linked
    by_cases atCell : site = .cell position
    · rw [atCell, Function.update_self] at linked
      cases linked
    rw [Function.update_of_ne atCell] at linked
    by_cases atEarlier : site = earlier
    · rw [atEarlier, Function.update_self, Option.some.injEq] at linked
      have notCell : later ≠ .cell position := fun same => atCell (atEarlier.trans (atLoop same))
      rw [← linked, Function.update_of_ne notCell, Function.update_self, atEarlier]
    rw [Function.update_of_ne atEarlier] at linked
    have notCell : Site.cell other ≠ .cell position := by
      intro same
      exact atEarlier (onlyEarlier (same ▸ linked))
    have elsewhere : Site.cell other ≠ later := by
      rintro rfl
      exact atCell (Option.some.inj ((forward.back linked).symm.trans (forward.back follows)))
    rw [Function.update_of_ne notCell, Function.update_of_ne elsewhere, forward.back linked]
  · intro site target linked
    by_cases atCell : site = .cell position
    · rw [atCell, Function.update_self] at linked
      cases linked
    rw [Function.update_of_ne atCell] at linked
    rw [Site.owner_update_of_ne atCell]
    by_cases atEarlier : site = earlier
    · rw [atEarlier, Function.update_self, Option.some.injEq] at linked
      have notCell : later ≠ .cell position := fun same => atCell (atEarlier.trans (atLoop same))
      rw [← linked, Site.owner_update_of_ne notCell, atEarlier, forward.within follows,
        backward.within precedes]
    rw [Function.update_of_ne atEarlier] at linked
    have notCell : target ≠ .cell position := by
      rintro rfl
      exact atEarlier (onlyEarlier linked)
    rw [Site.owner_update_of_ne notCell, forward.within linked]

/-- An anchor that follows itself. -/
theorem clear (forward : Pointing next previous owner) :
    Pointing (Function.update next (.anchor list) (some (.anchor list)))
      (Function.update previous (.anchor list) (some (.anchor list))) owner := by
  constructor
  · intro site other linked
    by_cases atAnchor : site = .anchor list
    · rw [atAnchor, Function.update_self] at linked
      cases linked
    rw [Function.update_of_ne atAnchor] at linked
    rw [Function.update_of_ne (by simp), forward.back linked]
  · intro site target linked
    by_cases atAnchor : site = .anchor list
    · rw [atAnchor, Function.update_self, Option.some.injEq] at linked
      rw [← linked, atAnchor]
    rw [Function.update_of_ne atAnchor] at linked
    exact forward.within linked

end Pointing

namespace Picture

variable {Value : Type} {picture : Picture Value}

/-- The links of all lists are in order, whatever was pushed, removed and dropped. -/
structure Linked (picture : Picture Value) : Prop where
  forward : Pointing picture.next picture.previous picture.owner
  backward : Pointing picture.previous picture.next picture.owner
  /-- A site has both neighbours or none. -/
  paired : ∀ site, (picture.next site).isSome = (picture.previous site).isSome
  /-- The cells that have neighbours are those that a list owns. -/
  attached : ∀ position, (picture.next (.cell position)).isSome = (picture.owner position).isSome
  /-- A list that owns a cell is in use. -/
  used : ∀ {position list : Nat}, picture.owner position = some list →
    (picture.next (.anchor list)).isSome
  /-- There are no links beyond the cells. -/
  bounded : ∀ position, picture.cells ≤ position → picture.owner position = none
  /-- A list that was never used has no length. -/
  idle : ∀ list, picture.next (.anchor list) = none → picture.length list = 0

theorem isSome_update {next : Site → Option Site} {site : Site} (target other : Site)
    (was : (next site).isSome) :
    (Function.update next site (some target) other).isSome = (next other).isSome := by
  by_cases here : other = site
  · rw [here, Function.update_self, was, Option.isSome_some]
  · rw [Function.update_of_ne here]

namespace Linked

variable {list position : Nat} {earlier later : Site}

/-- The sites of a list in use have neighbours. -/
theorem isSome_next (linked : picture.Linked) (site : Site)
    (owned : site.owner picture.owner = some list)
    (used : (picture.next (.anchor list)).isSome) : (picture.next site).isSome := by
  cases site with
  | anchor other =>
      obtain rfl := Option.some.inj owned
      exact used
  | cell position =>
      rw [linked.attached, show picture.owner position = some list from owned, Option.isSome_some]

theorem isSome_previous (linked : picture.Linked) (site : Site)
    (owned : site.owner picture.owner = some list)
    (used : (picture.next (.anchor list)).isSome) : (picture.previous site).isSome := by
  rw [← linked.paired, linked.isSome_next site owned used]

/-- The site at the end of a list is the way back from what follows it. -/
theorem returns (linked : picture.Linked) {last following : Site}
    (precedes : picture.previous (.anchor list) = some last)
    (follows : picture.next last = some following) : picture.previous following = some last := by
  cases following with
  | anchor other =>
      have same : some other = some list :=
        (linked.forward.within follows).trans (linked.backward.within precedes)
      rw [Option.some.inj same, precedes]
  | cell position => exact linked.forward.back follows

theorem next_eq_none (linked : picture.Linked) (unowned : picture.owner position = none) :
    picture.next (.cell position) = none := by
  rw [← Option.not_isSome_iff_eq_none, linked.attached, unowned]
  exact Bool.false_ne_true

theorem previous_eq_none (linked : picture.Linked) (unowned : picture.owner position = none) :
    picture.previous (.cell position) = none := by
  rw [← Option.not_isSome_iff_eq_none, ← linked.paired, linked.attached, unowned]
  exact Bool.false_ne_true

theorem clear (linked : picture.Linked) (list : Nat) : (picture.clear list).Linked := by
  constructor
  case forward => exact linked.forward.clear
  case backward => exact linked.backward.clear
  case paired =>
    intro site
    dsimp only [Picture.clear]
    by_cases atAnchor : site = .anchor list
    · rw [atAnchor, Function.update_self, Function.update_self]
    · rw [Function.update_of_ne atAnchor, Function.update_of_ne atAnchor, linked.paired]
  case attached =>
    intro position
    dsimp only [Picture.clear]
    rw [Function.update_of_ne (by simp), linked.attached]
  case used =>
    intro position other owned
    dsimp only [Picture.clear]
    by_cases here : other = list
    · rw [here, Function.update_self]
      rfl
    · rw [Function.update_of_ne (by simpa using here)]
      exact linked.used owned
  case bounded => exact linked.bounded
  case idle =>
    intro other
    dsimp only [Picture.clear]
    by_cases here : other = list
    · rw [here, Function.update_self]
      exact nofun
    · rw [Function.update_of_ne (by simpa using here), Function.update_of_ne here]
      exact linked.idle other

theorem replace (linked : picture.Linked) (position : Nat) (value : Value) :
    (picture.replace position value).Linked :=
  ⟨linked.forward, linked.backward, linked.paired, linked.attached, linked.used, linked.bounded,
    linked.idle⟩

theorem prepare (linked : picture.Linked) (list : Nat) : (picture.prepare list).Linked := by
  rw [Picture.prepare]
  split
  · exact linked
  · exact linked.clear list

/-- The neighbours of a new cell had neighbours before, so only the cell gains some. -/
theorem isSome_next_insert (linked : picture.Linked) (list : Nat) (value : Value)
    {last following : Site} (follows : picture.next last = some following) (site : Site) :
    ((picture.insert list value last following).next site).isSome
      = (Function.update picture.next (.cell picture.cells) (some following) site).isSome := by
  have unfollowed := linked.next_eq_none (linked.bounded picture.cells le_rfl)
  have notNew : last ≠ .cell picture.cells := by
    rintro rfl
    simp [unfollowed] at follows
  apply isSome_update
  rw [Function.update_of_ne notNew, follows, Option.isSome_some]

theorem isSome_previous_insert (linked : picture.Linked) (list : Nat) (value : Value)
    {last following : Site} (returns : picture.previous following = some last) (site : Site) :
    ((picture.insert list value last following).previous site).isSome
      = (Function.update picture.previous (.cell picture.cells) (some last) site).isSome := by
  have unpreceded := linked.previous_eq_none (linked.bounded picture.cells le_rfl)
  have notNew : following ≠ .cell picture.cells := by
    rintro rfl
    simp [unpreceded] at returns
  apply isSome_update
  rw [Function.update_of_ne notNew, returns, Option.isSome_some]

theorem insert (linked : picture.Linked) (value : Value) {last following : Site}
    (precedes : picture.previous (.anchor list) = some last)
    (follows : picture.next last = some following) :
    (picture.insert list value last following).Linked := by
  have ofLast : last.owner picture.owner = some list := linked.backward.within precedes
  have ofFollowing : following.owner picture.owner = some list :=
    (linked.forward.within follows).trans ofLast
  have returns := linked.returns precedes follows
  have fresh := linked.bounded picture.cells le_rfl
  have isSome_next := linked.isSome_next_insert list value follows
  have isSome_previous := linked.isSome_previous_insert list value returns
  constructor
  case forward =>
    have unpreceded := linked.previous_eq_none fresh
    exact linked.forward.insert follows ofLast ofFollowing fresh unpreceded
  case backward =>
    have unfollowed := linked.next_eq_none fresh
    exact linked.backward.insert returns ofFollowing ofLast fresh unfollowed
  case paired =>
    intro site
    rw [isSome_next, isSome_previous]
    by_cases atNew : site = .cell picture.cells
    · rw [atNew, Function.update_self, Function.update_self]
      rfl
    · rw [Function.update_of_ne atNew, Function.update_of_ne atNew, linked.paired]
  case attached =>
    intro position
    rw [isSome_next]
    dsimp only [Picture.insert]
    by_cases atNew : position = picture.cells
    · rw [atNew, Function.update_self, Function.update_self]
      rfl
    · rw [Function.update_of_ne (by simpa using atNew), Function.update_of_ne atNew,
        linked.attached]
  case used =>
    intro position other owned
    rw [isSome_next, Function.update_of_ne (by simp)]
    dsimp only [Picture.insert] at owned
    by_cases atNew : position = picture.cells
    · rw [atNew, Function.update_self, Option.some.injEq] at owned
      rw [← owned, linked.paired, precedes]
      rfl
    · rw [Function.update_of_ne atNew] at owned
      exact linked.used owned
  case bounded =>
    intro position beyond
    have larger : picture.cells + 1 ≤ position := beyond
    dsimp only [Picture.insert]
    rw [Function.update_of_ne (by omega)]
    exact linked.bounded position (by omega)
  case idle =>
    intro other unused
    have idle : picture.next (.anchor other) = none := by
      rw [← Option.not_isSome_iff_eq_none] at unused ⊢
      rwa [isSome_next, Function.update_of_ne (by simp)] at unused
    have different : other ≠ list := by
      rintro rfl
      have paired := linked.paired (.anchor other)
      rw [idle, precedes] at paired
      cases paired
    exact (Function.update_of_ne different ..).trans (linked.idle other idle)

theorem remove (linked : picture.Linked) (owned : picture.owner position = some list)
    (precedes : picture.previous (.cell position) = some earlier)
    (follows : picture.next (.cell position) = some later) :
    (picture.remove list position earlier later).Linked := by
  have ofCell : (Site.cell position).owner picture.owner = some list := owned
  have used := linked.used owned
  have wasEarlier : (picture.next earlier).isSome :=
    linked.isSome_next earlier ((linked.backward.within precedes).trans ofCell) used
  have wasLater : (picture.previous later).isSome :=
    linked.isSome_previous later ((linked.forward.within follows).trans ofCell) used
  constructor
  case forward => exact linked.forward.remove linked.backward precedes follows
  case backward => exact linked.backward.remove linked.forward follows precedes
  case paired =>
    intro site
    dsimp only [Picture.remove]
    by_cases atCell : site = .cell position
    · rw [atCell, Function.update_self, Function.update_self]
    · rw [Function.update_of_ne atCell, Function.update_of_ne atCell, isSome_update _ _ wasEarlier,
        isSome_update _ _ wasLater, linked.paired]
  case attached =>
    intro other
    dsimp only [Picture.remove]
    by_cases here : other = position
    · rw [here, Function.update_self, Function.update_self]
      rfl
    · rw [Function.update_of_ne (by simpa using here), Function.update_of_ne here,
        isSome_update _ _ wasEarlier, linked.attached]
  case used =>
    intro other otherList isOwned
    dsimp only [Picture.remove] at isOwned ⊢
    rw [Function.update_of_ne (by simp), isSome_update _ _ wasEarlier]
    by_cases here : other = position
    · rw [here, Function.update_self] at isOwned
      cases isOwned
    · rw [Function.update_of_ne here] at isOwned
      exact linked.used isOwned
  case bounded =>
    intro other beyond
    dsimp only [Picture.remove]
    by_cases here : other = position
    · rw [here, Function.update_self]
    · rw [Function.update_of_ne here]
      exact linked.bounded other beyond
  case idle =>
    intro other unused
    have idle : picture.next (.anchor other) = none := by
      rw [← Option.not_isSome_iff_eq_none] at unused ⊢
      dsimp only [Picture.remove] at unused
      rwa [Function.update_of_ne (by simp), isSome_update _ _ wasEarlier] at unused
    have different : other ≠ list := by
      rintro rfl
      rw [idle] at used
      cases used
    exact (Function.update_of_ne different ..).trans (linked.idle other idle)

/-- Making a list ready changes no length. -/
theorem length_prepare (linked : picture.Linked) (list : Nat) :
    (picture.prepare list).length = picture.length := by
  rw [Picture.prepare]
  split
  · rfl
  next unused =>
    have zero := linked.idle list (Option.not_isSome_iff_eq_none.mp unused)
    rw [Picture.clear, ← zero]
    exact Function.update_eq_self list picture.length

end Linked

end Picture

namespace LinkedLists

variable {Value : Type} {lists : LinkedLists Value} {list position : Nat}

theorem Has.of_owner (has : lists.Has (.anchor list)) {site : Site}
    (owned : site.owner lists.picture.owner = some list) : lists.Has site := by
  cases site with
  | anchor other =>
      obtain rfl := Option.some.inj owned
      exact has
  | cell position => exact has_of_owner owned

theorem picture_unused (count : Nat) (Value : Type) :
    (unused count : LinkedLists Value).picture
      = { next := fun _ => none, previous := fun _ => none, owner := fun _ => none,
          value := fun _ => none, length := fun _ => 0, cells := 0, anchors := count } := by
  ext1
  case next | previous =>
    funext site
    cases site with
    | anchor list =>
        by_cases inside : list < count <;> simp [picture, unused, nextOf, previousOf, inside]
    | cell position => simp [picture, unused, nextOf, previousOf]
  case length =>
    funext list
    by_cases inside : list < count <;> simp [picture, unused, inside]
  case anchors => simp [picture, unused]
  all_goals
    simp [picture, unused]

theorem linked_unused (count : Nat) (Value : Type) :
    (unused count : LinkedLists Value).picture.Linked := by
  rw [picture_unused]
  constructor
  case forward | backward => exact ⟨nofun, nofun⟩
  case used => exact nofun
  case bounded | idle => exact fun _ _ => rfl
  all_goals exact fun _ => rfl

/-- A push always succeeds: the new cell comes between the two ends of the list. -/
theorem exists_push? (linked : lists.picture.Linked) (has : lists.Has (.anchor list))
    (value : Value) :
    ∃ last following pushed, lists.push? list value = some (lists.cells.size, pushed) ∧
      (lists.picture.prepare list).previous (.anchor list) = some last ∧
      (lists.picture.prepare list).next last = some following ∧
      pushed.picture = (lists.picture.prepare list).insert list value last following := by
  have ready := picture_prepare has
  have readyLinked := linked.prepare list
  have used := lists.picture.isSome_next_prepare list
  have size : (lists.prepare list).cells.size = lists.cells.size :=
    (congrArg Picture.cells ready).trans (lists.picture.cells_prepare list)
  rw [← ready] at readyLinked used ⊢
  have readyHas : (lists.prepare list).Has (.anchor list) := has_of_next (Option.some_get used).symm
  obtain ⟨last, precedes⟩ := Option.isSome_iff_exists.mp
    (readyLinked.isSome_previous (.anchor list) rfl used)
  have ofLast := readyLinked.backward.within precedes
  obtain ⟨following, follows⟩ := Option.isSome_iff_exists.mp
    (readyLinked.isSome_next last ofLast used)
  have ofFollowing := (readyLinked.forward.within follows).trans ofLast
  refine ⟨last, following, _, size ▸ push?_eq value precedes follows, precedes, follows, ?_⟩
  exact picture_insertCell value readyHas (readyHas.of_owner ofLast) (readyHas.of_owner ofFollowing)

/-- A cell is removed through its owner from between its neighbours. -/
theorem exists_remove (linked : lists.picture.Linked)
    (owned : lists.picture.owner position = some list) :
    ∃ earlier later, lists.picture.previous (.cell position) = some earlier ∧
      lists.picture.next (.cell position) = some later ∧
      (lists.remove list position).picture = lists.picture.remove list position earlier later := by
  have used := linked.used owned
  have has : lists.Has (.anchor list) := has_of_next (Option.some_get used).symm
  obtain ⟨earlier, precedes⟩ := Option.isSome_iff_exists.mp
    (linked.isSome_previous (.cell position) owned used)
  obtain ⟨later, follows⟩ := Option.isSome_iff_exists.mp
    (linked.isSome_next (.cell position) owned used)
  have ofEarlier := (linked.backward.within precedes).trans owned
  have ofLater := (linked.forward.within follows).trans owned
  exact ⟨earlier, later, precedes, follows,
    picture_remove has owned precedes follows (has.of_owner ofEarlier) (has.of_owner ofLater)⟩

end LinkedLists

end Nominal
