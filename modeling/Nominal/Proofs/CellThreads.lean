import Mathlib.Data.List.Nodup
import Mathlib.Data.List.Perm.Subperm
import Nominal.Proofs.LinkIntegrity

/-!
# The thread through the cells of a list

A list runs from its anchor through its cells and back to the anchor.  Pushing a value puts a cell
before the anchor, removing a cell bypasses it, and what happens to one list leaves the threads of
the others alone, since links stay among the sites of one list.

Following a thread from the first site on reads the list.
-/

namespace Nominal

/-- The last of some sites: a first one and the cells after it. -/
def Site.last (site : Site) : List Nat → Site
  | [] => site
  | position :: rest => (Site.cell position).last rest

/-- Following links from a site leads through some cells, in order, to a target. -/
def Path (next : Site → Option Site) (site : Site) : List Nat → Site → Prop
  | [], target => next site = some target
  | position :: rest, target =>
    next site = some (.cell position) ∧ Path next (.cell position) rest target

namespace Site

variable {site start : Site} {positions : List Nat}

theorem ne_of_owner {owner : Nat → Option Nat} {list other : Nat} {target : Site}
    (different : list ≠ other) (owned : site.owner owner = some list)
    (foreign : target.owner owner = some other) : site ≠ target := by
  rintro rfl
  exact different (Option.some.inj (owned.symm.trans foreign))

/-- The sites of some cells. -/
def cells (positions : List Nat) : List Site :=
  positions.map cell

theorem mem_cells {position : Nat} : cell position ∈ cells positions ↔ position ∈ positions := by
  simp [cells]

theorem cells_append (first second : List Nat) :
    cells (first ++ second) = cells first ++ cells second :=
  List.map_append

theorem last_append (site : Site) (first second : List Nat) :
    site.last (first ++ second) = (site.last first).last second := by
  induction first generalizing site with
  | nil => rfl
  | cons position rest ih => exact ih (cell position)

theorem ne_last (other : site ≠ start) (outside : site ∉ cells positions) :
    site ≠ start.last positions := by
  induction positions generalizing start with
  | nil => exact other
  | cons position rest ih =>
      obtain ⟨apart, outside⟩ := not_or.mp (List.mem_cons.not.mp outside)
      exact ih apart outside

end Site

namespace Path

variable {next changed : Site → Option Site} {site start target other : Site}
  {positions first second : List Nat} {position : Nat}

theorem append_iff :
    Path next site (first ++ position :: second) target
      ↔ Path next site first (.cell position) ∧ Path next (.cell position) second target := by
  induction first generalizing site with
  | nil => rfl
  | cons place rest ih =>
      simp only [List.cons_append, Path, ih]
      exact and_assoc.symm

theorem next_last (path : Path next site positions target) :
    next (site.last positions) = some target := by
  induction positions generalizing site with
  | nil => exact path
  | cons position rest ih => exact ih path.2

/-- A path goes on in the same way from a site that leads to the same place. -/
theorem move (path : Path next site positions target) (leads : changed start = next site)
    (kept : ∀ place ∈ Site.cells positions, changed place = next place) :
    Path changed start positions target := by
  induction positions generalizing site start with
  | nil => exact leads.trans path
  | cons position rest ih =>
      obtain ⟨here, kept⟩ := List.forall_mem_cons.mp kept
      exact ⟨leads.trans path.1, ih path.2 here kept⟩

/-- The last link of a path can be turned elsewhere. -/
theorem turn (path : Path next site positions target)
    (distinct : (site :: Site.cells positions).Nodup) (other : Site) :
    Path (Function.update next (site.last positions) (some other)) site positions other := by
  induction positions generalizing site with
  | nil => exact Function.update_self ..
  | cons position rest ih =>
      obtain ⟨outside, distinct⟩ := List.nodup_cons.mp distinct
      obtain ⟨apart, outside⟩ := not_or.mp (List.mem_cons.not.mp outside)
      refine ⟨?_, ih path.2 distinct⟩
      exact (Function.update_of_ne (Site.ne_last apart outside) ..).trans path.1

/-- A cell is bypassed by linking its neighbours. -/
theorem bypass {later : Site} (path : Path next site (first ++ position :: second) target)
    (follows : next (.cell position) = some later)
    (distinct : (site :: Site.cells (first ++ position :: second)).Nodup) :
    Path
      (Function.update (Function.update next (site.last first) (some later)) (.cell position) none)
      site (first ++ second) target := by
  induction first generalizing site with
  | nil =>
      obtain ⟨outside, distinct⟩ := List.nodup_cons.mp distinct
      obtain ⟨apart, outside⟩ := not_or.mp (List.mem_cons.not.mp outside)
      refine path.2.move ?_ ?_
      · rw [Function.update_of_ne apart, Site.last, Function.update_self, follows]
      · intro place listed
        have notCell : place ≠ .cell position := by
          rintro rfl
          exact (List.nodup_cons.mp distinct).1 listed
        have notSite : place ≠ site := by
          rintro rfl
          exact outside listed
        rw [Function.update_of_ne notCell, Site.last, Function.update_of_ne notSite]
  | cons place rest ih =>
      obtain ⟨outside, distinct⟩ := List.nodup_cons.mp distinct
      obtain ⟨apart, outside⟩ := not_or.mp (List.mem_cons.not.mp outside)
      refine ⟨?_, ih path.2 distinct⟩
      have notCell : site ≠ .cell position := by
        rintro rfl
        exact outside (Site.mem_cells.mpr (by simp))
      have notLast : site ≠ (Site.cell place).last rest := by
        refine Site.ne_last apart fun listed => ?_
        have within : site ∈ Site.cells (rest ++ position :: second) := by
          rw [Site.cells_append]
          exact List.mem_append_left _ listed
        exact outside within
      rw [Function.update_of_ne notCell, Site.last, Function.update_of_ne notLast, path.1]

/-- A path stays among the sites of one list. -/
theorem owner_eq {previous : Site → Option Site} {owner : Nat → Option Nat}
    (path : Path next site positions target) (forward : Pointing next previous owner)
    (listed : position ∈ positions) : owner position = site.owner owner := by
  induction positions generalizing site with
  | nil => cases listed
  | cons place rest ih =>
      have within : owner place = site.owner owner := forward.within path.1
      rcases List.mem_cons.mp listed with rfl | later
      · exact within
      · exact (ih path.2 later).trans within

end Path

theorem filter_ne_of_nodup {first second : List Nat} {position : Nat}
    (distinct : (first ++ position :: second).Nodup) :
    (first ++ position :: second).filter (· ≠ position) = first ++ second := by
  obtain ⟨absent, -⟩ := List.nodup_cons.mp (List.nodup_middle.mp distinct)
  have kept : ∀ place ∈ first ++ second, decide (place ≠ position) = true := by
    intro place listed
    rw [decide_eq_true_eq]
    rintro rfl
    exact absent listed
  rw [List.filter_append, List.filter_cons_of_neg (by simp), ← List.filter_append,
    List.filter_eq_self.mpr kept]

theorem length_filter_ne_of_nodup {positions : List Nat} {position : Nat}
    (distinct : positions.Nodup) (listed : position ∈ positions) :
    (positions.filter (· ≠ position)).length + 1 = positions.length := by
  obtain ⟨first, second, rfl⟩ := List.append_of_mem listed
  rw [filter_ne_of_nodup distinct]
  simp only [List.length_append, List.length_cons]
  omega

namespace Picture

variable {Value : Type} {picture changed : Picture Value} {list : Nat} {positions : List Nat}

/-- A list in use runs through some cells. -/
structure Threads (picture : Picture Value) (list : Nat) (positions : List Nat) : Prop where
  path : Path picture.next (.anchor list) positions (.anchor list)
  last : picture.previous (.anchor list) = some ((Site.anchor list).last positions)
  length : picture.length list = positions.length
  distinct : positions.Nodup

namespace Threads

theorem nodup_sites (distinct : positions.Nodup) :
    (Site.anchor list :: Site.cells positions).Nodup := by
  refine List.nodup_cons.mpr ⟨by simp [Site.cells], ?_⟩
  exact distinct.map fun first second same => Site.cell.inj same

theorem owner_eq (threads : picture.Threads list positions) (linked : picture.Linked)
    {position : Nat} (listed : position ∈ positions) : picture.owner position = some list :=
  threads.path.owner_eq linked.forward listed

theorem lt_cells (threads : picture.Threads list positions) (linked : picture.Linked)
    {position : Nat} (listed : position ∈ positions) : position < picture.cells := by
  by_contra! beyond
  have owned := threads.owner_eq linked listed
  rw [linked.bounded position beyond] at owned
  cases owned

theorem length_le (threads : picture.Threads list positions) (linked : picture.Linked) :
    positions.length ≤ picture.cells := by
  have inside : positions ⊆ List.range picture.cells := fun _ listed =>
    List.mem_range.mpr (threads.lt_cells linked listed)
  simpa using (threads.distinct.subperm inside).length_le

/-- What happens elsewhere leaves the thread alone. -/
theorem frame (threads : picture.Threads list positions) (linked : picture.Linked)
    (next : ∀ site, site.owner picture.owner = some list → changed.next site = picture.next site)
    (previous : changed.previous (.anchor list) = picture.previous (.anchor list))
    (length : changed.length list = picture.length list) : changed.Threads list positions where
  path := by
    refine threads.path.move (next _ rfl) fun site listed => next site ?_
    obtain ⟨position, inside, rfl⟩ := List.mem_map.mp listed
    exact threads.owner_eq linked inside
  last := previous.trans threads.last
  length := length.trans threads.length
  distinct := threads.distinct

theorem clear (picture : Picture Value) (list : Nat) : (picture.clear list).Threads list [] where
  path := Function.update_self ..
  last := Function.update_self ..
  length := Function.update_self ..
  distinct := .nil

/-- A pushed cell comes last. -/
theorem insert (threads : picture.Threads list positions) (linked : picture.Linked) (value : Value)
    {last following : Site} (precedes : picture.previous (.anchor list) = some last)
    (follows : picture.next last = some following) :
    (picture.insert list value last following).Threads list (positions ++ [picture.cells]) := by
  obtain rfl := Option.some.inj (threads.last.symm.trans precedes)
  obtain rfl := Option.some.inj (threads.path.next_last.symm.trans follows)
  have fresh : picture.cells ∉ positions := fun listed =>
    Nat.lt_irrefl _ (threads.lt_cells linked listed)
  have notLast : Site.cell picture.cells ≠ (Site.anchor list).last positions :=
    Site.ne_last (by simp) (Site.mem_cells.not.mpr fresh)
  constructor
  case path =>
    refine Path.append_iff.mpr ⟨?_, ?_⟩
    · refine Path.turn (threads.path.move ?_ ?_) (nodup_sites threads.distinct) _
      · exact Function.update_of_ne (by simp) ..
      · intro site listed
        apply Function.update_of_ne
        rintro rfl
        exact fresh (Site.mem_cells.mp listed)
    · exact (Function.update_of_ne notLast ..).trans (Function.update_self ..)
  case last =>
    rw [Site.last_append]
    exact Function.update_self ..
  case length =>
    dsimp only [Picture.insert]
    rw [Function.update_self, threads.length, List.length_append, List.length_singleton,
      Int.natCast_add]
    rfl
  case distinct =>
    exact threads.distinct.append (List.nodup_singleton _) (List.disjoint_singleton.mpr fresh)

/-- A removed cell is bypassed. -/
theorem remove (threads : picture.Threads list positions) (linked : picture.Linked)
    {position : Nat} (listed : position ∈ positions) {earlier later : Site}
    (precedes : picture.previous (.cell position) = some earlier)
    (follows : picture.next (.cell position) = some later) :
    (picture.remove list position earlier later).Threads list
      (positions.filter (· ≠ position)) := by
  obtain ⟨first, second, rfl⟩ := List.append_of_mem listed
  have split := Path.append_iff.mp threads.path
  obtain rfl : (Site.anchor list).last first = earlier :=
    Option.some.inj ((linked.forward.back split.1.next_last).symm.trans precedes)
  rw [filter_ne_of_nodup threads.distinct]
  constructor
  case path => exact threads.path.bypass follows (nodup_sites threads.distinct)
  case last =>
    dsimp only [Picture.remove]
    rw [Function.update_of_ne (by simp)]
    cases second with
    | nil =>
        obtain rfl := Option.some.inj (split.2.symm.trans follows)
        rw [Function.update_self, List.append_nil]
    | cons place rest =>
        obtain rfl := Option.some.inj (split.2.1.symm.trans follows)
        rw [Function.update_of_ne (by simp), threads.last, Site.last_append, Site.last_append]
        rfl
  case length =>
    dsimp only [Picture.remove]
    rw [Function.update_self, threads.length]
    simp only [List.length_append, List.length_cons]
    omega
  case distinct => exact threads.distinct.sublist (by simp)

end Threads

/-- A list keeps some cells: it runs through them, or there are none and it was never used. -/
def Keeps (picture : Picture Value) (list : Nat) (positions : List Nat) : Prop :=
  picture.Threads list positions ∨
    picture.next (.anchor list) = none ∧ picture.length list = 0 ∧ positions = []

namespace Keeps

variable {other : Nat} {last following : Site}

theorem prepare (keeps : picture.Keeps list positions) :
    (picture.prepare list).Threads list positions := by
  rw [Picture.prepare]
  rcases keeps with threads | ⟨unused, -, rfl⟩
  · have used : (picture.next (.anchor list)).isSome := by
      cases positions with
      | nil => exact Option.isSome_of_eq_some threads.path
      | cons position rest => exact Option.isSome_of_eq_some threads.path.1
    rw [if_pos used]
    exact threads
  · rw [unused]
    exact .clear picture list

/-- What happens elsewhere leaves the cells alone. -/
theorem frame (keeps : picture.Keeps list positions) (linked : picture.Linked)
    (next : ∀ site, site.owner picture.owner = some list → changed.next site = picture.next site)
    (previous : changed.previous (.anchor list) = picture.previous (.anchor list))
    (length : changed.length list = picture.length list) : changed.Keeps list positions := by
  rcases keeps with threads | ⟨unused, zero, empty⟩
  · exact .inl (threads.frame linked next previous length)
  · exact .inr ⟨(next _ rfl).trans unused, length.trans zero, empty⟩

theorem clear (keeps : picture.Keeps list positions) (linked : picture.Linked)
    (different : list ≠ other) : (picture.clear other).Keeps list positions := by
  refine keeps.frame linked ?_ ?_ ?_
  · exact fun site owned => Function.update_of_ne (Site.ne_of_owner different owned rfl) ..
  · exact Function.update_of_ne (by simpa using different) ..
  · exact Function.update_of_ne different ..

theorem replace (keeps : picture.Keeps list positions) (linked : picture.Linked) (position : Nat)
    (value : Value) : (picture.replace position value).Keeps list positions :=
  keeps.frame linked (fun _ _ => rfl) rfl rfl

/-- Making a list ready changes no list. -/
theorem prepared (keeps : picture.Keeps list positions) (linked : picture.Linked) (other : Nat) :
    (picture.prepare other).Keeps list positions := by
  by_cases different : list = other
  · exact .inl (different ▸ keeps.prepare)
  · rw [Picture.prepare]
    split
    · exact keeps
    · exact keeps.clear linked different

theorem insert (keeps : picture.Keeps list positions) (linked : picture.Linked)
    (different : list ≠ other) (value : Value)
    (precedes : picture.previous (.anchor other) = some last)
    (follows : picture.next last = some following) :
    (picture.insert other value last following).Keeps list positions := by
  have ofLast : last.owner picture.owner = some other := linked.backward.within precedes
  have ofFollowing := (linked.forward.within follows).trans ofLast
  have ofAnchor : (Site.anchor list).owner picture.owner = some list := rfl
  have notNew : ∀ site : Site,
      site.owner picture.owner = some list → site ≠ .cell picture.cells := by
    rintro site owned rfl
    rw [Site.owner, linked.bounded _ le_rfl] at owned
    cases owned
  refine keeps.frame linked ?_ ?_ ?_
  · intro site owned
    exact (Function.update_of_ne (Site.ne_of_owner different owned ofLast) ..).trans
      (Function.update_of_ne (notNew site owned) ..)
  · exact (Function.update_of_ne (Site.ne_of_owner different ofAnchor ofFollowing) ..).trans
      (Function.update_of_ne (notNew _ rfl) ..)
  · exact Function.update_of_ne different ..

theorem remove (keeps : picture.Keeps list positions) (linked : picture.Linked)
    (different : list ≠ other) {position : Nat} (owned : picture.owner position = some other)
    {earlier later : Site} (precedes : picture.previous (.cell position) = some earlier)
    (follows : picture.next (.cell position) = some later) :
    (picture.remove other position earlier later).Keeps list positions := by
  have ofCell : (Site.cell position).owner picture.owner = some other := owned
  have ofEarlier := (linked.backward.within precedes).trans ofCell
  have ofLater := (linked.forward.within follows).trans ofCell
  have ofAnchor : (Site.anchor list).owner picture.owner = some list := rfl
  refine keeps.frame linked ?_ ?_ ?_
  · intro site inside
    exact (Function.update_of_ne (Site.ne_of_owner different inside ofCell) ..).trans
      (Function.update_of_ne (Site.ne_of_owner different inside ofEarlier) ..)
  · dsimp only [Picture.remove]
    rw [Function.update_of_ne (Site.ne_of_owner different ofAnchor ofCell),
      Function.update_of_ne (Site.ne_of_owner different ofAnchor ofLater)]
  · exact Function.update_of_ne different ..

end Keeps

end Picture

/-! ## Reading a list -/

namespace LinkedLists

variable {Value : Type} {lists : LinkedLists Value} {list : Nat} {positions before rest : List Nat}

theorem front?_eq (lists : LinkedLists Value) (list : Nat) :
    lists.front? list
      = if lists.picture.length list = 0 then none else lists.picture.next (.anchor list) := by
  cases found : lists.anchors[list]? <;> simp [front?, picture, nextOf, found]

theorem next?_cell (lists : LinkedLists Value) (position : Nat) :
    lists.next? (.cell position) = (lists.picture.owner position).bind fun list =>
      if lists.picture.next (.cell position) = some (.anchor list) then none
      else lists.picture.next (.cell position) := by
  cases found : lists.cells[position]? with
  | none => simp [next?, picture, found]
  | some cell => cases owner : cell.owner <;> simp [next?, picture, nextOf, found, owner]

/-- A list starts with its first cell. -/
theorem front?_of_keeps (keeps : lists.picture.Keeps list positions) :
    lists.front? list = positions.head?.map .cell := by
  rw [front?_eq]
  rcases keeps with threads | ⟨-, zero, rfl⟩
  · rw [threads.length]
    cases positions with
    | nil => rfl
    | cons position rest =>
        have positive : ((position :: rest).length : Int) ≠ 0 :=
          Int.natCast_ne_zero.mpr (Nat.succ_ne_zero _)
        rw [if_neg positive, threads.path.1]
        rfl
  · rw [if_pos zero]
    rfl

/-- The site after a cell is the next cell of the list, if there is one. -/
theorem next?_of_threads {position : Nat} {after : List Nat}
    (threads : lists.picture.Threads list (before ++ position :: after))
    (linked : lists.picture.Linked) :
    lists.next? (.cell position) = after.head?.map .cell := by
  have listed : position ∈ before ++ position :: after := by simp
  have owned := threads.owner_eq linked listed
  have ahead := (Path.append_iff.mp threads.path).2
  rw [next?_cell, owned, Option.bind_some]
  cases after with
  | nil => exact if_pos ahead
  | cons place rest =>
      rw [ahead.1]
      exact if_neg (by simp)

/-- A removed cell has no successor. -/
theorem next?_of_owner_eq_none {position : Nat} (removed : lists.picture.owner position = none) :
    lists.next? (.cell position) = none := by
  rw [next?_cell, removed]
  rfl

theorem sitesFrom_of_threads (linked : lists.picture.Linked) {steps : Nat}
    (threads : lists.picture.Threads list (before ++ rest)) (enough : rest.length ≤ steps) :
    lists.sitesFrom steps (rest.head?.map .cell) = rest.map .cell := by
  induction rest generalizing before steps with
  | nil => cases steps <;> rfl
  | cons position rest ih =>
      cases steps with
      | zero => cases enough
      | succ steps =>
          rw [List.head?_cons, Option.map_some, sitesFrom, next?_of_threads threads linked,
            List.map_cons]
          rw [List.append_cons] at threads
          rw [ih threads (Nat.le_of_succ_le_succ enough)]

theorem sites_of_keeps (linked : lists.picture.Linked)
    (keeps : lists.picture.Keeps list positions) : lists.sites list = positions.map .cell := by
  rw [sites, front?_of_keeps keeps]
  rcases keeps with threads | ⟨-, -, rfl⟩
  · have whole : lists.picture.Threads list ([] ++ positions) := threads
    exact sitesFrom_of_threads linked whole (Nat.le_succ_of_le (threads.length_le linked))
  · rfl

end LinkedLists

end Nominal
