import Nominal.Proofs.Runs

/-!
# The order of ancestors

A type can wait several times, at several ranks, and it is marked when it is taken and not when it
is staged.  The queue is nevertheless a first-in-first-out queue: what is staged comes after
everything that was staged before, in every order that priorities have.  The first entry of a type
is then one with a shortest path, and the order of ancestors is that of a plain breadth-first
traversal, which lets each type wait once.

Three invariants of a traversal say this: `Staging.InOrder` of the order of what was taken and what
waits, `Staging.Explores` of the paths to it, and `Staging.Resumes` of the plain traversal that
goes on from it.
-/

namespace Nominal

/-! ## Paths and plain traversals -/

namespace Graph

/-- A path of a number of links leads up to the ancestor. -/
inductive Climbs (graph : Graph) (type : TypeId) : Nat → TypeId → Prop where
  | start : graph.Climbs type 0 type
  | link {length : Nat} {below above : TypeId} (path : graph.Climbs type length below)
      (link : graph.Extends below above) : graph.Climbs type (length + 1) above

theorem Climbs.reaches {graph : Graph} {type ancestor : TypeId} {length : Nat}
    (path : graph.Climbs type length ancestor) : graph.Reaches type ancestor := by
  induction path with
  | start => exact .refl
  | link _ link induction => exact induction.tail link

theorem exists_climbs {graph : Graph} {type ancestor : TypeId}
    (path : graph.Reaches type ancestor) : ∃ length, graph.Climbs type length ancestor := by
  induction path with
  | refl => exact ⟨0, .start⟩
  | tail _ link induction =>
      obtain ⟨length, path⟩ := induction
      exact ⟨length + 1, path.link link⟩

/-- Lets a type wait behind the others, unless it is done or waits already. -/
def enqueue (done waiting : List TypeId) (type : TypeId) : List TypeId :=
  if type ∈ done ∨ type ∈ waiting then waiting else waiting ++ [type]

/-- Lets some types wait behind the others, one after the other. -/
def enqueueAll (done waiting types : List TypeId) : List TypeId :=
  types.foldl (enqueue done) waiting

/-- A plain breadth-first traversal: the type that has waited longest is done next, and its direct
supertypes wait behind the others, the parent before the interfaces and these in the order of their
declaration.  The last argument is the order in which the types are done at the end. -/
inductive BreadthFirst (graph : Graph) : List TypeId → List TypeId → List TypeId → Prop where
  | ended (done : List TypeId) : graph.BreadthFirst done [] done
  | next {done waiting order : List TypeId} {type : TypeId}
      (rest : graph.BreadthFirst (done ++ [type])
        (enqueueAll (done ++ [type]) waiting (graph.supertypesOf type)) order) :
      graph.BreadthFirst done (type :: waiting) order

section Enqueue

variable {done waiting types : List TypeId} {type : TypeId}

theorem enqueueAll_cons_of_mem (known : type ∈ done) :
    enqueueAll done waiting (type :: types) = enqueueAll done waiting types := by
  simp only [enqueueAll, List.foldl_cons, enqueue, known, true_or, if_true]

theorem enqueueAll_append (done waiting types more : List TypeId) :
    enqueueAll done waiting (types ++ more)
      = enqueueAll done (enqueueAll done waiting types) more :=
  List.foldl_append

/-- What is first in the queue might as well be done already. -/
theorem enqueueAll_first (done waiting types : List TypeId) (type : TypeId) :
    enqueueAll done (type :: waiting) types
      = type :: enqueueAll (done ++ [type]) waiting types := by
  induction types generalizing waiting with
  | nil => rfl
  | cons first rest induction =>
      have same : enqueue done (type :: waiting) first
          = type :: enqueue (done ++ [type]) waiting first := by
        by_cases known : first ∈ done ∨ first = type ∨ first ∈ waiting
        · simp [enqueue, known, or_assoc]
        · simp [enqueue, known, or_assoc]
      simp only [enqueueAll, List.foldl_cons, same]
      exact induction (enqueue (done ++ [type]) waiting first)

theorem enqueueAll_cons_of_notMem (fresh : type ∉ done) :
    enqueueAll done [] (type :: types) = type :: enqueueAll (done ++ [type]) [] types := by
  have waits : enqueue done [] type = [type] := by
    simp [enqueue, fresh]
  rw [← enqueueAll_first]
  simp only [enqueueAll, List.foldl_cons, waits]

/-- What is done need not be asked to wait. -/
theorem enqueueAll_filter (keep : TypeId → Bool) (others : ∀ type, keep type = false → type ∈ done)
    (waiting types : List TypeId) :
    enqueueAll done waiting (types.filter keep) = enqueueAll done waiting types := by
  induction types generalizing waiting with
  | nil => rfl
  | cons first rest induction =>
      cases kept : keep first with
      | true =>
          rw [List.filter_cons_of_pos kept]
          exact induction (enqueue done waiting first)
      | false =>
          rw [List.filter_cons_of_neg (by simp [kept]),
            enqueueAll_cons_of_mem (others first kept)]
          exact induction waiting

end Enqueue

end Graph

/-! ## The queue is first in, first out -/

namespace TypePriority

/-- The first priority was staged before the second one, at the same rank or at a smaller one. -/
structure Precedes (priority other : TypePriority) : Prop where
  rank : priority.rank ≤ other.rank
  inRankOrder : priority.rank = other.rank → priority.inRankOrder < other.inRankOrder
  totalOrder : priority.totalOrder < other.totalOrder

theorem Precedes.isBefore {priority other : TypePriority} (precedes : priority.Precedes other) :
    priority.isBefore other = true := by
  unfold TypePriority.isBefore
  by_cases same : priority.rank = other.rank
  · have earlier := precedes.inRankOrder same
    rw [if_neg (not_not_intro same), if_pos (Nat.ne_of_lt earlier)]
    exact decide_eq_true earlier
  · rw [if_pos same]
    exact decide_eq_true (Nat.lt_of_le_of_ne precedes.rank same)

theorem Precedes.not_isBefore {priority other : TypePriority}
    (precedes : priority.Precedes other) : other.isBefore priority = false := by
  unfold TypePriority.isBefore
  by_cases same : priority.rank = other.rank
  · have earlier := precedes.inRankOrder same
    rw [if_neg (not_not_intro same.symm), if_pos (Nat.ne_of_gt earlier)]
    exact decide_eq_false (Nat.lt_asymm earlier)
  · rw [if_pos (Ne.symm same)]
    exact decide_eq_false (Nat.not_lt_of_le precedes.rank)

theorem earliest_eq_self {priority : TypePriority} {others : List TypePriority}
    (first : ∀ other ∈ others, priority.Precedes other) : priority.earliest others = priority := by
  induction others with
  | nil => rfl
  | cons other rest induction =>
      have later := (first other List.mem_cons_self).not_isBefore
      unfold earliest
      rw [if_neg (by simp [later])]
      exact induction fun waiting listed => first waiting (List.mem_cons_of_mem other listed)

end TypePriority

namespace Staging

variable {staging : Staging} {taken rest : List TypePriority} {first : TypePriority} {rank : Nat}

theorem stage_of_mem {type : TypeId} (known : type ∈ staging.visited) :
    staging.stage rank type = staging :=
  if_pos known

/-- How many types have been staged at a rank. -/
def countAt (staging : Staging) (rank : Nat) : Nat :=
  (staging.rankOrders.get? rank).getD 0

theorem stage_of_notMem {type : TypeId} (fresh : type ∉ staging.visited) :
    staging.stage rank type =
      { staging with
        queue := staging.queue ++ [⟨type, rank, staging.countAt rank, staging.totalOrder⟩]
        rankOrders := staging.rankOrders.set rank (staging.countAt rank + 1)
        totalOrder := staging.totalOrder + 1 } :=
  if_neg fresh

/-- What was taken and what waits are in the order in which they were staged, and what waits has
the given rank or the next one. -/
structure InOrder (taken : List TypePriority) (staging : Staging) (rank : Nat) : Prop where
  ordered : (taken ++ staging.queue).Pairwise TypePriority.Precedes
  atLeast : ∀ waiting ∈ staging.queue, rank ≤ waiting.rank
  atMost : ∀ priority ∈ taken ++ staging.queue, priority.rank ≤ rank + 1
  counted : ∀ priority ∈ taken ++ staging.queue,
    priority.inRankOrder < staging.countAt priority.rank
  numbered : ∀ priority ∈ taken ++ staging.queue, priority.totalOrder < staging.totalOrder

theorem InOrder.precedes (inOrder : InOrder taken staging rank)
    (queued : staging.queue = first :: rest) : ∀ waiting ∈ rest, first.Precedes waiting := by
  have ordered := inOrder.ordered
  rw [queued] at ordered
  exact (List.pairwise_cons.mp (List.pairwise_append.mp ordered).2.1).1

/-- The first of the staged types is the one that is taken. -/
theorem InOrder.take? (inOrder : InOrder taken staging rank)
    (queued : staging.queue = first :: rest) :
    staging.take? = some (first, { staging with queue := rest }) := by
  have earliest := TypePriority.earliest_eq_self (inOrder.precedes queued)
  unfold Staging.take?
  simp only [queued, earliest, List.erase_cons_head]

theorem InOrder.skip (inOrder : InOrder taken staging rank)
    (queued : staging.queue = first :: rest) :
    InOrder taken { staging with queue := rest } rank := by
  have shorter : (taken ++ rest).Sublist (taken ++ staging.queue) := by
    rw [queued]
    exact (List.sublist_cons_self first rest).append_left taken
  exact
    { ordered := inOrder.ordered.sublist shorter
      atLeast := fun waiting listed =>
        inOrder.atLeast waiting (queued ▸ List.mem_cons_of_mem first listed)
      atMost := fun priority listed => inOrder.atMost priority (shorter.subset listed)
      counted := fun priority listed => inOrder.counted priority (shorter.subset listed)
      numbered := fun priority listed => inOrder.numbered priority (shorter.subset listed) }

theorem InOrder.take (inOrder : InOrder taken staging rank)
    (queued : staging.queue = first :: rest) (visited : List TypeId) :
    InOrder (taken ++ [first]) { staging with queue := rest, visited } first.rank := by
  have same : (taken ++ [first]) ++ rest = taken ++ staging.queue := by
    rw [queued, List.append_assoc, List.singleton_append]
  have least : rank ≤ first.rank := inOrder.atLeast first (queued ▸ List.mem_cons_self)
  exact
    { ordered := same ▸ inOrder.ordered
      atLeast := fun waiting listed => (inOrder.precedes queued waiting listed).rank
      atMost := fun priority listed =>
        (inOrder.atMost priority (same ▸ listed)).trans (Nat.succ_le_succ least)
      counted := fun priority listed => inOrder.counted priority (same ▸ listed)
      numbered := fun priority listed => inOrder.numbered priority (same ▸ listed) }

/-- What is staged at the next rank comes after everything else. -/
theorem InOrder.stage (inOrder : InOrder taken staging rank) (type : TypeId) :
    InOrder taken (staging.stage (rank + 1) type) rank := by
  by_cases known : type ∈ staging.visited
  · rwa [stage_of_mem known]
  · rw [stage_of_notMem known]
    have counts : ∀ asked, Staging.countAt
        { staging with
          queue := staging.queue ++
            [⟨type, rank + 1, staging.countAt (rank + 1), staging.totalOrder⟩]
          rankOrders := staging.rankOrders.set (rank + 1) (staging.countAt (rank + 1) + 1)
          totalOrder := staging.totalOrder + 1 } asked
        = if asked = rank + 1 then staging.countAt (rank + 1) + 1 else staging.countAt asked := by
      intro asked
      unfold countAt
      rw [Table.get?_set]
      split <;> rfl
    have split : ∀ {priority}, priority ∈ taken ++ (staging.queue ++
          [⟨type, rank + 1, staging.countAt (rank + 1), staging.totalOrder⟩]) →
        priority ∈ taken ++ staging.queue ∨
          priority = ⟨type, rank + 1, staging.countAt (rank + 1), staging.totalOrder⟩ := by
      intro priority listed
      rwa [← List.append_assoc, List.mem_append, List.mem_singleton] at listed
    constructor
    case ordered =>
      rw [← List.append_assoc]
      refine List.pairwise_append.mpr ⟨inOrder.ordered, List.pairwise_singleton _ _, ?_⟩
      intro priority listed added isAdded
      rw [List.mem_singleton.mp isAdded]
      refine ⟨inOrder.atMost priority listed, ?_, inOrder.numbered priority listed⟩
      intro same
      have counted := inOrder.counted priority listed
      rwa [same] at counted
    case atLeast =>
      intro waiting listed
      rcases List.mem_append.mp listed with old | new
      · exact inOrder.atLeast waiting old
      · rw [List.mem_singleton.mp new]
        exact Nat.le_succ rank
    case atMost =>
      intro priority listed
      rcases split listed with old | rfl
      · exact inOrder.atMost priority old
      · exact Nat.le_refl _
    case counted =>
      intro priority listed
      rw [counts]
      rcases split listed with old | rfl
      · have counted := inOrder.counted priority old
        by_cases here : priority.rank = rank + 1
        · rw [if_pos here]
          rw [here] at counted
          exact Nat.lt_succ_of_lt counted
        · rwa [if_neg here]
      · rw [if_pos rfl]
        exact Nat.lt_succ_self _
    case numbered =>
      intro priority listed
      rcases split listed with old | rfl
      · exact Nat.lt_succ_of_lt (inOrder.numbered priority old)
      · exact Nat.lt_succ_self _

theorem InOrder.stageAll (inOrder : InOrder taken staging rank) (types : List TypeId) :
    InOrder taken (staging.stageAll (rank + 1) types) rank := by
  induction types generalizing staging with
  | nil => exact inOrder
  | cons type types induction => exact induction (inOrder.stage type)

/-! ## Every path is followed -/

theorem stageAll_cons (staging : Staging) (rank : Nat) (type : TypeId) (types : List TypeId) :
    staging.stageAll rank (type :: types) = (staging.stage rank type).stageAll rank types :=
  rfl

/-- What a staging adds to the queue. -/
theorem exists_staged (staging : Staging) (rank : Nat) (types : List TypeId) :
    ∃ staged : List TypePriority,
      (staging.stageAll rank types).queue = staging.queue ++ staged ∧
        staged.map (·.type) = types.filter (· ∉ staging.visited) ∧
        ∀ priority ∈ staged, priority.rank = rank := by
  induction types generalizing staging with
  | nil => exact ⟨[], (List.append_nil _).symm, rfl, fun _ listed => by cases listed⟩
  | cons type types induction =>
      obtain ⟨staged, queue, names, ranked⟩ := induction (staging.stage rank type)
      rw [stage_visited] at names
      rw [stageAll_cons]
      by_cases known : type ∈ staging.visited
      · rw [stage_of_mem known] at queue ⊢
        refine ⟨staged, queue, ?_, ranked⟩
        rw [names, List.filter_cons_of_neg (by simpa using known)]
      · rw [queue, stage_of_notMem known]
        refine ⟨⟨type, rank, staging.countAt rank, staging.totalOrder⟩ :: staged, ?_, ?_, ?_⟩
        · rw [List.append_assoc, List.singleton_append]
        · rw [List.map_cons, names, List.filter_cons_of_pos (by simpa using known)]
        · intro priority listed
          rcases List.mem_cons.mp listed with rfl | later
          · rfl
          · exact ranked priority later

/-- The staging when an entry was taken off the queue, its type was not taken before, and its
supertypes were staged. -/
def taking (staging : Staging) (graph : Graph) (first : TypePriority) (rest : List TypePriority) :
    Staging :=
  { staging with queue := rest, visited := first.type :: staging.visited }.stageAll
    (first.rank + 1) (graph.supertypesOf first.type)

@[simp]
theorem taking_visited (staging : Staging) (graph : Graph) (first : TypePriority)
    (rest : List TypePriority) :
    (staging.taking graph first rest).visited = first.type :: staging.visited :=
  stageAll_visited ..

theorem exists_taking (staging : Staging) (graph : Graph) (first : TypePriority)
    (rest : List TypePriority) :
    ∃ staged : List TypePriority,
      (staging.taking graph first rest).queue = rest ++ staged ∧
        staged.map (·.type)
          = (graph.supertypesOf first.type).filter (· ∉ first.type :: staging.visited) ∧
        ∀ priority ∈ staged, priority.rank = first.rank + 1 :=
  exists_staged ..

/-- The type was taken or waits, at a rank that is not above the bound. -/
def Meets (taken : List TypePriority) (staging : Staging) (type : TypeId) (bound : Nat) : Prop :=
  ∃ priority ∈ taken ++ staging.queue, priority.type = type ∧ priority.rank ≤ bound

/-- What was taken and what waits is reached by paths as long as its rank, what was taken is reached
by no shorter path, and the supertypes of what was taken were met. -/
structure Explores (graph : Graph) (start : TypeId) (taken : List TypePriority)
    (staging : Staging) : Prop where
  visited : ∀ type, type ∈ staging.visited ↔ type ∈ taken.map (·.type)
  distinct : (taken.map (·.type)).Nodup
  climbs : ∀ priority ∈ taken ++ staging.queue, graph.Climbs start priority.rank priority.type
  shortest : ∀ priority ∈ taken, ∀ length,
    graph.Climbs start length priority.type → priority.rank ≤ length
  started : Meets taken staging start 0
  covered : ∀ priority ∈ taken, ∀ supertype, graph.Extends priority.type supertype →
    Meets taken staging supertype (priority.rank + 1)

variable {graph : Graph} {start : TypeId}

/-- A path leads to what was taken, or something on it waits. -/
theorem Explores.near (explores : Explores graph start taken staging) {length : Nat}
    {ancestor : TypeId} (path : graph.Climbs start length ancestor) :
    (∃ priority ∈ taken, priority.type = ancestor ∧ priority.rank ≤ length) ∨
      ∃ waiting ∈ staging.queue, waiting.rank ≤ length := by
  have split : ∀ {type bound}, Meets taken staging type bound →
      (∃ priority ∈ taken, priority.type = type ∧ priority.rank ≤ bound) ∨
        ∃ waiting ∈ staging.queue, waiting.rank ≤ bound := by
    rintro type bound ⟨priority, listed, same, low⟩
    rcases List.mem_append.mp listed with done | queued
    · exact .inl ⟨priority, done, same, low⟩
    · exact .inr ⟨priority, queued, low⟩
  induction path with
  | start => exact split explores.started
  | @link length below above _ link induction =>
      rcases induction with ⟨priority, done, rfl, low⟩ | ⟨waiting, queued, low⟩
      · obtain ⟨met, listed, same, near⟩ := explores.covered priority done above link
        exact split ⟨met, listed, same, near.trans (Nat.succ_le_succ low)⟩
      · exact .inr ⟨waiting, queued, low.trans (Nat.le_succ length)⟩

/-- A type that was visited was taken before anything that waits. -/
theorem Explores.taken_before (explores : Explores graph start taken staging)
    (inOrder : InOrder taken staging rank) {type : TypeId} (known : type ∈ staging.visited)
    {waiting : TypePriority} (queued : waiting ∈ staging.queue) :
    ∃ priority ∈ taken, priority.type = type ∧ priority.rank ≤ waiting.rank := by
  obtain ⟨priority, done, same⟩ := List.mem_map.mp ((explores.visited type).mp known)
  have precedes := (List.pairwise_append.mp inOrder.ordered).2.2 priority done waiting queued
  exact ⟨priority, done, same, precedes.rank⟩

theorem Explores.skip (explores : Explores graph start taken staging)
    (inOrder : InOrder taken staging rank) (queued : staging.queue = first :: rest)
    (known : first.type ∈ staging.visited) :
    Explores graph start taken { staging with queue := rest } := by
  have shorter : ∀ priority ∈ taken ++ rest, priority ∈ taken ++ staging.queue := by
    rw [queued]
    exact fun _ listed => ((List.sublist_cons_self first rest).append_left taken).subset listed
  -- Whatever the first entry stands for is also met by the entry that was taken before it.
  have meets : ∀ {type bound}, Meets taken staging type bound →
      Meets taken { staging with queue := rest } type bound := by
    rintro type bound ⟨priority, listed, rfl, low⟩
    rw [queued] at listed
    rcases List.mem_append.mp listed with done | waits
    · exact ⟨priority, List.mem_append_left _ done, rfl, low⟩
    · rcases List.mem_cons.mp waits with rfl | later
      · obtain ⟨earlier, done, same, lower⟩ :=
          explores.taken_before inOrder known (queued ▸ List.mem_cons_self)
        exact ⟨earlier, List.mem_append_left _ done, same, lower.trans low⟩
      · exact ⟨priority, List.mem_append_right _ later, rfl, low⟩
  exact
    { visited := explores.visited
      distinct := explores.distinct
      climbs := fun priority listed => explores.climbs priority (shorter priority listed)
      shortest := explores.shortest
      started := meets explores.started
      covered := fun priority done supertype link =>
        meets (explores.covered priority done supertype link) }

theorem Explores.take (explores : Explores graph start taken staging)
    (inOrder : InOrder taken staging rank) (queued : staging.queue = first :: rest)
    (fresh : first.type ∉ staging.visited) :
    Explores graph start (taken ++ [first]) (staging.taking graph first rest) := by
  obtain ⟨staged, queue, names, ranked⟩ := staging.exists_taking graph first rest
  have firstQueued : first ∈ staging.queue := queued ▸ List.mem_cons_self
  have longer : (taken ++ [first]) ++ (rest ++ staged) = (taken ++ staging.queue) ++ staged := by
    rw [queued]
    simp only [List.append_assoc, List.cons_append, List.nil_append]
  have meets : ∀ {type bound}, Meets taken staging type bound →
      Meets (taken ++ [first]) (staging.taking graph first rest) type bound := by
    rintro type bound ⟨priority, listed, same, low⟩
    refine ⟨priority, ?_, same, low⟩
    rw [queue, longer]
    exact List.mem_append_left staged listed
  constructor
  case visited =>
    intro type
    rw [taking_visited, List.map_append, List.mem_append, ← explores.visited type]
    simp only [List.mem_cons, List.map_cons, List.map_nil, List.not_mem_nil, or_false]
    exact or_comm
  case distinct =>
    rw [List.map_append]
    refine List.Nodup.append explores.distinct (List.nodup_singleton first.type) ?_
    rw [List.map_singleton, List.disjoint_singleton]
    exact fun listed => fresh ((explores.visited first.type).mpr listed)
  case climbs =>
    intro priority listed
    rw [queue, longer] at listed
    rcases List.mem_append.mp listed with old | new
    · exact explores.climbs priority old
    · have supertype : priority.type ∈ graph.supertypesOf first.type := by
        have named : priority.type ∈ staged.map (·.type) :=
          List.mem_map.mpr ⟨priority, new, rfl⟩
        rw [names] at named
        exact List.mem_of_mem_filter named
      rw [ranked priority new]
      exact (explores.climbs first (List.mem_append_right taken firstQueued)).link supertype
  case shortest =>
    intro priority listed length path
    rcases List.mem_append.mp listed with done | last
    · exact explores.shortest priority done length path
    · obtain rfl := List.mem_singleton.mp last
      rcases explores.near path with ⟨earlier, done, same, -⟩ | ⟨waiting, waits, low⟩
      · exact absurd ((explores.visited _).mpr (List.mem_map.mpr ⟨earlier, done, same⟩)) fresh
      · rw [queued] at waits
        rcases List.mem_cons.mp waits with rfl | later
        · exact low
        · exact (inOrder.precedes queued waiting later).rank.trans low
  case started => exact meets explores.started
  case covered =>
    intro priority listed supertype link
    rcases List.mem_append.mp listed with done | last
    · exact meets (explores.covered priority done supertype link)
    · obtain rfl := List.mem_singleton.mp last
      by_cases known : supertype ∈ priority.type :: staging.visited
      · rcases List.mem_cons.mp known with rfl | old
        · exact meets ⟨priority, List.mem_append_right taken firstQueued, rfl, Nat.le_succ _⟩
        · obtain ⟨earlier, done, same, lower⟩ := explores.taken_before inOrder old firstQueued
          exact meets
            ⟨earlier, List.mem_append_left _ done, same, lower.trans (Nat.le_succ _)⟩
      · have named : supertype ∈ staged.map (·.type) := by
          rw [names]
          exact List.mem_filter.mpr ⟨link, decide_eq_true known⟩
        obtain ⟨waiting, new, rfl⟩ := List.mem_map.mp named
        refine ⟨waiting, ?_, rfl, Nat.le_of_eq (ranked waiting new)⟩
        rw [queue, longer]
        exact List.mem_append_right _ new

/-! ## The plain traversal goes on -/

/-- However the plain traversal goes on from what was taken and what waits for the first time, that
is how it goes on from its start. -/
def Resumes (graph : Graph) (start : TypeId) (taken : List TypePriority) (staging : Staging) :
    Prop :=
  ∀ order,
    graph.BreadthFirst (taken.map (·.type))
        (Graph.enqueueAll (taken.map (·.type)) [] (staging.queue.map (·.type))) order →
      graph.BreadthFirst [] [start] order

theorem Resumes.skip (resumes : Resumes graph start taken staging)
    (queued : staging.queue = first :: rest) (known : first.type ∈ taken.map (·.type)) :
    Resumes graph start taken { staging with queue := rest } := by
  intro order goesOn
  apply resumes order
  rw [queued, List.map_cons, Graph.enqueueAll_cons_of_mem known]
  exact goesOn

theorem Resumes.take (resumes : Resumes graph start taken staging)
    (explores : Explores graph start taken staging) (queued : staging.queue = first :: rest)
    (fresh : first.type ∉ staging.visited) :
    Resumes graph start (taken ++ [first]) (staging.taking graph first rest) := by
  obtain ⟨staged, queue, names, -⟩ := staging.exists_taking graph first rest
  intro order goesOn
  apply resumes order
  rw [queued, List.map_cons, Graph.enqueueAll_cons_of_notMem fun listed =>
    fresh ((explores.visited first.type).mpr listed)]
  apply Graph.BreadthFirst.next
  rw [queue, List.map_append, List.map_singleton, List.map_append, names,
    Graph.enqueueAll_append, Graph.enqueueAll_filter] at goesOn
  · exact goesOn
  · intro type left
    have known : type ∈ first.type :: staging.visited := not_not.mp (of_decide_eq_false left)
    rw [List.mem_append]
    rcases List.mem_cons.mp known with rfl | old
    · exact .inr List.mem_cons_self
    · exact .inl ((explores.visited type).mp old)

/-! ## A whole traversal -/

/-- The invariants of a traversal. -/
structure Traverses (graph : Graph) (start : TypeId) (taken : List TypePriority)
    (staging : Staging) : Prop where
  inOrder : ∃ rank, InOrder taken staging rank
  explores : Explores graph start taken staging
  resumes : Resumes graph start taken staging

/-- The invariants hold with nothing taken and the start waiting. -/
theorem traverses_start (graph : Graph) (start : TypeId) :
    Traverses graph start [] (Staging.stage {} 0 start) := by
  have staged : Staging.stage {} 0 start
      = { queue := [⟨start, 0, 0, 0⟩], rankOrders := Table.set {} 0 1, totalOrder := 1 } := rfl
  rw [staged]
  constructor
  case inOrder =>
    refine ⟨0, List.pairwise_singleton _ _, fun _ _ => Nat.zero_le _, ?atMost, ?counted,
      ?numbered⟩
    all_goals
      intro priority listed
      obtain rfl := List.mem_singleton.mp listed
    case atMost => exact Nat.zero_le _
    case counted => exact Nat.zero_lt_one
    case numbered => exact Nat.zero_lt_one
  case explores =>
    constructor
    case visited => exact fun _ => Iff.rfl
    case distinct => exact List.nodup_nil
    case climbs =>
      intro priority listed
      obtain rfl := List.mem_singleton.mp listed
      exact .start
    case shortest =>
      intro priority listed
      cases listed
    case started => exact ⟨_, List.mem_cons_self, rfl, Nat.le_refl 0⟩
    case covered =>
      intro priority listed
      cases listed
  case resumes => exact fun _ goesOn => goesOn

/-- A traversal that is given enough steps ends with its invariants and an empty queue. -/
theorem Traverses.exists_ended {steps : Nat} (traverses : Traverses graph start taken staging)
    (enough : staging.queue.length + graph.openLinks staging.visited < steps) :
    ∃ ended : Staging, ended.queue = [] ∧
      Traverses graph start (taken ++ drain graph true steps staging) ended := by
  induction steps generalizing taken staging with
  | zero => exact absurd enough (Nat.not_lt_zero _)
  | succ steps induction =>
      obtain ⟨rank, inOrder⟩ := traverses.inOrder
      cases queued : staging.queue with
      | nil =>
          have ended : staging.take? = none := by
            unfold Staging.take?
            rw [queued]
          refine ⟨staging, queued, ?_⟩
          rwa [drain_succ_none _ _ _ ended, List.append_nil]
      | cons first rest =>
          have takes := inOrder.take? queued
          rw [queued, List.length_cons] at enough
          by_cases known : first.type ∈ staging.visited
          · rw [drain_succ_known _ _ _ takes known]
            have skipped : Traverses graph start taken { staging with queue := rest } :=
              ⟨⟨rank, inOrder.skip queued⟩, traverses.explores.skip inOrder queued known,
                traverses.resumes.skip queued ((traverses.explores.visited _).mp known)⟩
            exact induction skipped (by dsimp only; omega)
          · rw [drain_succ_fresh _ _ _ takes known]
            dsimp only
            rw [if_pos (.inr rfl), ← List.singleton_append, ← List.append_assoc]
            have went : Traverses graph start (taken ++ [first])
                (staging.taking graph first rest) :=
              ⟨⟨first.rank, (inOrder.take queued _).stageAll _⟩,
                traverses.explores.take inOrder queued known,
                traverses.resumes.take traverses.explores queued known⟩
            apply induction went
            have workload := workload_le_of_fresh graph { staging with queue := rest }
              (first.rank + 1) known
            exact Nat.lt_of_le_of_lt workload (by dsimp only; omega)

/-- Leaving out the type itself leaves out what has rank zero. -/
theorem drain_false (graph : Graph) (steps : Nat) (staging : Staging) :
    drain graph false steps staging
      = (drain graph true steps staging).filter (fun priority => 0 < priority.rank) := by
  induction steps generalizing staging with
  | zero => rfl
  | succ steps induction =>
      cases takes : staging.take? with
      | none => rw [drain_succ_none _ _ _ takes, drain_succ_none _ _ _ takes, List.filter_nil]
      | some result =>
          obtain ⟨priority, remaining⟩ := result
          by_cases known : priority.type ∈ remaining.visited
          · rw [drain_succ_known _ _ _ takes known, drain_succ_known _ _ _ takes known]
            exact induction remaining
          · rw [drain_succ_fresh _ _ _ takes known, drain_succ_fresh _ _ _ takes known]
            dsimp only
            rw [induction]
            by_cases positive : 0 < priority.rank
            · rw [if_pos (.inl positive), if_pos (.inl positive),
                List.filter_cons_of_pos (by simpa using positive)]
            · rw [if_neg (by simp [positive]), if_pos (.inr rfl),
                List.filter_cons_of_neg (by simp [positive])]

end Staging

/-! ## The ancestors of a type -/

namespace Graph

variable {graph : Graph}

/-- What the list of ancestors of a type says, in full. -/
structure InBreadthFirstOrder (graph : Graph) (type : TypeId) (listed : List TypePriority) :
    Prop where
  distinct : (listed.map (·.type)).Nodup
  reached : ∀ ancestor, ancestor ∈ listed.map (·.type) ↔ graph.Reaches type ancestor
  climbs : ∀ priority ∈ listed, graph.Climbs type priority.rank priority.type
  shortest : ∀ priority ∈ listed, ∀ length,
    graph.Climbs type length priority.type → priority.rank ≤ length
  ordered : listed.Pairwise TypePriority.Precedes
  breadthFirst : graph.BreadthFirst [] [type] (listed.map (·.type))

theorem inBreadthFirstOrder_ancestorPriorities (graph : Graph) (type : TypeId) :
    graph.InBreadthFirstOrder type (graph.ancestorPriorities type true) := by
  have enough : (Staging.stage {} 0 type).queue.length
      + graph.openLinks (Staging.stage {} 0 type).visited < graph.linkCount + 2 := by
    rw [Staging.stage_visited, openLinks_nil]
    change 1 + graph.linkCount < _
    omega
  obtain ⟨ended, empty, traverses⟩ :=
    (Staging.traverses_start graph type).exists_ended enough
  rw [List.nil_append] at traverses
  change Staging.Traverses graph type (graph.ancestorPriorities type true) ended at traverses
  obtain ⟨⟨rank, inOrder⟩, explores, resumes⟩ := traverses
  have climbs := explores.climbs
  have ordered := inOrder.ordered
  rw [empty, List.append_nil] at climbs ordered
  refine ⟨explores.distinct, ?_, climbs, explores.shortest, ordered, ?_⟩
  · intro ancestor
    constructor
    · intro named
      obtain ⟨priority, listed, rfl⟩ := List.mem_map.mp named
      exact (climbs priority listed).reaches
    · intro path
      obtain ⟨length, path⟩ := exists_climbs path
      rcases explores.near path with ⟨priority, listed, same, -⟩ | ⟨waiting, queued, -⟩
      · exact List.mem_map.mpr ⟨priority, listed, same⟩
      · rw [empty] at queued
        cases queued
  · apply resumes
    rw [empty]
    exact .ended _

/-- With the type itself, the list starts with it, and goes on as without it. -/
theorem ancestorPriorities_true (graph : Graph) (type : TypeId) :
    graph.ancestorPriorities type true
      = ⟨type, 0, 0, 0⟩ :: graph.ancestorPriorities type false := by
  have complete := graph.inBreadthFirstOrder_ancestorPriorities type
  have filtered := Staging.drain_false graph (graph.linkCount + 2) (Staging.stage {} 0 type)
  change graph.ancestorPriorities type false = (graph.ancestorPriorities type true).filter _
    at filtered
  obtain ⟨rest, listed⟩ :
      ∃ rest, graph.ancestorPriorities type true = ⟨type, 0, 0, 0⟩ :: rest := by
    obtain ⟨⟨rank, inOrder⟩, -⟩ := Staging.traverses_start graph type
    have queued : (Staging.stage {} 0 type).queue = [⟨type, 0, 0, 0⟩] := rfl
    have takes := inOrder.take? queued
    have known : type ∉ (Staging.stage {} 0 type).visited := List.not_mem_nil
    exact ⟨_, Staging.drain_succ_fresh graph true (graph.linkCount + 1) takes known⟩
  rw [listed] at complete filtered ⊢
  have above : ∀ priority ∈ rest, 0 < priority.rank := by
    intro priority later
    apply Nat.pos_of_ne_zero
    intro zero
    have path := complete.climbs priority (List.mem_cons_of_mem _ later)
    rw [zero] at path
    have same : priority.type = type := by
      cases path
      rfl
    have distinct := complete.distinct
    rw [List.map_cons, List.nodup_cons] at distinct
    exact distinct.1 (List.mem_map.mpr ⟨priority, later, same⟩)
  rw [filtered, List.filter_cons_of_neg (by simp),
    List.filter_eq_self.mpr fun priority later => decide_eq_true (above priority later)]

end Graph

/-- After every run, the ancestors of a type are what is reached by supertype links, each once, with
the length of a shortest path as its rank; they are listed in the order of their priorities, and
this is the order of a plain breadth-first traversal. -/
theorem ancestorPriorities_breadthFirst {run : List Operation}
    (admitted : ({} : Graph).admits run = true) (type : TypeId) (includeSelf : Bool) :
    let graph := ({} : Graph).after run
    let listed := graph.ancestorPriorities type includeSelf
    (∀ ancestor, ancestor ∈ (graph.ancestorPriorities type false).map (·.type) ↔
        Relation.TransGen graph.Extends type ancestor) ∧
      (∃ self : TypePriority, self.type = type ∧ self.rank = 0 ∧
        graph.ancestorPriorities type true = self :: graph.ancestorPriorities type false) ∧
      (listed.map (·.type)).Nodup ∧
      (∀ priority ∈ listed, graph.Climbs type priority.rank priority.type ∧
        ∀ length, graph.Climbs type length priority.type → priority.rank ≤ length) ∧
      listed.Pairwise (fun priority later =>
        priority.isBefore later = true ∧ priority.totalOrder < later.totalOrder) ∧
      graph.BreadthFirst [] [type]
        (if includeSelf then listed.map (·.type) else type :: listed.map (·.type)) := by
  intro graph listed
  have acyclic : graph.Acyclic := (Graph.sound_after admitted).wellFormed.hierarchical.acyclic
  have complete := graph.inBreadthFirstOrder_ancestorPriorities type
  have split := graph.ancestorPriorities_true type
  have sublist : listed.Sublist (graph.ancestorPriorities type true) := by
    cases includeSelf with
    | true => exact .refl _
    | false => exact split ▸ List.sublist_cons_self _ _
  refine ⟨?_, ⟨_, rfl, rfl, split⟩, complete.distinct.sublist (sublist.map _),
    fun priority member => ⟨complete.climbs priority (sublist.subset member),
      complete.shortest priority (sublist.subset member)⟩,
    (complete.ordered.sublist sublist).imp fun precedes =>
      ⟨precedes.isBefore, precedes.totalOrder⟩, ?_⟩
  · intro ancestor
    have reached := complete.reached ancestor
    have distinct := complete.distinct
    rw [split, List.map_cons] at reached distinct
    constructor
    · intro named
      rcases Relation.reflTransGen_iff_eq_or_transGen.mp
        (reached.mp (List.mem_cons_of_mem _ named)) with rfl | path
      · exact absurd named (List.nodup_cons.mp distinct).1
      · exact path
    · intro path
      rcases List.mem_cons.mp (reached.mpr path.to_reflTransGen) with rfl | named
      · exact absurd path (acyclic _)
      · exact named
  · have whole := complete.breadthFirst
    cases includeSelf with
    | true => exact whole
    | false => rwa [split] at whole

/-- An interface that extends the topmost one of four along three paths, two of them through a type
that is declared in between. -/
def diamond : List Operation :=
  [.openArena {}, .newInterface 0 "Top" "m" .pub {}, .newInterface 0 "Left" "m" .pub {},
    .newInterface 0 "Right" "m" .pub {}, .newInterface 0 "Bottom" "m" .pub {},
    .addInterface 1 (some 0), .addInterface 2 (some 0), .addInterface 3 (some 1),
    .addInterface 3 (some 2), .addInterface 3 (some 0)]

theorem ancestorPriorities_breadthFirst_diamond :
    ({} : Graph).admits diamond = true ∧
      (({} : Graph).after diamond).ancestors 3 false = [1, 2, 0] ∧
      Relation.TransGen (({} : Graph).after diamond).Extends 3 0 ∧
      (({} : Graph).after diamond).BreadthFirst [] [3] [3, 1, 2, 0] := by
  have admitted : ({} : Graph).admits diamond = true := by
    decide +kernel
  have listed : (({} : Graph).after diamond).ancestors 3 false = [1, 2, 0] := by
    decide +kernel
  obtain ⟨reached, -, -, -, -, order⟩ := ancestorPriorities_breadthFirst admitted 3 false
  change ∀ ancestor, ancestor ∈ (({} : Graph).after diamond).ancestors 3 false ↔ _ at reached
  change Graph.BreadthFirst _ [] [3] (3 :: (({} : Graph).after diamond).ancestors 3 false) at order
  rw [listed] at reached order
  exact ⟨admitted, listed, (reached 0).mp (by decide), order⟩

end Nominal
