import Nominal.Graph.InterfaceMembers
import Nominal.Proofs.Hierarchy

/-!
# Traversals of the hierarchy

The order of ancestors, the merging of interfaces and the chain of superclasses are traversals with
a bound on their steps that is taken from the whole graph.  The bound is always enough, so the
result of a traversal depends on nothing but the types that it visits.
-/

namespace Nominal

/-! ## Staged types -/

namespace TypePriority

theorem earliest_mem (priority : TypePriority) (others : List TypePriority) :
    priority.earliest others ∈ priority :: others := by
  induction others generalizing priority with
  | nil => exact List.mem_cons_self
  | cons other rest induction =>
      simp only [earliest]
      split
      · exact List.mem_cons_of_mem priority (induction other)
      · rcases List.mem_cons.mp (induction priority) with same | later
        · rw [same]
          exact List.mem_cons_self
        · exact List.mem_cons_of_mem priority (List.mem_cons_of_mem other later)

end TypePriority

namespace Staging

variable {staging remaining : Staging} {priority : TypePriority} {rank : Nat}

theorem mem_of_take? (taken : staging.take? = some (priority, remaining)) :
    priority ∈ staging.queue := by
  unfold take? at taken
  split at taken
  next => cases taken
  next first rest queued =>
    cases taken
    rw [queued]
    exact first.earliest_mem rest

theorem queue_of_take? (taken : staging.take? = some (priority, remaining)) :
    remaining.queue = staging.queue.erase priority := by
  unfold take? at taken
  split at taken
  next => cases taken
  next => cases taken; rfl

theorem visited_of_take? (taken : staging.take? = some (priority, remaining)) :
    remaining.visited = staging.visited := by
  unfold take? at taken
  split at taken
  next => cases taken
  next => cases taken; rfl

theorem length_of_take? (taken : staging.take? = some (priority, remaining)) :
    remaining.queue.length + 1 = staging.queue.length := by
  rw [queue_of_take? taken]
  exact List.length_erase_add_one (mem_of_take? taken)

@[simp]
theorem stage_visited (staging : Staging) (rank : Nat) (type : TypeId) :
    (staging.stage rank type).visited = staging.visited := by
  unfold stage
  split <;> rfl

theorem stage_queue (staging : Staging) (rank : Nat) (type : TypeId) :
    (staging.stage rank type).queue = staging.queue ∨
      ∃ priority : TypePriority, priority.type = type ∧
        (staging.stage rank type).queue = staging.queue ++ [priority] := by
  unfold stage
  split
  next => exact .inl rfl
  next => exact .inr ⟨_, rfl, rfl⟩

/-- Stages some types at a rank, one after the other. -/
def stageAll (staging : Staging) (rank : Nat) (types : List TypeId) : Staging :=
  types.foldl (fun staging type => staging.stage rank type) staging

@[simp]
theorem stageAll_visited (staging : Staging) (rank : Nat) (types : List TypeId) :
    (staging.stageAll rank types).visited = staging.visited := by
  induction types generalizing staging with
  | nil => rfl
  | cons type types induction =>
      exact (induction (staging.stage rank type)).trans (stage_visited staging rank type)

theorem stageAll_length_le (staging : Staging) (rank : Nat) (types : List TypeId) :
    (staging.stageAll rank types).queue.length ≤ staging.queue.length + types.length := by
  induction types generalizing staging with
  | nil => exact Nat.le_refl _
  | cons type types induction =>
      have rest := induction (staging.stage rank type)
      have first : (staging.stage rank type).queue.length ≤ staging.queue.length + 1 := by
        rcases staging.stage_queue rank type with same | ⟨priority, _, longer⟩
        · rw [same]
          exact Nat.le_succ _
        · rw [longer, List.length_append, List.length_singleton]
      simp only [stageAll, List.foldl_cons, List.length_cons] at rest ⊢
      omega

theorem mem_stageAll (rank : Nat) (types : List TypeId)
    (queued : priority ∈ (staging.stageAll rank types).queue) :
    priority ∈ staging.queue ∨ priority.type ∈ types := by
  induction types generalizing staging with
  | nil => exact .inl queued
  | cons type types induction =>
      have later : priority ∈ ((staging.stage rank type).stageAll rank types).queue := queued
      rcases induction later with old | staged
      · rcases staging.stage_queue rank type with same | ⟨fresh, freshType, longer⟩
        · exact .inl (same ▸ old)
        · rw [longer] at old
          rcases List.mem_append.mp old with older | new
          · exact .inl older
          · rw [List.mem_singleton.mp new, freshType]
            exact .inr List.mem_cons_self
      · exact .inr (List.mem_cons_of_mem type staged)

/-- One step of a traversal that takes a type for the first time. -/
theorem drain_succ_fresh (graph : Graph) (includeSelf : Bool) (steps : Nat)
    (taken : staging.take? = some (priority, remaining))
    (fresh : priority.type ∉ remaining.visited) :
    drain graph includeSelf (steps + 1) staging =
      let ancestors := drain graph includeSelf steps
        ({ remaining with visited := priority.type :: remaining.visited }.stageAll
          (priority.rank + 1) (graph.supertypesOf priority.type))
      if priority.rank > 0 ∨ includeSelf then priority :: ancestors else ancestors := by
  simp only [drain, taken, if_neg fresh, stageAll]

theorem drain_succ_known (graph : Graph) (includeSelf : Bool) (steps : Nat)
    (taken : staging.take? = some (priority, remaining))
    (known : priority.type ∈ remaining.visited) :
    drain graph includeSelf (steps + 1) staging = drain graph includeSelf steps remaining := by
  simp only [drain, taken, if_pos known]

theorem drain_succ_none (graph : Graph) (includeSelf : Bool) (steps : Nat)
    (ended : staging.take? = none) : drain graph includeSelf (steps + 1) staging = [] := by
  simp only [drain, ended]

/-- Taking a type for the first time adds no work: what waits further is paid for by the links that
are no longer open. -/
theorem workload_le_of_fresh (graph : Graph) (staging : Staging) (rank : Nat) {type : TypeId}
    (fresh : type ∉ staging.visited) :
    ({ staging with visited := type :: staging.visited }.stageAll rank
        (graph.supertypesOf type)).queue.length
      + graph.openLinks ({ staging with visited := type :: staging.visited }.stageAll rank
        (graph.supertypesOf type)).visited
      ≤ staging.queue.length + graph.openLinks staging.visited := by
  have counted := Graph.openLinks_cons graph fresh
  have staged := stageAll_length_le { staging with visited := type :: staging.visited } rank
    (graph.supertypesOf type)
  rw [stageAll_visited]
  dsimp only at staged ⊢
  omega

/-- Steps beyond those that empty the queue change nothing. -/
theorem drain_eq_of_le (graph : Graph) (includeSelf : Bool) {steps more : Nat}
    (staging : Staging)
    (enough : staging.queue.length + graph.openLinks staging.visited < steps)
    (atLeast : steps ≤ more) :
    drain graph includeSelf more staging = drain graph includeSelf steps staging := by
  induction steps generalizing more staging with
  | zero => exact absurd enough (Nat.not_lt_zero _)
  | succ steps induction =>
      obtain ⟨more, rfl⟩ : ∃ rest, more = rest + 1 := ⟨more - 1, by omega⟩
      cases taken : staging.take? with
      | none => rw [drain_succ_none _ _ _ taken, drain_succ_none _ _ _ taken]
      | some result =>
          obtain ⟨priority, remaining⟩ := result
          have shorter := length_of_take? taken
          have sameVisited := visited_of_take? taken
          by_cases known : priority.type ∈ remaining.visited
          · rw [drain_succ_known _ _ _ taken known, drain_succ_known _ _ _ taken known]
            apply induction
            · rw [sameVisited]
              omega
            · omega
          · rw [drain_succ_fresh _ _ _ taken known, drain_succ_fresh _ _ _ taken known]
            have workload := workload_le_of_fresh graph remaining (priority.rank + 1) known
            rw [← sameVisited] at enough
            have rest := induction _ (Nat.lt_of_le_of_lt workload (by omega))
              (Nat.le_of_succ_le_succ atLeast)
            rw [rest]

/-- A traversal looks at nothing but the links of the types that it meets. -/
theorem drain_congr {graph other : Graph} {population : TypeId → Prop} (includeSelf : Bool)
    (closed : ∀ type supertype, population type → graph.Extends type supertype →
      population supertype)
    (links : ∀ type, population type → other.supertypesOf type = graph.supertypesOf type)
    (steps : Nat) (staging : Staging)
    (within : ∀ priority ∈ staging.queue, population priority.type) :
    drain other includeSelf steps staging = drain graph includeSelf steps staging := by
  induction steps generalizing staging with
  | zero => rfl
  | succ steps induction =>
      cases taken : staging.take? with
      | none => rw [drain_succ_none _ _ _ taken, drain_succ_none _ _ _ taken]
      | some result =>
          obtain ⟨priority, remaining⟩ := result
          have inPopulation := within priority (mem_of_take? taken)
          have restWithin : ∀ waiting ∈ remaining.queue, population waiting.type := by
            intro waiting queued
            rw [queue_of_take? taken] at queued
            exact within waiting (List.mem_of_mem_erase queued)
          by_cases known : priority.type ∈ remaining.visited
          · rw [drain_succ_known _ _ _ taken known, drain_succ_known _ _ _ taken known]
            exact induction remaining restWithin
          · rw [drain_succ_fresh _ _ _ taken known, drain_succ_fresh _ _ _ taken known,
              links priority.type inPopulation]
            rw [induction]
            intro waiting queued
            rcases mem_stageAll _ _ queued with old | staged
            · exact restWithin waiting old
            · exact closed priority.type waiting.type inPopulation staged

/-- Everything that a traversal gives is above something that was staged. -/
theorem reaches_of_mem_drain {graph : Graph} {includeSelf : Bool} {steps : Nat}
    {staging : Staging} {priority : TypePriority}
    (listed : priority ∈ drain graph includeSelf steps staging) :
    ∃ start ∈ staging.queue, graph.Reaches start.type priority.type := by
  induction steps generalizing staging with
  | zero => simp [drain] at listed
  | succ steps induction =>
      cases taken : staging.take? with
      | none => simp [drain_succ_none _ _ _ taken] at listed
      | some result =>
          obtain ⟨next, remaining⟩ := result
          have queued := mem_of_take? taken
          by_cases known : next.type ∈ remaining.visited
          · rw [drain_succ_known _ _ _ taken known] at listed
            obtain ⟨start, waiting, path⟩ := induction listed
            rw [queue_of_take? taken] at waiting
            exact ⟨start, List.mem_of_mem_erase waiting, path⟩
          · rw [drain_succ_fresh _ _ _ taken known] at listed
            have cases : priority = next ∨ priority ∈ drain graph includeSelf steps
                ({ remaining with visited := next.type :: remaining.visited }.stageAll
                  (next.rank + 1) (graph.supertypesOf next.type)) := by
              dsimp only at listed
              split at listed
              · exact List.mem_cons.mp listed
              · exact .inr listed
            rcases cases with rfl | later
            · exact ⟨priority, queued, .refl⟩
            · obtain ⟨start, waiting, path⟩ := induction later
              rcases mem_stageAll _ _ waiting with old | staged
              · rw [queue_of_take? taken] at old
                exact ⟨start, List.mem_of_mem_erase old, path⟩
              · exact ⟨next, queued, .head staged path⟩

/-- A type waits, or has been taken. -/
def Knows (staging : Staging) (type : TypeId) : Prop :=
  type ∈ staging.visited ∨ ∃ waiting ∈ staging.queue, waiting.type = type

theorem Knows.stage {type : TypeId} (knows : staging.Knows type) (rank : Nat) (other : TypeId) :
    (staging.stage rank other).Knows type := by
  rcases knows with visited | ⟨waiting, queued, same⟩
  · exact .inl (by rwa [stage_visited])
  · refine .inr ⟨waiting, ?_, same⟩
    rcases staging.stage_queue rank other with unchanged | ⟨added, _, longer⟩
    · rwa [unchanged]
    · rw [longer]
      exact List.mem_append_left _ queued

theorem knows_stage (staging : Staging) (rank : Nat) (type : TypeId) :
    (staging.stage rank type).Knows type := by
  by_cases visited : type ∈ staging.visited
  · exact .inl (by rwa [stage_visited])
  · rcases staging.stage_queue rank type with unchanged | ⟨added, same, longer⟩
    · unfold Staging.stage at unchanged
      rw [if_neg visited] at unchanged
      simp at unchanged
    · refine .inr ⟨added, ?_, same⟩
      rw [longer]
      exact List.mem_append_right _ (List.mem_singleton.mpr rfl)

theorem Knows.stageAll {type : TypeId} (rank : Nat) (types : List TypeId)
    (knows : staging.Knows type ∨ type ∈ types) : (staging.stageAll rank types).Knows type := by
  induction types generalizing staging with
  | nil =>
      rcases knows with knows | listed
      · exact knows
      · cases listed
  | cons first rest induction =>
      refine @induction (staging.stage rank first) ?_
      rcases knows with knows | listed
      · exact .inl (knows.stage rank first)
      · rcases List.mem_cons.mp listed with rfl | later
        · exact .inl (staging.knows_stage rank type)
        · exact .inr later

theorem Knows.take {type : TypeId} (knows : staging.Knows type)
    (taken : staging.take? = some (priority, remaining)) :
    remaining.Knows type ∨ type = priority.type := by
  rcases knows with visited | ⟨waiting, queued, rfl⟩
  · exact .inl (.inl (by rwa [visited_of_take? taken]))
  · by_cases same : waiting = priority
    · exact .inr (congrArg TypePriority.type same)
    · refine .inl (.inr ⟨waiting, ?_, rfl⟩)
      rw [queue_of_take? taken]
      exact (List.mem_erase_of_ne same).mpr queued

/-- Taking a type once more leaves what is known. -/
theorem Knows.skip {type : TypeId} (knows : staging.Knows type)
    (taken : staging.take? = some (priority, remaining))
    (known : priority.type ∈ remaining.visited) : remaining.Knows type := by
  rcases knows.take taken with kept | rfl
  · exact kept
  · exact .inl known

/-- Taking a type for the first time makes its supertypes known, and leaves what is known. -/
theorem Knows.expand {graph : Graph} {type : TypeId}
    (taken : staging.take? = some (priority, remaining)) (rank : Nat)
    (knows : staging.Knows type ∨ graph.Extends priority.type type) :
    ({ remaining with visited := priority.type :: remaining.visited }.stageAll rank
      (graph.supertypesOf priority.type)).Knows type := by
  rcases knows with knows | link
  · refine .stageAll _ _ (.inl ?_)
    rcases knows.take taken with (visited | waiting) | rfl
    · exact .inl (List.mem_cons_of_mem _ visited)
    · exact .inr waiting
    · exact .inl List.mem_cons_self
  · exact .stageAll _ _ (.inr link)

theorem rank_pos_of_mem_stageAll (types : List TypeId)
    (queued : priority ∈ (staging.stageAll (rank + 1) types).queue) :
    priority ∈ staging.queue ∨ 0 < priority.rank := by
  induction types generalizing staging with
  | nil => exact .inl queued
  | cons type types induction =>
      rcases @induction (staging.stage (rank + 1) type) queued with old | positive
      · unfold Staging.stage at old
        split at old
        · exact .inl old
        · rcases List.mem_append.mp old with older | new
          · exact .inl older
          · rw [List.mem_singleton.mp new]
            exact .inr (Nat.succ_pos rank)
      · exact .inr positive

/-- With nothing waiting, what has been taken is closed under supertypes. -/
theorem Knows.of_reaches {graph : Graph} (ended : staging.take? = none)
    (covers : ∀ type ∈ staging.visited, ∀ supertype, graph.Extends type supertype →
      staging.Knows supertype) {start target : TypeId} (knows : staging.Knows start)
    (path : graph.Reaches start target) : target ∈ staging.visited := by
  have empty : staging.queue = [] := by
    unfold take? at ended
    split at ended
    next empty => exact empty
    next => cases ended
  have visited : ∀ type, staging.Knows type → type ∈ staging.visited := by
    rintro type (visited | ⟨waiting, queued, -⟩)
    · exact visited
    · rw [empty] at queued
      cases queued
  induction path with
  | refl => exact visited start knows
  | tail _ link ih => exact visited _ (covers _ ih _ link)

/-- A traversal gives everything above what it knows, except for what has been taken. -/
theorem mem_drain {graph : Graph} {includeSelf : Bool} {steps : Nat} {staging : Staging}
    (enough : staging.queue.length + graph.openLinks staging.visited < steps)
    (covers : ∀ type ∈ staging.visited, ∀ supertype, graph.Extends type supertype →
      staging.Knows supertype)
    (ranked : ∀ waiting ∈ staging.queue, 0 < waiting.rank) {start target : TypeId}
    (knows : staging.Knows start) (path : graph.Reaches start target)
    (untaken : target ∉ staging.visited) :
    target ∈ (drain graph includeSelf steps staging).map (·.type) := by
  induction steps generalizing staging with
  | zero => exact absurd enough (Nat.not_lt_zero _)
  | succ steps induction =>
      cases taken : staging.take? with
      | none => exact absurd (Knows.of_reaches taken covers knows path) untaken
      | some result =>
          obtain ⟨priority, remaining⟩ := result
          have shorter := length_of_take? taken
          have sameVisited := visited_of_take? taken
          have restRanked : ∀ waiting ∈ remaining.queue, 0 < waiting.rank := by
            intro waiting queued
            rw [queue_of_take? taken] at queued
            exact ranked waiting (List.mem_of_mem_erase queued)
          by_cases known : priority.type ∈ remaining.visited
          · rw [drain_succ_known _ _ _ taken known]
            refine induction ?_ ?_ restRanked (knows.skip taken known) (by rwa [sameVisited])
            · rw [sameVisited]
              omega
            · intro type visited supertype link
              exact (covers type (sameVisited ▸ visited) supertype link).skip taken known
          · rw [drain_succ_fresh _ _ _ taken known]
            have positive := ranked priority (mem_of_take? taken)
            dsimp only
            rw [if_pos (.inl positive), List.map_cons, List.mem_cons]
            by_cases here : target = priority.type
            · exact .inl here
            · right
              refine induction ?_ ?_ ?_ (.expand taken _ (.inl knows)) ?_
              · have workload := workload_le_of_fresh graph remaining (priority.rank + 1) known
                rw [← sameVisited] at enough
                exact Nat.lt_of_le_of_lt workload (by omega)
              · intro type visited supertype link
                rw [stageAll_visited] at visited
                rcases List.mem_cons.mp visited with rfl | old
                · exact .expand taken _ (.inr link)
                · exact .expand taken _ (.inl (covers type (sameVisited ▸ old) supertype link))
              · intro waiting queued
                rcases rank_pos_of_mem_stageAll _ queued with old | positive
                · exact restRanked waiting old
                · exact positive
              · rw [stageAll_visited]
                simp only [List.mem_cons, not_or]
                exact ⟨here, by rwa [sameVisited]⟩

end Staging

namespace Graph

variable {graph other : Graph} {population : TypeId → Prop} {type : TypeId}

theorem queue_stage_start (type : TypeId) : ∃ priority : TypePriority, priority.type = type ∧
    (Staging.stage {} 0 type).queue = [priority] :=
  ⟨_, rfl, rfl⟩

/-- The order of ancestors does not depend on the rest of the graph. -/
theorem ancestorPriorities_congr (includeSelf : Bool)
    (closed : ∀ type supertype, population type → graph.Extends type supertype →
      population supertype)
    (links : ∀ type, population type → other.supertypesOf type = graph.supertypesOf type)
    (member : population type) :
    other.ancestorPriorities type includeSelf = graph.ancestorPriorities type includeSelf := by
  obtain ⟨first, firstType, queued⟩ := queue_stage_start type
  have unvisited : (Staging.stage {} 0 type).visited = [] := rfl
  have enough : ∀ graph : Graph,
      (Staging.stage {} 0 type).queue.length + graph.openLinks (Staging.stage {} 0 type).visited
        < graph.linkCount + 2 := by
    intro graph
    rw [queued, unvisited, openLinks_nil, List.length_singleton]
    omega
  -- Both bounds are enough, so both traversals may as well take the larger one.
  unfold ancestorPriorities
  rw [← Staging.drain_eq_of_le other includeSelf _ (enough other) (Nat.le_max_left _ _),
    ← Staging.drain_eq_of_le graph includeSelf _ (enough graph) (Nat.le_max_right _ _)]
  apply Staging.drain_congr includeSelf closed links
  intro priority waiting
  rw [queued] at waiting
  rw [List.mem_singleton.mp waiting, firstType]
  exact member

theorem reaches_of_mem_ancestors {includeSelf : Bool} {ancestor : TypeId}
    (listed : ancestor ∈ graph.ancestors type includeSelf) : graph.Reaches type ancestor := by
  obtain ⟨priority, drained, rfl⟩ := List.mem_map.mp listed
  obtain ⟨start, waiting, path⟩ := Staging.reaches_of_mem_drain drained
  obtain ⟨first, firstType, queued⟩ := queue_stage_start type
  rw [queued] at waiting
  rw [List.mem_singleton.mp waiting, firstType] at path
  exact path

/-- The ancestors of a type are the other types that are reached from it. -/
theorem mem_ancestors_iff {ancestor : TypeId} (different : type ≠ ancestor) :
    ancestor ∈ graph.ancestors type false ↔ graph.Reaches type ancestor := by
  refine ⟨reaches_of_mem_ancestors, ?_⟩
  intro path
  obtain ⟨remaining, taken, empty, untaken⟩ : ∃ remaining : Staging,
      (Staging.stage {} 0 type).take? = some (⟨type, 0, 0, 0⟩, remaining) ∧
        remaining.queue = [] ∧ remaining.visited = [] := by
    refine ⟨{ (Staging.stage {} 0 type) with queue := [] }, ?_, rfl, rfl⟩
    simp [Staging.take?, Staging.stage, TypePriority.earliest, Table.get?]
  have fresh : type ∉ remaining.visited := by simp [untaken]
  unfold ancestors ancestorPriorities
  rw [Staging.drain_succ_fresh graph false (graph.linkCount + 1) taken fresh]
  dsimp only
  rw [if_neg (by simp)]
  refine Staging.mem_drain ?_ ?_ ?_ (.stageAll _ _ (.inl (.inl List.mem_cons_self))) path ?_
  · refine Nat.lt_of_le_of_lt (Staging.workload_le_of_fresh graph remaining (0 + 1) fresh) ?_
    rw [empty, untaken, openLinks_nil, List.length_nil]
    omega
  · intro visited listed supertype link
    rw [Staging.stageAll_visited] at listed
    rw [untaken, List.mem_singleton] at listed
    rw [listed] at link
    exact .stageAll _ _ (.inr link)
  · intro waiting queued
    rcases Staging.rank_pos_of_mem_stageAll _ queued with old | positive
    · simp [empty] at old
    · exact positive
  · rw [Staging.stageAll_visited, untaken]
    simpa using Ne.symm different

/-! ## Superclasses -/

theorem parentChainFrom_succ (graph : Graph) (steps : Nat) (type : TypeId) :
    graph.parentChainFrom (steps + 1) type =
      type :: match (graph.typeAt type).parent? with
        | some parent => graph.parentChainFrom steps parent
        | none => [] := rfl

theorem extends_of_parent? {parent : TypeId} (link : (graph.typeAt type).parent? = some parent) :
    graph.Extends type parent := by
  simp [Extends, supertypesOf, NominalType.supertypes, link]

/-- A chain of superclasses stays in a population that parents do not leave. -/
theorem population_of_mem_parentChainFrom
    (closed : ∀ type parent, population type → (graph.typeAt type).parent? = some parent →
      population parent)
    (member : population type) {steps : Nat} {superclass : TypeId}
    (listed : superclass ∈ graph.parentChainFrom steps type) : population superclass := by
  induction steps generalizing type with
  | zero => simp [parentChainFrom] at listed
  | succ steps induction =>
      rw [parentChainFrom_succ] at listed
      rcases List.mem_cons.mp listed with rfl | later
      · exact member
      · cases link : (graph.typeAt type).parent? with
        | none => simp [link] at later
        | some parent =>
            rw [link] at later
            exact induction (closed type parent member link) later

theorem reaches_of_mem_parentChainFrom {steps : Nat} {superclass : TypeId}
    (listed : superclass ∈ graph.parentChainFrom steps type) : graph.Reaches type superclass :=
  population_of_mem_parentChainFrom
    (fun _ _ path link => path.tail (extends_of_parent? link)) .refl listed

theorem nodup_parentChainFrom (acyclic : graph.Acyclic) (steps : Nat) (type : TypeId) :
    (graph.parentChainFrom steps type).Nodup := by
  induction steps generalizing type with
  | zero => exact List.nodup_nil
  | succ steps induction =>
      rw [parentChainFrom_succ]
      cases link : (graph.typeAt type).parent? with
      | none => exact List.nodup_singleton type
      | some parent =>
          refine List.nodup_cons.mpr ⟨?_, induction parent⟩
          intro listed
          have back : graph.Reaches parent type := reaches_of_mem_parentChainFrom listed
          exact acyclic type (.head' (extends_of_parent? link) back)

/-- A chain that ends before its bound does not change with a larger bound. -/
theorem parentChainFrom_eq_of_length_lt {steps more : Nat}
    (ended : (graph.parentChainFrom steps type).length < steps) (atLeast : steps ≤ more) :
    graph.parentChainFrom more type = graph.parentChainFrom steps type := by
  induction steps generalizing more type with
  | zero => exact absurd ended (Nat.not_lt_zero _)
  | succ steps induction =>
      obtain ⟨more, rfl⟩ : ∃ rest, more = rest + 1 := ⟨more - 1, by omega⟩
      rw [parentChainFrom_succ, parentChainFrom_succ]
      rw [parentChainFrom_succ] at ended
      cases link : (graph.typeAt type).parent? with
      | none => rfl
      | some parent =>
          simp only [link, List.length_cons] at ended
          have rest : graph.parentChainFrom more parent = graph.parentChainFrom steps parent :=
            induction (by omega) (by omega)
          exact congrArg (type :: ·) rest

theorem parentChainFrom_take (graph : Graph) (steps : Nat) (type : TypeId) :
    graph.parentChainFrom steps type = (graph.parentChainFrom (steps + 1) type).take steps := by
  induction steps generalizing type with
  | zero => simp [parentChainFrom]
  | succ steps induction =>
      rw [parentChainFrom_succ, parentChainFrom_succ graph (steps + 1)]
      cases link : (graph.typeAt type).parent? with
      | none => simp
      | some parent =>
          rw [List.take_succ_cons]
          exact congrArg (type :: ·) (induction parent)

/-- A list of different places of a graph is not longer than the graph. -/
theorem length_le_size_of_nodup {types : List TypeId} (distinct : types.Nodup)
    (present : ∀ type ∈ types, type < graph.types.size) : types.length ≤ graph.types.size := by
  have inside : types.toFinset ⊆ Finset.range graph.types.size := by
    intro type member
    exact Finset.mem_range.mpr (present type (List.mem_toFinset.mp member))
  have counted := Finset.card_le_card inside
  rwa [List.toFinset_card_of_nodup distinct, Finset.card_range] at counted

/-- In a graph without cycles the chain of superclasses is complete. -/
theorem parentChainFrom_eq_parentChain (acyclic : graph.Acyclic)
    (linked : ∀ type supertype, graph.Extends type supertype → supertype < graph.types.size)
    (present : type < graph.types.size) {steps : Nat} (atLeast : graph.types.size ≤ steps) :
    graph.parentChainFrom steps type = graph.parentChain type := by
  have within : ∀ superclass ∈ graph.parentChainFrom (graph.types.size + 1) type,
      superclass < graph.types.size := by
    intro superclass listed
    rcases Relation.ReflTransGen.cases_tail (reaches_of_mem_parentChainFrom listed) with
      same | ⟨below, _, link⟩
    · exact same ▸ present
    · exact linked below superclass link
  have short := length_le_size_of_nodup (nodup_parentChainFrom acyclic _ type) within
  have complete : graph.parentChain type = graph.parentChainFrom (graph.types.size + 1) type := by
    rw [parentChain, parentChainFrom_take]
    exact List.take_of_length_le short
  rcases Nat.eq_or_lt_of_le atLeast with same | larger
  · rw [← same]
    rfl
  · rw [complete]
    exact parentChainFrom_eq_of_length_lt (by omega) larger

theorem parentChainFrom_congr
    (closed : ∀ type parent, population type → (graph.typeAt type).parent? = some parent →
      population parent)
    (parents : ∀ type, population type →
      (other.typeAt type).parent? = (graph.typeAt type).parent?)
    (steps : Nat) (member : population type) :
    other.parentChainFrom steps type = graph.parentChainFrom steps type := by
  induction steps generalizing type with
  | zero => rfl
  | succ steps induction =>
      rw [parentChainFrom_succ, parentChainFrom_succ, parents type member]
      cases link : (graph.typeAt type).parent? with
      | none => rfl
      | some parent => exact congrArg (type :: ·) (induction (closed type parent member link))

/-- What follows a superclass in a chain is its own chain. -/
theorem drop_parentChainFrom {steps place : Nat} {superclass : TypeId}
    (found : (graph.parentChainFrom steps type)[place]? = some superclass) :
    (graph.parentChainFrom steps type).drop place
      = graph.parentChainFrom (steps - place) superclass := by
  induction place generalizing steps type with
  | zero =>
      cases steps with
      | zero => simp [parentChainFrom] at found
      | succ steps =>
          rw [parentChainFrom_succ, List.getElem?_cons_zero] at found
          obtain rfl := Option.some.inj found
          rfl
  | succ place induction =>
      cases steps with
      | zero => simp [parentChainFrom] at found
      | succ steps =>
          rw [parentChainFrom_succ] at found ⊢
          rw [List.getElem?_cons_succ] at found
          rw [List.drop_succ_cons, Nat.add_sub_add_right]
          cases link : (graph.typeAt type).parent? with
          | none => simp [link] at found
          | some parent =>
              rw [link] at found
              exact induction found

theorem self_mem_parentChain (present : type < graph.types.size) :
    type ∈ graph.parentChain type := by
  obtain ⟨steps, size⟩ := Nat.exists_eq_succ_of_ne_zero (Nat.ne_zero_of_lt present)
  rw [parentChain, size, parentChainFrom_succ]
  exact List.mem_cons_self

/-- In a graph without cycles, a superclass is followed by the chain of its parent. -/
theorem drop_succ_parentChain (acyclic : graph.Acyclic)
    (linked : ∀ type supertype, graph.Extends type supertype → supertype < graph.types.size)
    (present : type < graph.types.size) {place : Nat} {superclass : TypeId}
    (found : (graph.parentChain type)[place]? = some superclass) :
    (graph.parentChain type).drop (place + 1)
      = match (graph.typeAt superclass).parent? with
        | some parent => graph.parentChain parent
        | none => [] := by
  have longer := parentChainFrom_eq_parentChain acyclic linked present
    (show graph.types.size ≤ graph.types.size + 1 + place by omega)
  rw [← longer] at found ⊢
  have rest := drop_parentChainFrom found
  rw [Nat.add_sub_cancel] at rest
  rw [← List.drop_drop, rest]
  rfl

theorem reaches_of_getElem?_parentChain {place farther : Nat} {superclass ancestor : TypeId}
    (found : (graph.parentChain type)[place]? = some superclass)
    (above : (graph.parentChain type)[place + farther]? = some ancestor) :
    graph.Reaches superclass ancestor := by
  have rest := drop_parentChainFrom found
  rw [← List.getElem?_drop] at above
  unfold parentChain at above
  rw [rest] at above
  exact reaches_of_mem_parentChainFrom (List.mem_of_getElem? above)

end Graph

/-! ## Interfaces -/

namespace InterfaceMemberMap

variable {graph other : Graph} {population : TypeId → Prop}

theorem length_interfaces_le (graph : Graph) (type : TypeId) :
    (graph.typeAt type).interfaces.length ≤ (graph.supertypesOf type).length := by
  simp [Graph.supertypesOf, NominalType.supertypes]

theorem extends_of_mem_interfaces {type interface : TypeId}
    (listed : interface ∈ (graph.typeAt type).interfaces) : graph.Extends type interface := by
  simp [Graph.Extends, Graph.supertypesOf, NominalType.supertypes, listed]

/-- Steps beyond those that leave nothing pending change nothing. -/
theorem mergeFrom_eq_of_le (graph : Graph) {steps more : Nat} (merged pending : List TypeId)
    (map : InterfaceMemberMap) (enough : pending.length + graph.openLinks merged < steps)
    (atLeast : steps ≤ more) :
    mergeFrom graph more merged pending map = mergeFrom graph steps merged pending map := by
  induction steps generalizing more merged pending map with
  | zero => exact absurd enough (Nat.not_lt_zero _)
  | succ steps induction =>
      obtain ⟨more, rfl⟩ : ∃ rest, more = rest + 1 := ⟨more - 1, by omega⟩
      cases pending with
      | nil => rfl
      | cons interface rest =>
          rw [List.length_cons] at enough
          simp only [mergeFrom]
          split
          next => exact induction merged rest map (by omega) (by omega)
          next fresh =>
            have counted := Graph.openLinks_cons graph fresh
            have few := length_interfaces_le graph interface
            apply induction
            · rw [List.length_append]
              omega
            · omega

/-- Merging looks at nothing but the interfaces that it meets. -/
theorem mergeFrom_congr
    (closed : ∀ type supertype, population type → graph.Extends type supertype →
      population supertype)
    (interfaces : ∀ type, population type →
      (other.typeAt type).interfaces = (graph.typeAt type).interfaces)
    (added : ∀ type map, population type →
      addInterface other map type = addInterface graph map type)
    (steps : Nat) (merged pending : List TypeId) (map : InterfaceMemberMap)
    (within : ∀ type ∈ pending, population type) :
    mergeFrom other steps merged pending map = mergeFrom graph steps merged pending map := by
  induction steps generalizing merged pending map with
  | zero => rfl
  | succ steps induction =>
      cases pending with
      | nil => rfl
      | cons interface rest =>
          have here := within interface List.mem_cons_self
          have later : ∀ type ∈ rest, population type := fun type member =>
            within type (List.mem_cons_of_mem interface member)
          simp only [mergeFrom]
          split
          next => exact induction merged rest map later
          next =>
            rw [interfaces interface here, added interface map here]
            apply induction
            intro type member
            rcases List.mem_append.mp member with above | waiting
            · exact closed interface type here (extends_of_mem_interfaces above)
            · exact later type waiting

/-- The member map of an interface does not depend on the rest of the graph. -/
theorem ofInterface_congr
    (closed : ∀ type supertype, population type → graph.Extends type supertype →
      population supertype)
    (interfaces : ∀ type, population type →
      (other.typeAt type).interfaces = (graph.typeAt type).interfaces)
    (added : ∀ type map, population type →
      addInterface other map type = addInterface graph map type)
    {owner : TypeId} (member : population owner) :
    ofInterface other owner = ofInterface graph owner := by
  have enough : ∀ graph : Graph, [owner].length + graph.openLinks [] < graph.linkCount + 2 := by
    intro graph
    rw [Graph.openLinks_nil, List.length_singleton]
    omega
  unfold ofInterface
  rw [← mergeFrom_eq_of_le other [] [owner] _ (enough other) (Nat.le_max_left _ _),
    ← mergeFrom_eq_of_le graph [] [owner] _ (enough graph) (Nat.le_max_right _ _)]
  apply mergeFrom_congr closed interfaces added
  intro type pending
  rw [List.mem_singleton.mp pending]
  exact member

end InterfaceMemberMap

end Nominal
