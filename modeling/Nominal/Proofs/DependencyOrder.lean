import Mathlib.Data.Finset.Card
import Mathlib.Logic.Relation
import Nominal.Dependency
import Nominal.Proofs.FirstOccurrences

/-!
# Dependencies come first

The order that is found lists every requested node and everything that it needs once, after its
dependencies, as a depth-first walk meets them.  It is found unless one of the requested nodes needs
a cycle, and then an edge of a cycle is reported: the nodes that are being resolved are the nodes of
a path, and the bound on the length of that path is never met, because its nodes are distinct and
have dependencies.
-/

namespace Nominal

namespace DependencyGraph

variable {graph : DependencyGraph} {depth node : Nat} {path solution : List Nat}

/-- A node directly depends on another one. -/
def DependsOn (graph : DependencyGraph) (node dependency : Nat) : Prop :=
  dependency ∈ graph.dependenciesOf node

/-- A list of different nodes, each after its dependencies. -/
inductive Ordered (graph : DependencyGraph) : List Nat → Prop
  | nil : Ordered graph []
  | snoc {nodes : List Nat} {node : Nat} (ordered : Ordered graph nodes) (fresh : node ∉ nodes)
      (resolved : ∀ dependency, graph.DependsOn node dependency → dependency ∈ nodes) :
      Ordered graph (nodes ++ [node])

namespace Ordered

theorem of_append_cons {before after : List Nat}
    (ordered : graph.Ordered (before ++ node :: after)) :
    node ∉ before ∧ ∀ dependency, graph.DependsOn node dependency → dependency ∈ before := by
  induction after using List.reverseRecOn with
  | nil =>
      generalize listed : before ++ [node] = nodes at ordered
      cases ordered with
      | nil => simp at listed
      | snoc ordered fresh resolved =>
          obtain ⟨rfl, same⟩ := List.append_inj' listed rfl
          cases same
          exact ⟨fresh, resolved⟩
  | append_singleton after last ih =>
      apply ih
      rw [← List.cons_append, ← List.append_assoc] at ordered
      generalize listed : before ++ node :: after ++ [last] = nodes at ordered
      cases ordered with
      | nil => simp at listed
      | snoc ordered fresh resolved =>
          obtain ⟨rfl, -⟩ := List.append_inj' listed rfl
          exact ordered

theorem nodup (ordered : graph.Ordered solution) : solution.Nodup := by
  induction ordered with
  | nil => exact List.nodup_nil
  | snoc ordered fresh resolved ih =>
      exact ih.append (List.nodup_singleton _) (by simpa using fresh)

theorem closed (ordered : graph.Ordered solution) (listed : node ∈ solution) {dependency : Nat}
    (path : Relation.ReflTransGen graph.DependsOn node dependency) : dependency ∈ solution := by
  induction path with
  | refl => exact listed
  | tail _ depends ih =>
      obtain ⟨before, after, rfl⟩ := List.append_of_mem ih
      exact List.mem_append_left _ (ordered.of_append_cons.2 _ depends)

/-- Nothing that is in order needs itself. -/
theorem acyclic (ordered : graph.Ordered solution) (listed : node ∈ solution) :
    ¬ Relation.TransGen graph.DependsOn node node := by
  induction ordered with
  | nil => cases listed
  | snoc ordered fresh resolved ih =>
      rcases List.mem_append.mp listed with earlier | last
      · exact ih earlier
      · rw [List.mem_singleton.mp last]
        intro cycle
        obtain ⟨next, depends, path⟩ := Relation.TransGen.head'_iff.mp cycle
        exact fresh (ordered.closed (resolved next depends) path)

end Ordered

/-- The nodes that are being resolved: each is needed for the next one, and the last of them for the
node that follows. -/
structure Resolving (graph : DependencyGraph) (depth : Nat) (path : List Nat) (node : Nat) :
    Prop where
  bounded : path.length + depth = graph.dependencies.size + 1
  distinct : path.Nodup
  apart : node ∉ path
  needs : ∀ earlier ∈ path, Relation.TransGen graph.DependsOn earlier node

theorem lt_size_of_dependsOn {dependency : Nat} (depends : graph.DependsOn node dependency) :
    node < graph.dependencies.size := by
  by_contra absent
  rw [DependsOn, dependenciesOf, Array.getElem?_eq_none (Nat.le_of_not_lt absent)] at depends
  simp at depends

theorem lt_size_of_needs {last : Nat} (path : Relation.TransGen graph.DependsOn node last) :
    node < graph.dependencies.size := by
  obtain ⟨next, depends, -⟩ := Relation.TransGen.head'_iff.mp path
  exact lt_size_of_dependsOn depends

/-- The path is never as long as the bound allows. -/
theorem Resolving.positive (resolving : graph.Resolving depth path node) : 0 < depth := by
  have within : path.toFinset ⊆ Finset.range graph.dependencies.size := by
    intro earlier listed
    rw [List.mem_toFinset] at listed
    exact Finset.mem_range.mpr (lt_size_of_needs (resolving.needs earlier listed))
  have atMost := Finset.card_le_card within
  rw [List.toFinset_card_of_nodup resolving.distinct, Finset.card_range] at atMost
  have bounded := resolving.bounded
  omega

/-- A dependency that is not being resolved continues the path. -/
theorem Resolving.next (resolving : graph.Resolving (depth + 1) path node) {dependency : Nat}
    (depends : graph.DependsOn node dependency) (fresh : dependency ∉ node :: path) :
    graph.Resolving depth (node :: path) dependency := by
  refine ⟨?_, List.nodup_cons.mpr ⟨resolving.apart, resolving.distinct⟩, fresh, ?_⟩
  · have bounded := resolving.bounded
    rw [List.length_cons]
    omega
  · intro earlier listed
    rcases List.mem_cons.mp listed with rfl | listed
    · exact .single depends
    · exact (resolving.needs earlier listed).tail depends

/-! ## Depth-first walks -/

/-- A walk through some nodes extends a list: every node that is not listed yet is listed after the
walk through its own dependencies. -/
inductive PostOrder (graph : DependencyGraph) : List Nat → List Nat → List Nat → Prop
  | nil {solution : List Nat} : PostOrder graph solution [] solution
  | known {solution nodes order : List Nat} {node : Nat} (listed : node ∈ solution)
      (rest : PostOrder graph solution nodes order) : PostOrder graph solution (node :: nodes) order
  | fresh {solution resolved nodes order : List Nat} {node : Nat} (unlisted : node ∉ solution)
      (below : PostOrder graph solution (graph.dependenciesOf node) resolved)
      (rest : PostOrder graph (resolved ++ [node]) nodes order) :
      PostOrder graph solution (node :: nodes) order

namespace PostOrder

variable {nodes order : List Nat}

/-- There is at most one walk. -/
theorem unique {other : List Nat} (walk : graph.PostOrder solution nodes order)
    (again : graph.PostOrder solution nodes other) : other = order := by
  induction walk generalizing other with
  | nil =>
      cases again
      rfl
  | known listed _ ih =>
      cases again with
      | known _ rest => exact ih rest
      | fresh unlisted _ _ => exact absurd listed unlisted
  | fresh unlisted _ _ ihBelow ihRest =>
      cases again with
      | known listed _ => exact absurd listed unlisted
      | fresh _ below rest =>
          rw [ihBelow below] at rest
          exact ihRest rest

theorem subset (walk : graph.PostOrder solution nodes order) : solution ⊆ order := by
  induction walk with
  | nil => exact List.Subset.refl _
  | known _ _ ih => exact ih
  | fresh _ _ _ ihBelow ihRest =>
      exact List.Subset.trans (List.subset_append_of_subset_left _ ihBelow) ihRest

theorem listed (walk : graph.PostOrder solution nodes order) : nodes ⊆ order := by
  induction walk with
  | nil => exact List.nil_subset _
  | known listed rest ih => exact List.cons_subset.mpr ⟨rest.subset listed, ih⟩
  | fresh _ _ rest _ ihRest =>
      exact List.cons_subset.mpr ⟨rest.subset (by simp), ihRest⟩

/-- A walk lists nothing but what the nodes need. -/
theorem needed (walk : graph.PostOrder solution nodes order) (listed : node ∈ order) :
    node ∈ solution ∨ ∃ start ∈ nodes, Relation.ReflTransGen graph.DependsOn start node := by
  induction walk with
  | nil => exact .inl listed
  | known _ _ ih =>
      rcases ih listed with old | ⟨start, inRest, path⟩
      · exact .inl old
      · exact .inr ⟨start, List.mem_cons_of_mem _ inRest, path⟩
  | @fresh _ _ _ _ head _ _ _ ihBelow ihRest =>
      rcases ihRest listed with grown | ⟨start, inRest, path⟩
      · rcases List.mem_append.mp grown with below | here
        · rcases ihBelow below with old | ⟨start, depends, path⟩
          · exact .inl old
          · exact .inr ⟨head, List.mem_cons_self, .head depends path⟩
        · rw [List.mem_singleton.mp here]
          exact .inr ⟨head, List.mem_cons_self, .refl⟩
      · exact .inr ⟨start, List.mem_cons_of_mem _ inRest, path⟩

end PostOrder

/-- An edge of a cycle that one of some nodes needs. -/
structure NeedsCycle (graph : DependencyGraph) (nodes : List Nat) (cycle : DependencyCycle) :
    Prop where
  depends : graph.DependsOn cycle.dependency cycle.dependent
  leads : Relation.ReflTransGen graph.DependsOn cycle.dependent cycle.dependency
  needed : ∃ start ∈ nodes, Relation.ReflTransGen graph.DependsOn start cycle.dependency

/-- What the resolution of some nodes gives: the list to which a walk through the nodes extends the
former one, with every node after its dependencies and without the path; or an edge of a cycle. -/
def Resolves (graph : DependencyGraph) (path solution nodes : List Nat) :
    Except DependencyCycle (List Nat) → Prop
  | .ok resolved => graph.PostOrder solution nodes resolved ∧ graph.Ordered resolved ∧
      ∀ earlier ∈ path, earlier ∉ resolved
  | .error cycle => graph.NeedsCycle nodes cycle

namespace Resolves

variable {grown nodes : List Nat} {outcome : Except DependencyCycle (List Nat)}

/-- A node that is listed already is passed over. -/
theorem known (listed : node ∈ solution)
    (resolves : graph.Resolves path solution nodes outcome) :
    graph.Resolves path solution (node :: nodes) outcome := by
  cases outcome with
  | ok resolved => exact ⟨.known listed resolves.1, resolves.2⟩
  | error cycle =>
      obtain ⟨depends, leads, start, inNodes, needs⟩ := resolves
      exact ⟨depends, leads, start, List.mem_cons_of_mem node inNodes, needs⟩

/-- What follows a resolved node is resolved on top of it. -/
theorem fresh (unlisted : node ∉ solution) (walk : graph.PostOrder solution [node] grown)
    (resolves : graph.Resolves path grown nodes outcome) :
    graph.Resolves path solution (node :: nodes) outcome := by
  cases outcome with
  | ok resolved =>
      cases walk with
      | known listed _ => exact absurd listed unlisted
      | fresh _ below last =>
          cases last
          exact ⟨.fresh unlisted below resolves.1, resolves.2⟩
  | error cycle =>
      obtain ⟨depends, leads, start, inNodes, needs⟩ := resolves
      exact ⟨depends, leads, start, List.mem_cons_of_mem node inNodes, needs⟩

end Resolves

theorem NeedsCycle.of_first {nodes : List Nat} {cycle : DependencyCycle}
    (needs : graph.NeedsCycle [node] cycle) : graph.NeedsCycle (node :: nodes) cycle := by
  obtain ⟨depends, leads, start, only, path⟩ := needs
  rw [List.mem_singleton] at only
  exact ⟨depends, leads, start, only ▸ List.mem_cons_self, path⟩

theorem resolveAll_resolves
    (resolvesNode : ∀ {path solution node}, graph.Resolving depth path node →
      graph.Ordered solution → node ∉ solution → (∀ earlier ∈ path, earlier ∉ solution) →
        graph.Resolves path solution [node] (graph.resolveNode depth path solution node))
    (resolving : graph.Resolving (depth + 1) path node) (nodes : List Nat)
    (dependencies : ∀ next ∈ nodes, graph.DependsOn node next) (ordered : graph.Ordered solution)
    (apart : ∀ earlier ∈ node :: path, earlier ∉ solution) :
    graph.Resolves (node :: path) solution nodes
      (resolveAll (graph.resolveNode depth (node :: path)) (node :: path) solution node nodes) := by
  induction nodes generalizing solution with
  | nil =>
      rw [resolveAll]
      exact ⟨.nil, ordered, apart⟩
  | cons next rest ih =>
      have depends := dependencies next List.mem_cons_self
      have later := fun other listed => dependencies other (List.mem_cons_of_mem next listed)
      rw [resolveAll]
      by_cases known : next ∈ solution
      · rw [if_pos known]
        exact (ih later ordered apart).known known
      · rw [if_neg known]
        by_cases cyclic : next ∈ node :: path
        · rw [if_pos cyclic]
          refine ⟨depends, ?_, next, List.mem_cons_self, ?_⟩
          all_goals
            rcases List.mem_cons.mp cyclic with rfl | earlier
            · exact .refl
            · exact (resolving.needs next earlier).to_reflTransGen
        · rw [if_neg cyclic]
          have first := resolvesNode (resolving.next depends cyclic) ordered known apart
          cases outcome : graph.resolveNode depth (node :: path) solution next with
          | error cycle =>
              rw [outcome] at first
              exact NeedsCycle.of_first first
          | ok grown =>
              rw [outcome] at first
              obtain ⟨walk, grownOrder, grownApart⟩ := first
              exact (ih later grownOrder grownApart).fresh known walk

/-- Resolving a node lists it after its dependencies. -/
theorem resolveNode_resolves (resolving : graph.Resolving depth path node)
    (ordered : graph.Ordered solution) (fresh : node ∉ solution)
    (apart : ∀ earlier ∈ path, earlier ∉ solution) :
    graph.Resolves path solution [node] (graph.resolveNode depth path solution node) := by
  induction depth generalizing path solution node with
  | zero => exact absurd resolving.positive (Nat.lt_irrefl 0)
  | succ depth ih =>
      have allApart : ∀ earlier ∈ node :: path, earlier ∉ solution := by
        intro earlier listed
        rcases List.mem_cons.mp listed with rfl | listed
        · exact fresh
        · exact apart earlier listed
      rw [resolveNode]
      have below := resolveAll_resolves ih resolving (graph.dependenciesOf node)
        (fun next listed => listed) ordered allApart
      cases outcome : resolveAll (graph.resolveNode depth (node :: path)) (node :: path) solution
          node (graph.dependenciesOf node) with
      | error cycle =>
          rw [outcome] at below
          obtain ⟨depends, leads, start, startDepends, needs⟩ := below
          exact ⟨depends, leads, node, List.mem_cons_self, .head startDepends needs⟩
      | ok resolved =>
          rw [outcome] at below
          obtain ⟨walk, inOrder, avoided⟩ := below
          refine ⟨.fresh fresh walk .nil, inOrder.snoc (avoided node List.mem_cons_self)
            (fun next depends => walk.listed depends), ?_⟩
          intro earlier inPath inResolved
          rcases List.mem_append.mp inResolved with inResolved | same
          · exact avoided earlier (List.mem_cons_of_mem node inPath) inResolved
          · exact resolving.apart (List.mem_singleton.mp same ▸ inPath)

theorem solveFrom_resolves (ordered : graph.Ordered solution) (nodes : List Nat) :
    graph.Resolves [] solution nodes (graph.solveFrom solution nodes) := by
  induction nodes generalizing solution with
  | nil => exact ⟨.nil, ordered, by simp⟩
  | cons node rest ih =>
      rw [solveFrom]
      by_cases known : node ∈ solution
      · rw [if_pos known]
        exact (ih ordered).known known
      · rw [if_neg known]
        have start : graph.Resolving (graph.dependencies.size + 1) [] node :=
          ⟨by simp, List.nodup_nil, by simp, by simp⟩
        have first := resolveNode_resolves start ordered known (by simp)
        cases outcome : graph.resolveNode (graph.dependencies.size + 1) [] solution node with
        | error cycle =>
            rw [outcome] at first
            exact NeedsCycle.of_first first
        | ok grown =>
            rw [outcome] at first
            obtain ⟨walk, grownOrder, -⟩ := first
            exact (ih grownOrder).fresh known walk

theorem solve_resolves (graph : DependencyGraph) (nodes : List Nat) :
    graph.Resolves [] [] nodes (graph.solve nodes) :=
  solveFrom_resolves .nil nodes

/-- An order that is found lists the requested nodes, each after its dependencies. -/
theorem ordered_of_solve {nodes order : List Nat} (solved : graph.solve nodes = .ok order) :
    graph.Ordered order ∧ nodes ⊆ order := by
  have resolves := graph.solve_resolves nodes
  rw [solved] at resolves
  exact ⟨resolves.2.1, resolves.1.listed⟩

/-- An order that is found holds the requested nodes and everything that they need. -/
theorem mem_iff_of_solve {nodes order : List Nat} (solved : graph.solve nodes = .ok order) :
    node ∈ order ↔ ∃ start ∈ nodes, Relation.ReflTransGen graph.DependsOn start node := by
  have resolves := graph.solve_resolves nodes
  rw [solved] at resolves
  obtain ⟨walk, ordered, -⟩ := resolves
  constructor
  · intro listed
    exact (walk.needed listed).resolve_left List.not_mem_nil
  · rintro ⟨start, inNodes, path⟩
    exact ordered.closed (walk.listed inNodes) path

/-- One of some nodes needs a node that needs itself. -/
def MeetsCycle (graph : DependencyGraph) (nodes : List Nat) : Prop :=
  ∃ start ∈ nodes, ∃ node, Relation.ReflTransGen graph.DependsOn start node ∧
    Relation.TransGen graph.DependsOn node node

theorem NeedsCycle.meetsCycle {nodes : List Nat} {cycle : DependencyCycle}
    (needs : graph.NeedsCycle nodes cycle) : graph.MeetsCycle nodes := by
  obtain ⟨depends, leads, start, inNodes, path⟩ := needs
  exact ⟨start, inNodes, cycle.dependency, path, .head' depends leads⟩

theorem exists_solve_of_not_meetsCycle {nodes : List Nat} (acyclic : ¬ graph.MeetsCycle nodes) :
    ∃ order, graph.solve nodes = .ok order := by
  have resolves := graph.solve_resolves nodes
  cases outcome : graph.solve nodes with
  | ok order => exact ⟨order, rfl⟩
  | error cycle =>
      rw [outcome] at resolves
      exact absurd resolves.meetsCycle acyclic

theorem exists_needsCycle_of_meetsCycle {nodes : List Nat} (cyclic : graph.MeetsCycle nodes) :
    ∃ cycle, graph.solve nodes = .error cycle ∧ graph.NeedsCycle nodes cycle := by
  have resolves := graph.solve_resolves nodes
  cases outcome : graph.solve nodes with
  | ok order =>
      rw [outcome] at resolves
      obtain ⟨start, inNodes, node, path, cycle⟩ := cyclic
      have listed := (mem_iff_of_solve outcome).mpr ⟨start, inNodes, path⟩
      exact absurd cycle (resolves.2.1.acyclic listed)
  | error cycle =>
      rw [outcome] at resolves
      exact ⟨cycle, rfl, resolves⟩

/-! ## Dependencies that are replaced -/

/-- The graph after some calls, each of which replaces the dependencies of a node. -/
def afterCalls (graph : DependencyGraph) (calls : List (Nat × List Nat)) : DependencyGraph :=
  calls.foldl (fun graph call => graph.setDependencies call.1 call.2) graph

theorem size_afterCalls (graph : DependencyGraph) (calls : List (Nat × List Nat)) :
    (graph.afterCalls calls).dependencies.size = graph.dependencies.size := by
  induction calls generalizing graph with
  | nil => rfl
  | cons call rest ih => exact (ih _).trans (by simp [setDependencies])

theorem dependenciesOf_setDependencies {changed : Nat} {nodes : List Nat} :
    (graph.setDependencies changed nodes).dependenciesOf node
      = if node = changed ∧ changed < graph.dependencies.size then nodes.eraseDups
        else graph.dependenciesOf node := by
  unfold dependenciesOf setDependencies
  simp only [Array.getElem?_modify, foldl_keepFirst_nil]
  by_cases same : changed = node
  · subst same
    by_cases present : changed < graph.dependencies.size
    · simp [present]
    · simp [present]
  · simp [same, Ne.symm same]

theorem dependsOn_setDependencies {changed dependency : Nat} {nodes : List Nat} :
    (graph.setDependencies changed nodes).DependsOn node dependency ↔
      if node = changed ∧ changed < graph.dependencies.size then dependency ∈ nodes
      else graph.DependsOn node dependency := by
  rw [DependsOn, dependenciesOf_setDependencies]
  split
  · exact List.mem_eraseDups
  · exact Iff.rfl

/-- A node has the dependencies that the last call for it gives, each at its first place. -/
theorem dependenciesOf_afterCalls (calls : List (Nat × List Nat))
    (present : node < graph.dependencies.size) :
    (graph.afterCalls calls).dependenciesOf node
      = match calls.reverse.find? (·.1 = node) with
        | some call => call.2.eraseDups
        | none => graph.dependenciesOf node := by
  induction calls using List.reverseRecOn with
  | nil => rfl
  | append_singleton earlier call ih =>
      rw [afterCalls, List.foldl_append, List.foldl_cons, List.foldl_nil, ← afterCalls,
        dependenciesOf_setDependencies, List.reverse_append, List.reverse_singleton,
        List.singleton_append, List.find?_cons]
      by_cases here : call.1 = node
      · rw [if_pos ⟨here.symm, by rwa [here, size_afterCalls]⟩, decide_eq_true here]
      · rw [if_neg fun same => here same.1.symm, decide_eq_false here, ih]

/-! ## Graphs given by lists -/

/-- The dependencies of the nodes from a first one on, given by one list for each. -/
def withLists (graph : DependencyGraph) (first : Nat) (dependencies : List (List Nat)) :
    DependencyGraph :=
  (dependencies.zipIdx first).foldl (fun graph entry => graph.setDependencies entry.2 entry.1) graph

theorem dependsOn_withLists {first dependency : Nat} {dependencies : List (List Nat)}
    (room : first + dependencies.length ≤ graph.dependencies.size) :
    (graph.withLists first dependencies).DependsOn node dependency ↔
      if first ≤ node ∧ node < first + dependencies.length then
        dependency ∈ dependencies[node - first]?.getD []
      else graph.DependsOn node dependency := by
  unfold withLists
  induction dependencies generalizing graph first with
  | nil =>
      rw [if_neg (by simp)]
      rfl
  | cons nodes rest ih =>
      have size : (graph.setDependencies first nodes).dependencies.size
          = graph.dependencies.size := by simp [setDependencies]
      rw [List.length_cons] at room
      have later :
          first + 1 + rest.length ≤ (graph.setDependencies first nodes).dependencies.size := by
        omega
      rw [List.zipIdx_cons, List.foldl_cons, ih later, dependsOn_setDependencies, List.length_cons]
      by_cases here : node = first
      · subst here
        rw [if_neg (by omega), if_pos ⟨rfl, by omega⟩, if_pos (by omega), Nat.sub_self]
        rfl
      · by_cases beyond : first + 1 ≤ node ∧ node < first + 1 + rest.length
        · rw [if_pos beyond, if_pos (by omega),
            show node - first = (node - (first + 1)) + 1 by omega, List.getElem?_cons_succ]
        · rw [if_neg beyond, if_neg (by omega), if_neg (by omega)]

theorem not_dependsOn_isolated {count dependency : Nat} :
    ¬ (isolated count).DependsOn node dependency := by
  unfold DependsOn dependenciesOf isolated
  by_cases present : node < count <;> simp [present]

/-- A node depends on what its list holds. -/
theorem dependsOn_lists {dependency : Nat} {dependencies : List (List Nat)} :
    ((isolated dependencies.length).withLists 0 dependencies).DependsOn node dependency ↔
      dependency ∈ dependencies[node]?.getD [] := by
  rw [dependsOn_withLists (by simp [isolated])]
  split
  · simp
  next outside =>
    have absent : dependencies[node]? = none := by
      rw [List.getElem?_eq_none_iff]
      omega
    simp [absent, not_dependsOn_isolated]

/-! ## Solutions -/

/-- Whatever calls have set the dependencies, the solution lists the requested nodes and everything
that they need once, every node after its dependencies, as the walk through the nodes and their
dependencies meets them; unless one of them needs a cycle, an edge of which is reported then. -/
theorem solve_postOrder_or_cycle (graph : DependencyGraph) (calls : List (Nat × List Nat))
    (nodes : List Nat) :
    let settled := graph.afterCalls calls
    (∀ node < graph.dependencies.size, settled.dependenciesOf node
        = match calls.reverse.find? (·.1 = node) with
          | some call => call.2.eraseDups
          | none => graph.dependenciesOf node) ∧
      (¬ settled.MeetsCycle nodes → ∃ order, settled.solve nodes = .ok order ∧ order.Nodup ∧
        (∀ node, node ∈ order ↔
          ∃ start ∈ nodes, Relation.ReflTransGen settled.DependsOn start node) ∧
        (∀ before node after, order = before ++ node :: after →
          ∀ dependency, settled.DependsOn node dependency → dependency ∈ before) ∧
        ∀ walked, settled.PostOrder [] nodes walked ↔ walked = order) ∧
      (settled.MeetsCycle nodes → ∃ cycle, settled.solve nodes = .error cycle ∧
        settled.DependsOn cycle.dependency cycle.dependent ∧
        Relation.ReflTransGen settled.DependsOn cycle.dependent cycle.dependency) := by
  intro settled
  refine ⟨fun node present => dependenciesOf_afterCalls calls present, ?_, ?_⟩
  · intro acyclic
    obtain ⟨order, solved⟩ := exists_solve_of_not_meetsCycle acyclic
    have resolves := settled.solve_resolves nodes
    rw [solved] at resolves
    obtain ⟨walk, ordered, -⟩ := resolves
    refine ⟨order, solved, ordered.nodup, fun node => mem_iff_of_solve solved, ?_,
      fun walked => ⟨walk.unique, fun same => same ▸ walk⟩⟩
    rintro before node after rfl
    exact ordered.of_append_cons.2
  · intro cyclic
    obtain ⟨cycle, reported, needs⟩ := exists_needsCycle_of_meetsCycle cyclic
    exact ⟨cycle, reported, needs.depends, needs.leads⟩

/-- A worker who is a person with a job, and a person who is an object with a job.  A dependency is
given twice, and the first call is replaced. -/
def staffCalls : List (Nat × List Nat) :=
  [(0, [2]), (0, [1, 2, 1]), (1, [3]), (3, [2])]

/-- The worker can be resolved, until the job depends on the object. -/
theorem solve_postOrder_or_cycle_staff :
    (¬ ((isolated 4).afterCalls staffCalls).MeetsCycle [0, 2, 3] ∧
      ((isolated 4).afterCalls staffCalls).dependenciesOf 0 = [1, 2] ∧
      ((isolated 4).afterCalls staffCalls).PostOrder [] [0, 2, 3] [2, 3, 1, 0]) ∧
    ((isolated 4).afterCalls (staffCalls ++ [(2, [3])])).MeetsCycle [0] ∧
      ∃ cycle, ((isolated 4).afterCalls (staffCalls ++ [(2, [3])])).solve [0] = .error cycle ∧
        ((isolated 4).afterCalls (staffCalls ++ [(2, [3])])).DependsOn cycle.dependency
          cycle.dependent := by
  have solved : ((isolated 4).afterCalls staffCalls).solve [0, 2, 3] = .ok [2, 3, 1, 0] := by
    decide
  have acyclic : ¬ ((isolated 4).afterCalls staffCalls).MeetsCycle [0, 2, 3] := by
    intro cyclic
    obtain ⟨cycle, reported, -⟩ := exists_needsCycle_of_meetsCycle cyclic
    rw [solved] at reported
    cases reported
  have cyclic : ((isolated 4).afterCalls (staffCalls ++ [(2, [3])])).MeetsCycle [0] := by
    refine ⟨0, List.mem_singleton.mpr rfl, 3, .tail (b := 1) (.single ?_) ?_,
      .head (b := 2) ?_ (.single ?_)⟩
    all_goals
      unfold DependsOn
      decide
  obtain ⟨given, resolved, -⟩ := solve_postOrder_or_cycle (isolated 4) staffCalls [0, 2, 3]
  obtain ⟨order, found, -, -, -, walks⟩ := resolved acyclic
  cases solved.symm.trans found
  obtain ⟨-, -, refused⟩ :=
    solve_postOrder_or_cycle (isolated 4) (staffCalls ++ [(2, [3])]) [0]
  obtain ⟨cycle, reported, depends, -⟩ := refused cyclic
  exact ⟨⟨acyclic, given 0 (by decide), (walks _).mpr rfl⟩, cyclic, cycle, reported, depends⟩

end DependencyGraph

end Nominal
