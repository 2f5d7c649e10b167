import Nominal.Build.Seal

/-!
# Running computations

`Query.exec` and `Build.exec` give what a computation answers and the graph that it leaves behind.
Their equations follow the structure of a computation, so that the effect of an operation is read
off one step at a time.

A graph without its kept views and its journal is *bare*.  Everything that a type declares is part
of the bare graph, and nothing that is computed from declarations looks beyond it.
-/

namespace Nominal

/-! ## Queries -/

/-- What a query answers, and the graph that it leaves. -/
def Query.exec {α : Type} (query : Query α) (graph : Graph) : α × Graph :=
  query.run graph

namespace Query

variable {α β : Type} {graph : Graph}

@[simp]
theorem exec_pure (value : α) : Query.exec (pure value) graph = (value, graph) := rfl

@[simp]
theorem exec_bind (query : Query α) (next : α → Query β) :
    Query.exec (query >>= next) graph = (next (query.exec graph).1).exec (query.exec graph).2 :=
  rfl

@[simp]
theorem exec_get : Query.exec get graph = (graph, graph) := rfl

@[simp]
theorem exec_set (changed : Graph) : Query.exec (set changed) graph = ((), changed) := rfl

@[simp]
theorem exec_modify (change : Graph → Graph) :
    Query.exec (modify change) graph = ((), change graph) := rfl

end Query

/-! ## Builds -/

/-- How a build ends, and the graph that it leaves. -/
def Build.exec {α : Type} (build : Build α) (graph : Graph) : Except Failure α × Graph :=
  build.run.run graph

namespace Build

variable {α β : Type} {graph : Graph}

@[simp]
theorem exec_pure (value : α) : Build.exec (pure value) graph = (.ok value, graph) := rfl

theorem exec_bind (build : Build α) (next : α → Build β) :
    Build.exec (build >>= next) graph =
      match build.exec graph with
      | (.ok value, left) => (next value).exec left
      | (.error failure, left) => (.error failure, left) := by
  simp only [exec, ExceptT.run_bind, StateT.run_bind]
  show (match build.run.run graph with | (_, _) => _) = _
  rcases (build.run.run graph : Except Failure α × Graph) with ⟨_ | _, _⟩ <;> rfl

@[simp]
theorem exec_get : Build.exec get graph = (.ok graph, graph) := rfl

@[simp]
theorem exec_set (changed : Graph) : Build.exec (set changed) graph = (.ok (), changed) := rfl

@[simp]
theorem exec_modify (change : Graph → Graph) :
    Build.exec (modify change) graph = (.ok (), change graph) := rfl

@[simp]
theorem exec_throw (failure : Failure) :
    Build.exec (throw failure : Build α) graph = (.error failure, graph) := rfl

@[simp]
theorem exec_reject (error : Error) :
    Build.exec (reject error : Build α) graph = (.error (.rejected error), graph) := rfl

@[simp]
theorem exec_misuse (message : String) :
    Build.exec (misuse message : Build α) graph = (.error (.misuse message), graph) := rfl

@[simp]
theorem exec_lift (query : Query α) :
    Build.exec (liftM query : Build α) graph = (.ok (query.exec graph).1, (query.exec graph).2) :=
  rfl

theorem exec_tryCatch (build : Build α) (handle : Failure → Build α) :
    Build.exec (tryCatch build handle) graph =
      match build.exec graph with
      | (.ok value, left) => (.ok value, left)
      | (.error failure, left) => (handle failure).exec left := by
  show (ExceptT.tryCatch build handle).run.run graph = _
  simp only [exec, ExceptT.tryCatch, ExceptT.run_mk, StateT.run_bind]
  rcases ended : (build.run.run graph : Except Failure α × Graph) with ⟨outcome, left⟩
  have started : (StateT.run build graph : Id (Except Failure α × Graph)) = (outcome, left) :=
    ended
  rw [started]
  cases outcome <;> rfl

/-- A build that begins with a successful step goes on from the graph that the step leaves. -/
theorem exec_bind_of_ok {build : Build α} {next : α → Build β} {value : α} {left : Graph}
    (first : build.exec graph = (.ok value, left)) :
    Build.exec (build >>= next) graph = (next value).exec left := by
  rw [exec_bind, first]

/-- A build ends where its first step fails. -/
theorem exec_bind_of_error {build : Build α} {next : α → Build β} {failure : Failure}
    {left : Graph} (first : build.exec graph = (.error failure, left)) :
    Build.exec (build >>= next) graph = (.error failure, left) := by
  rw [exec_bind, first]

/-- Two builds in a row end with the failure of the first one, or as the second one does. -/
theorem exec_bind_cases (build : Build α) (next : α → Build β) (graph : Graph) :
    (∃ failure left, build.exec graph = (.error failure, left) ∧
        Build.exec (build >>= next) graph = (.error failure, left)) ∨
      ∃ value left, build.exec graph = (.ok value, left) ∧
        Build.exec (build >>= next) graph = (next value).exec left := by
  rcases run : build.exec graph with ⟨failure | value, left⟩
  · exact .inl ⟨failure, left, rfl, exec_bind_of_error run⟩
  · exact .inr ⟨value, left, rfl, exec_bind_of_ok run⟩

@[simp]
theorem exec_get_bind (next : Graph → Build β) :
    Build.exec (get >>= next) graph = (next graph).exec graph := rfl

@[simp]
theorem exec_set_bind (changed : Graph) (next : PUnit → Build β) :
    Build.exec (set changed >>= next) graph = (next ()).exec changed := rfl

@[simp]
theorem exec_modify_bind (change : Graph → Graph) (next : PUnit → Build β) :
    Build.exec (modify change >>= next) graph = (next ()).exec (change graph) := rfl

@[simp]
theorem exec_lift_bind (query : Query α) (next : α → Build β) :
    Build.exec (liftM query >>= next) graph =
      (next (query.exec graph).1).exec (query.exec graph).2 := rfl

end Build

/-! ## Bare graphs -/

namespace Graph

/-- The graph without kept views and journal. -/
def bare (graph : Graph) : Graph :=
  { graph with caches := #[], journal := {} }

/-- Whatever does not look at kept views and the journal is the same for graphs that differ in
nothing else. -/
theorem eq_of_bare_eq {Value : Type} {graph other : Graph} (read : Graph → Value)
    (same : other.bare = graph.bare) (blind : ∀ graph : Graph, read graph.bare = read graph) :
    read other = read graph := by
  rw [← blind other, same, blind graph]

end Graph

end Nominal
