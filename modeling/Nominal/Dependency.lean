import Nominal.Collection.Table

/-!
# Dependency order

Nodes are numbered, and every node has an ordered list of the nodes that it depends on.  `solve`
lists the requested nodes and everything that they depend on, each after its own dependencies, in
depth-first order.  A cycle has no such order; it is reported by one of its edges.
-/

namespace Nominal

/-- The dependencies of each node. -/
structure DependencyGraph where
  dependencies : Array (List Nat) := #[]
  deriving Repr, Inhabited

/-- An edge that closes a cycle: `dependency` directly depends on `dependent`, which is being
resolved because `dependency` is needed for it. -/
structure DependencyCycle where
  dependent : Nat
  dependency : Nat
  deriving Repr, DecidableEq

namespace DependencyGraph

/-- Nodes without dependencies. -/
def isolated (count : Nat) : DependencyGraph :=
  ⟨Array.replicate count []⟩

/-- The direct dependencies of a node. -/
def dependenciesOf (graph : DependencyGraph) (node : Nat) : List Nat :=
  graph.dependencies[node]?.getD []

/-- Replaces the dependencies of a node.  A repeated dependency counts once, at its first place. -/
def setDependencies (graph : DependencyGraph) (node : Nat) (nodes : List Nat) : DependencyGraph :=
  let kept := nodes.foldl (fun seen next => if next ∈ seen then seen else seen ++ [next]) []
  ⟨graph.dependencies.modify node fun _ => kept⟩

/-- Resolves the remaining dependencies of a node.  `path` holds the nodes being resolved, and
`solution` the resolved ones, to which `resolve` adds one more. -/
def resolveAll (resolve : List Nat → Nat → Except DependencyCycle (List Nat)) (path : List Nat)
    (solution : List Nat) (node : Nat) : List Nat → Except DependencyCycle (List Nat)
  | [] => .ok solution
  | next :: rest =>
    if next ∈ solution then resolveAll resolve path solution node rest
    else if next ∈ path then .error { dependent := next, dependency := node }
    else
      match resolve solution next with
      | .ok resolved => resolveAll resolve path resolved node rest
      | .error cycle => .error cycle

/-- Resolves a node: first its dependencies, then itself.  `depth` bounds the length of the
path. -/
def resolveNode (graph : DependencyGraph) :
    Nat → List Nat → List Nat → Nat → Except DependencyCycle (List Nat)
  | 0, _, solution, _ => .ok solution
  | depth + 1, path, solution, node =>
    match resolveAll (graph.resolveNode depth (node :: path)) (node :: path) solution node
      (graph.dependenciesOf node) with
    | .ok resolved => .ok (resolved ++ [node])
    | .error cycle => .error cycle

/-- Resolves the requested nodes one after the other. -/
def solveFrom (graph : DependencyGraph) (solution : List Nat) :
    List Nat → Except DependencyCycle (List Nat)
  | [] => .ok solution
  | node :: rest =>
    if node ∈ solution then solveFrom graph solution rest
    else
      match resolveNode graph (graph.dependencies.size + 1) [] solution node with
      | .ok resolved => solveFrom graph resolved rest
      | .error cycle => .error cycle

/-- The requested nodes and their transitive dependencies, dependencies first. -/
def solve (graph : DependencyGraph) (nodes : List Nat) : Except DependencyCycle (List Nat) :=
  graph.solveFrom [] nodes

end DependencyGraph

end Nominal
