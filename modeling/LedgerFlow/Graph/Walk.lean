import LedgerFlow.Graph.Basic
/-!
The walk through a graph, depth first from the root: each node once, in the order in which it is
first reached, and each link of a reached node in the order in which it is followed.
-/
namespace LedgerFlow

/-- The names reached so far, the links followed so far, and the nodes under way with the links
still to follow, innermost first. -/
structure Walk where
  tasks : List String
  edges : List (String × Link)
  stack : List (String × List Link)

namespace Walk

def step (g : Graph) (w : Walk) : Walk :=
  match w.stack with
  | [] => w
  | (_, []) :: rest => { w with stack := rest }
  | (name, link :: links) :: rest =>
    let edges := w.edges ++ [(name, link)]
    if w.tasks.contains link.target then { w with edges, stack := (name, links) :: rest }
    else
      { tasks := w.tasks ++ [link.target], edges,
        stack := (link.target, g.linksOf link.target) :: (name, links) :: rest }

/-- Steps until nothing is under way, at most `fuel` of them. -/
def run (g : Graph) : Nat → Walk → Walk
  | 0, w => w
  | fuel + 1, w => if w.stack.isEmpty then w else run g fuel (w.step g)

end Walk

def Graph.linkCount (g : Graph) : Nat := (g.nodes.flatMap fun (_, node) => node.links).length

def Graph.walk (g : Graph) : List String × List (String × Link) :=
  match g.root with
  | none => ([], [])
  | some root =>
    let w := Walk.run g (2 * g.linkCount + 2) ⟨[root], [], [(root, g.linksOf root)]⟩
    (w.tasks, w.edges)

/-- The same walk by recursion: the names and links so far, after following these links of a node
and everything first reached by them. `fuel` bounds how many nodes may still be entered one below
the other. -/
def Graph.walkLinks (g : Graph) (fuel : Nat) (name : String) (links : List Link)
    (seen : List String × List (String × Link)) : List String × List (String × Link) :=
  match links with
  | [] => seen
  | link :: links =>
    let (tasks, edges) := (seen.1, seen.2 ++ [(name, link)])
    match fuel, tasks.contains link.target with
    | fuel + 1, false =>
      let below := g.walkLinks fuel link.target (g.linksOf link.target)
        (tasks ++ [link.target], edges)
      g.walkLinks (fuel + 1) name links below
    | fuel, _ => g.walkLinks fuel name links (tasks, edges)
  termination_by (fuel, links)

end LedgerFlow
