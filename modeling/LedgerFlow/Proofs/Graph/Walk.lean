import LedgerFlow.Graph.Walk
import LedgerFlow.Proofs.Graph.Nodes
import LedgerFlow.Proofs.Graph.Tree
import Mathlib.Data.List.Flatten
import Mathlib.Data.List.Perm.Subperm

/-!
The walk through a tree. It comes to every name once, each by the only link that leads there, and
ends within its steps.
-/
namespace LedgerFlow
namespace Walk
open LedgerFlow.Graph

/-- The names in the order in which they came, each but the first by a link from one that was
there. -/
inductive Grown (root : String) : List String → List (String × Link) → Prop
  | root : Grown root [root] []
  | next {tasks : List String} {edges : List (String × Link)} {source : String} {link : Link}
      (grown : Grown root tasks edges) (known : source ∈ tasks) (fresh : link.target ∉ tasks) :
      Grown root (tasks ++ [link.target]) (edges ++ [(source, link)])

variable {root : String} {tasks : List String} {edges : List (String × Link)}

theorem Grown.tasks_eq (grown : Grown root tasks edges) :
    tasks = root :: edges.map (·.2.target) := by
  induction grown with
  | root => rfl
  | next _ _ _ ih => simp [ih]

theorem Grown.nodup (grown : Grown root tasks edges) : tasks.Nodup := by
  induction grown with
  | root => exact List.nodup_singleton root
  | next _ _ fresh ih => exact List.nodup_append'.mpr ⟨ih, List.nodup_singleton _, by
      simpa using fresh⟩

theorem Grown.source_mem (grown : Grown root tasks edges) : ∀ edge ∈ edges, edge.1 ∈ tasks := by
  induction grown with
  | root => simp
  | next _ known _ ih =>
    intro edge hedge
    rcases List.mem_append.mp hedge with h | h
    · exact List.mem_append_left _ (ih edge h)
    · rw [List.mem_singleton.mp h]
      exact List.mem_append_left _ known

theorem Grown.target_mem (grown : Grown root tasks edges) :
    ∀ edge ∈ edges, edge.2.target ∈ tasks := by
  intro edge hedge
  rw [grown.tasks_eq]
  exact List.mem_cons_of_mem _ (List.mem_map_of_mem hedge)

theorem Grown.target_ne_root (grown : Grown root tasks edges) :
    ∀ edge ∈ edges, edge.2.target ≠ root := by
  intro edge hedge h
  have nodup := grown.nodup
  rw [grown.tasks_eq] at nodup
  exact (List.nodup_cons.mp nodup).1 (List.mem_map.mpr ⟨edge, hedge, h⟩)

theorem Grown.exists_filter_eq (grown : Grown root tasks edges) {before after : List String}
    {name : String} (split : tasks = before ++ name :: after) (later : before ≠ []) :
    ∃ edge, edges.filter (·.2.target = name) = [edge] ∧ edge.1 ∈ before := by
  induction grown generalizing after with
  | root =>
    obtain ⟨rfl, -⟩ : before = [] ∧ _ := by simpa [List.append_eq_singleton_iff] using split.symm
    exact absurd rfl later
  | @next tasks edges source link grown known fresh ih =>
    rcases List.eq_nil_or_concat after with rfl | ⟨after, last, rfl⟩
    · obtain ⟨rfl, heq⟩ := List.append_inj' split rfl
      obtain rfl := List.singleton_inj.mp heq
      have none : edges.filter (·.2.target = link.target) = [] := by
        refine List.filter_eq_nil_iff.mpr fun edge hedge => ?_
        rw [decide_eq_true_iff]
        intro h
        exact fresh (h ▸ grown.target_mem edge hedge)
      exact ⟨(source, link), by simp [none], known⟩
    · rw [List.concat_eq_append, ← List.cons_append, ← List.append_assoc] at split
      obtain ⟨rfl, -⟩ := List.append_inj' split rfl
      obtain ⟨edge, hedge, hbefore⟩ := ih rfl
      have hne : link.target ≠ name := by
        rintro rfl
        exact fresh (by simp)
      exact ⟨edge, by simp [hedge, hne], hbefore⟩

end Walk

namespace Graph

def leaving (g : Graph) (name : String) : List (String × Link) :=
  (g.linksOf name).map fun link => (name, link)

theorem mem_linksIn_of_mem_leaving {g : Graph} {name : String} {edge : String × Link}
    (h : edge ∈ g.leaving name) : edge ∈ linksIn g.nodes := by
  obtain ⟨link, hlink, rfl⟩ := List.mem_map.mp h
  rw [linksOf] at hlink
  cases found : g.nodes.get? name with
  | none => simp [found] at hlink
  | some node =>
    rw [found] at hlink
    exact mem_linksIn.mpr ⟨node, Table.mem_of_get? found, hlink⟩

theorem mem_leaving {g : Graph} (distinct : g.nodes.keys.Nodup) {edge : String × Link}
    (h : edge ∈ linksIn g.nodes) : edge ∈ g.leaving edge.1 := by
  obtain ⟨node, hnode, hlink⟩ := mem_linksIn.mp h
  rw [leaving, linksOf, Table.get?_of_mem distinct hnode]
  exact List.mem_map_of_mem hlink

theorem linkCount_eq (g : Graph) : g.linkCount = (linksIn g.nodes).length := by
  simp [linkCount, linksIn, List.length_flatMap]

end Graph

namespace Walk
open LedgerFlow.Graph

def pending (stack : List (String × List Link)) : List (String × Link) :=
  stack.flatMap fun (name, links) => links.map fun link => (name, link)

/-- A walk under way: every link of a name that has come is followed or still to follow. -/
structure Follows (g : Graph) (root : String) (w : Walk) : Prop where
  grown : Grown root w.tasks w.edges
  links : (w.edges ++ pending w.stack).Perm (w.tasks.flatMap g.leaving)
  known : w.tasks ⊆ g.nodes.keys
  active : ∀ entry ∈ w.stack, entry.1 ∈ w.tasks

variable {g : Graph} {root : String} {w : Walk}

theorem Follows.subperm (follows : Follows g root w) (distinct : g.nodes.keys.Nodup) :
    (w.edges ++ pending w.stack).Subperm (linksIn g.nodes) := by
  obtain ⟨tasks, hperm, hsub⟩ := List.subperm_of_subset follows.grown.nodup follows.known
  rw [linksIn_eq_flatMap_keys distinct]
  exact ⟨tasks.flatMap g.leaving, (hperm.flatMap_right _).trans follows.links.symm, hsub.flatMap _⟩

theorem Follows.fresh (follows : Follows g root w) (distinct : g.nodes.keys.Nodup)
    (tree : Tree (some root) (linksIn g.nodes) g.nodes.keys) {name : String} {link : Link}
    {links : List Link} {rest : List (String × List Link)}
    (hstack : w.stack = (name, link :: links) :: rest) : link.target ∉ w.tasks := by
  -- Followed and pending links are links of the tree, whose targets are all different.
  have once := tree.arrivals.nodup_iff.mpr distinct
  obtain ⟨edges, hperm, hsub⟩ := follows.subperm distinct
  have once' : ((w.edges ++ pending w.stack).map (·.2.target) ++ [root]).Nodup := by
    have targets := ((hperm.map (·.2.target)).append_right [root]).nodup_iff
    rw [← targets]
    exact once.sublist ((hsub.map _).append_right _)
  have hpending : pending w.stack =
      (name, link) :: ((links.map fun link => (name, link)) ++ pending rest) := by
    rw [hstack]
    rfl
  rw [hpending, List.map_append, List.map_cons, List.append_assoc, List.cons_append,
    List.nodup_middle] at once'
  obtain ⟨apart, -⟩ := List.nodup_cons.mp once'
  rw [follows.grown.tasks_eq, List.mem_cons, not_or]
  constructor
  · rintro rfl
    exact apart (by simp)
  · intro h
    exact apart (List.mem_append_left _ h)

def stepsLeft (g : Graph) (w : Walk) : Nat := 2 * (g.linkCount - w.edges.length) + w.stack.length

theorem Follows.step (follows : Follows g root w) (distinct : g.nodes.keys.Nodup)
    (tree : Tree (some root) (linksIn g.nodes) g.nodes.keys) (active : w.stack ≠ []) :
    Follows g root (w.step g) ∧ stepsLeft g (w.step g) < stepsLeft g w := by
  match hstack : w.stack with
  | [] => exact absurd hstack active
  | (name, []) :: rest =>
    rw [Walk.step, hstack]
    refine ⟨⟨follows.grown, ?_, follows.known, fun entry h => ?_⟩, ?_⟩
    · have links := follows.links
      rwa [hstack] at links
    · exact follows.active entry (hstack ▸ List.mem_cons_of_mem _ h)
    · simp [stepsLeft, hstack]
  | (name, link :: links) :: rest =>
    have fresh := follows.fresh distinct tree hstack
    have here : name ∈ w.tasks := follows.active (name, link :: links) (by simp [hstack])
    have followed : (w.edges ++
      ((name, link) :: ((links.map fun link => (name, link)) ++ pending rest))).Perm
        (w.tasks.flatMap g.leaving) := by
      have links := follows.links
      rwa [hstack] at links
    have hstep : w.step g =
        { tasks := w.tasks ++ [link.target], edges := w.edges ++ [(name, link)],
          stack := (link.target, g.linksOf link.target) :: (name, links) :: rest } := by
      rw [Walk.step, hstack]
      simp [fresh]
    have hlink : (name, link) ∈ linksIn g.nodes := by
      have hmem : (name, link) ∈ w.tasks.flatMap g.leaving := followed.mem_iff.mp (by simp)
      obtain ⟨_, -, hleaving⟩ := List.mem_flatMap.mp hmem
      exact mem_linksIn_of_mem_leaving hleaving
    have target : link.target ∈ g.nodes.keys :=
      tree.arrivals.mem_iff.mp (List.mem_append_left _ (List.mem_map_of_mem hlink))
    rw [hstep]
    refine ⟨⟨follows.grown.next here fresh, ?_, ?_, ?_⟩, ?_⟩
    · change (w.edges ++ [(name, link)] ++
        (g.leaving link.target ++ ((links.map fun link => (name, link)) ++ pending rest))).Perm _
      rw [List.flatMap_append, List.flatMap_singleton]
      -- The links of the new name come first on the stack and last in the order of names.
      refine (List.perm_append_comm.append_left _).trans ?_
      rw [← List.append_assoc, List.append_assoc w.edges, List.singleton_append]
      exact followed.append_right _
    · exact List.append_subset.mpr ⟨follows.known, by simpa using target⟩
    · refine List.forall_mem_cons.mpr
        ⟨by simp, List.forall_mem_cons.mpr ⟨by simp [here], fun entry h => ?_⟩⟩
      exact List.mem_append_left _ (follows.active entry (by simp [hstack, h]))
    · have bound := (follows.subperm distinct).length_le
      rw [List.length_append, hstack, ← linkCount_eq] at bound
      simp only [pending, List.flatMap_cons, List.map_cons, List.length_append, List.length_cons]
        at bound
      simp only [stepsLeft, hstack, List.length_append, List.length_cons, List.length_nil]
      omega

theorem Follows.run (follows : Follows g root w) (distinct : g.nodes.keys.Nodup)
    (tree : Tree (some root) (linksIn g.nodes) g.nodes.keys) {fuel : Nat}
    (enough : stepsLeft g w ≤ fuel) :
    Follows g root (run g fuel w) ∧ (run g fuel w).stack = [] := by
  induction fuel generalizing w with
  | zero =>
    have hstack : w.stack = [] := by
      unfold stepsLeft at enough
      exact List.eq_nil_of_length_eq_zero (by omega)
    exact ⟨follows, hstack⟩
  | succ fuel ih =>
    rw [Walk.run]
    split
    · rename_i ended
      exact ⟨follows, List.isEmpty_iff.mp ended⟩
    · rename_i active
      obtain ⟨follows', fewer⟩ := follows.step distinct tree fun h =>
        active (List.isEmpty_iff.mpr h)
      exact ih follows' (by omega)

theorem Follows.tasks_perm (follows : Follows g root w) (ended : w.stack = [])
    (distinct : g.nodes.keys.Nodup) (tree : Tree (some root) (linksIn g.nodes) g.nodes.keys) :
    w.tasks.Perm g.nodes.keys := by
  have links := follows.links
  rw [ended, pending, List.flatMap_nil, List.append_nil] at links
  have every (name : String) (h : Reached (some root) (linksIn g.nodes) name) : name ∈ w.tasks := by
    induction h with
    | root top =>
      rw [follows.grown.tasks_eq, Option.some.inj top]
      exact List.mem_cons_self
    | @step name link _ follow ih =>
      refine follows.grown.target_mem (name, link) (links.mem_iff.mpr ?_)
      exact List.mem_flatMap.mpr ⟨_, ih, mem_leaving distinct follow⟩
  refine (List.perm_ext_iff_of_nodup follows.grown.nodup distinct).mpr fun name => ?_
  exact ⟨fun h => follows.known h, fun h => every name (tree.reached name h)⟩

end Walk

namespace Graph
variable {g : Graph}

theorem walk_of_no_root (empty : g.root = none) : g.walk = ([], []) := by
  rw [walk, empty]

/-- The walk through a tree comes to all its names, each by the link that leads there. -/
theorem walk_of_tree {root : String} (top : g.root = some root) (distinct : g.nodes.keys.Nodup)
    (tree : Tree g.root (linksIn g.nodes) g.nodes.keys) :
    Walk.Grown root g.walk.1 g.walk.2 ∧ g.walk.1.Perm g.nodes.keys := by
  rw [top] at tree
  have known : root ∈ g.nodes.keys := tree.arrivals.mem_iff.mp (by simp)
  have start : Walk.Follows g root ⟨[root], [], [(root, g.linksOf root)]⟩ := by
    refine ⟨.root, ?_, by simpa using known, by simp⟩
    rw [List.nil_append, List.flatMap_singleton, Walk.pending, List.flatMap_singleton]
    exact .refl _
  have enough : Walk.stepsLeft g ⟨[root], [], [(root, g.linksOf root)]⟩ ≤ 2 * g.linkCount + 2 := by
    simp [Walk.stepsLeft]
  obtain ⟨follows, ended⟩ := start.run distinct tree enough
  rw [walk, top]
  exact ⟨follows.grown, follows.tasks_perm ended distinct tree⟩

end Graph

end LedgerFlow
