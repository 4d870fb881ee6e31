import LedgerFlow.Proofs.Graph.Nodes
import LedgerFlow.Proofs.Graph.Operation
import LedgerFlow.Proofs.Graph.Tree

/-!
What holds of a builder at every moment: the nodes with a place are those of the actions linked so
far and those put in between, and the links make a tree of them. Every operation keeps it.
-/
namespace LedgerFlow.Builder
open LedgerFlow.Graph
open scoped List

theorem nodup_keys_append {nodes : Table Node} {name : String} {node : Node}
    (distinct : nodes.keys.Nodup) (fresh : name ∉ nodes.keys) :
    (Table.keys (nodes ++ [(name, node)])).Nodup := by
  rw [Table.keys_append]
  exact List.nodup_append'.mpr
    ⟨distinct, List.nodup_singleton name, by simpa [Table.keys] using fresh⟩

section Inserted
variable {b b' : Builder} {name : String} (inserted : Inserted b name b')
include inserted

theorem Inserted.distinct (distinct : b.nodes.keys.Nodup) : b'.nodes.keys.Nodup := by
  obtain ⟨-, fresh, -⟩ := inserted
  exact nodup_keys_append distinct fresh

theorem Inserted.found {other : String} {node : Node} (found : b.nodes.get? other = some node) :
    b'.nodes.get? other = some node := by
  cases inserted
  rw [nodes_withNode, nodes_numbered, Table.get?_append, found, Option.some_or]

theorem Inserted.known (known : Known b.activities b.nodes) : Known b'.activities b'.nodes := by
  obtain ⟨noop, -, -⟩ := inserted
  exact known.append noop

theorem Inserted.start_eq : b'.start = b.start := by
  cases inserted
  rfl

theorem Inserted.root_eq : b'.root = b.root := by
  cases inserted
  rfl

theorem Inserted.linksIn_eq : linksIn b'.nodes = linksIn b.nodes := by
  cases inserted
  simp

theorem Inserted.actionsIn_eq : actionsIn b'.nodes = actionsIn b.nodes := by
  cases inserted
  simp

theorem Inserted.noopsIn_eq : noopsIn b'.nodes = noopsIn b.nodes ++ [name] := by
  cases inserted
  simp [Node.synthetic]

theorem Inserted.placedIn_eq : placedIn b'.nodes = placedIn b.nodes ++ [name] := by
  cases inserted
  simp

theorem Inserted.branchLinksIn_eq : branchLinksIn b'.nodes = branchLinksIn b.nodes := by
  cases inserted
  simp

end Inserted

section Branch
variable {b : Builder} {name : String} {node : Node} (point : String)

theorem actionsIn_withBranch : actionsIn (b.withBranch name point).nodes = actionsIn b.nodes := by
  rw [nodes_withBranch]
  exact actionsIn_update_of_same fun _ => rfl

theorem noopsIn_withBranch : noopsIn (b.withBranch name point).nodes = noopsIn b.nodes := by
  rw [nodes_withBranch]
  exact noopsIn_update_of_same fun _ => rfl

theorem placedIn_withBranch : placedIn (b.withBranch name point).nodes = placedIn b.nodes := by
  rw [nodes_withBranch]
  exact placedIn_update_of_same fun _ => rfl

theorem linksIn_withBranch (distinct : b.nodes.keys.Nodup) (found : b.nodes.get? name = some node) :
    (linksIn (b.withBranch name point).nodes).Perm
      (linksIn b.nodes ++ [(name, { target := point })]) := by
  rw [nodes_withBranch]
  refine linksIn_update distinct found ?_
  rfl

theorem branchLinksIn_withBranch (distinct : b.nodes.keys.Nodup)
    (found : b.nodes.get? name = some node) (unbranched : node.branchPoint = none) :
    (branchLinksIn (b.withBranch name point).nodes).Perm
      (branchLinksIn b.nodes ++ [(name, { target := point })]) := by
  rw [nodes_withBranch]
  refine branchLinksIn_update distinct found unbranched ?_
  rfl

end Branch

section Link
variable {b : Builder} {source : String} {node : Node} (link : Link)

theorem actionsIn_withLink : actionsIn (b.withLink source link).nodes = actionsIn b.nodes := by
  rw [nodes_withLink]
  exact actionsIn_update_of_same fun _ => rfl

theorem noopsIn_withLink : noopsIn (b.withLink source link).nodes = noopsIn b.nodes := by
  rw [nodes_withLink]
  exact noopsIn_update_of_same fun _ => rfl

theorem placedIn_withLink : placedIn (b.withLink source link).nodes = placedIn b.nodes := by
  rw [nodes_withLink]
  exact placedIn_update_of_same fun _ => rfl

theorem branchLinksIn_withLink :
    branchLinksIn (b.withLink source link).nodes = branchLinksIn b.nodes := by
  rw [nodes_withLink]
  exact branchLinksIn_update_of_same fun _ => rfl

theorem linksIn_withLink (distinct : b.nodes.keys.Nodup) (found : b.nodes.get? source = some node) :
    (linksIn (b.withLink source link).nodes).Perm (linksIn b.nodes ++ [(source, link)]) := by
  rw [nodes_withLink]
  refine linksIn_update distinct found ?_
  rfl

end Link

section Place
variable (b : Builder) (name : String)

theorem actionsIn_withPlace : actionsIn (b.withPlace name).nodes = actionsIn b.nodes := by
  rw [nodes_withPlace]
  exact actionsIn_update_of_same fun _ => rfl

theorem noopsIn_withPlace : noopsIn (b.withPlace name).nodes = noopsIn b.nodes := by
  rw [nodes_withPlace]
  exact noopsIn_update_of_same fun _ => rfl

theorem linksIn_withPlace : linksIn (b.withPlace name).nodes = linksIn b.nodes := by
  rw [nodes_withPlace]
  exact linksIn_update_of_same fun _ => rfl

theorem branchLinksIn_withPlace :
    branchLinksIn (b.withPlace name).nodes = branchLinksIn b.nodes := by
  rw [nodes_withPlace]
  exact branchLinksIn_update_of_same fun _ => rfl

end Place

/-- The actions of `tasks` have a place under their names, those of `pending` have none yet, and
every other node is the start node or one that branching rules start from. -/
structure Kept (b : Builder) (tasks pending : List (String × Action)) : Prop where
  distinct : b.nodes.keys.Nodup
  actions : (actionsIn b.nodes).Perm (tasks ++ pending)
  noops : (noopsIn b.nodes).Perm (b.start.toList ++ (branchLinksIn b.nodes).map (·.2.target))
  placed : (placedIn b.nodes).Perm (tasks.map (·.1) ++ noopsIn b.nodes)
  started : ∀ start ∈ b.start, start ∈ b.root
  known : Known b.activities b.nodes

/-- Beside that, the nodes with a place are a tree, whose links are `links` and those to the nodes
that branching rules start from. -/
structure Woven (b : Builder) (tasks pending : List (String × Action))
    (links : List (String × Link)) : Prop
    extends Kept b tasks pending where
  tree : Tree b.root (linksIn b.nodes) (placedIn b.nodes)
  links : (linksIn b.nodes).Perm (links ++ branchLinksIn b.nodes)

variable {b b' : Builder} {tasks pending : List (String × Action)} {links : List (String × Link)}
  {name : String} {action : Action} {activity : Activity}

theorem Kept.nodup_names (kept : Kept b tasks pending) :
    (tasks.map (·.1) ++ pending.map (·.1) ++ noopsIn b.nodes).Nodup := by
  have names := (keys_perm b.nodes).trans ((kept.actions.map (·.1)).append_right _)
  rw [List.map_append] at names
  exact names.nodup_iff.mp kept.distinct

theorem Kept.not_mem_placedIn (kept : Kept b tasks ((name, action) :: pending)) :
    name ∉ placedIn b.nodes := by
  have names := kept.nodup_names
  rw [List.map_cons, List.append_assoc, List.cons_append, List.nodup_middle] at names
  obtain ⟨apart, -⟩ := List.nodup_cons.mp names
  rw [kept.placed.mem_iff, List.mem_append]
  rintro (h | h)
  · exact apart (by simp [h])
  · exact apart (by simp [h])

theorem Kept.exists_node (kept : Kept b tasks pending) (h : (name, action) ∈ tasks ++ pending) :
    ∃ node, b.nodes.get? name = some node ∧ node.action = some action ∧
      b.activities.find action.activity = .ok node.activity := by
  obtain ⟨node, hmem, haction⟩ := mem_actionsIn.mp (kept.actions.mem_iff.mpr h)
  have found := Table.get?_of_mem kept.distinct hmem
  have known := kept.known name node found
  rw [Node.activityRef, haction] at known
  exact ⟨node, found, haction, known⟩

theorem Kept.exists_placed (kept : Kept b tasks pending) (h : name ∈ placedIn b.nodes) :
    ∃ node, b.nodes.get? name = some node ∧ node.linked = true := by
  obtain ⟨node, hmem, linked⟩ := mem_placedIn.mp h
  exact ⟨node, Table.get?_of_mem kept.distinct hmem, linked⟩

theorem Kept.of_perm (kept : Kept b tasks pending) {pending' : List (String × Action)}
    (h : pending.Perm pending') : Kept b tasks pending' :=
  { kept with actions := kept.actions.trans (h.append_left _) }

theorem Woven.root_mem (woven : Woven b tasks pending links) (top : b.root = some name) :
    name ∈ placedIn b.nodes :=
  woven.tree.arrivals.mem_iff.mp (by simp [top])

theorem Woven.branchPoint_mem (woven : Woven b tasks pending links) {point : String} {node : Node}
    (found : b.nodes.get? name = some node) (branched : node.branchPoint = some point) :
    point ∈ placedIn b.nodes := by
  have below : (name, { target := point }) ∈ linksIn b.nodes := by
    rw [woven.links.mem_iff]
    exact List.mem_append_right
      _ (mem_branchLinksIn.mpr ⟨node, point, Table.mem_of_get? found, branched, rfl⟩)
  exact woven.tree.arrivals.mem_iff.mp (List.mem_append_left _ (List.mem_map_of_mem below))

theorem Woven.of_perm (woven : Woven b tasks pending links) {pending' : List (String × Action)}
    (h : pending.Perm pending') : Woven b tasks pending' links :=
  ⟨woven.toKept.of_perm h, woven.tree, woven.links⟩

theorem Woven.numbered (woven : Woven b tasks pending links) (sequence : Table Nat) :
    Woven (b.numbered sequence) tasks pending links :=
  ⟨⟨woven.distinct, woven.actions, woven.noops, woven.placed, woven.started, woven.known⟩,
    woven.tree, woven.links⟩

theorem Woven.enter (woven : Woven b tasks pending links) (fresh : name ∉ b.nodes.keys)
    (known : b.activities.find action.activity = .ok activity) :
    Woven (b.withNode name { activity, action := some action }) tasks ((name, action) :: pending)
      links where
  distinct := nodup_keys_append woven.distinct fresh
  actions := by
    have actions := (woven.actions.append_right [(name, action)]).trans
      ((List.perm_append_singleton _ _).trans List.perm_middle.symm)
    simpa [withNode] using actions
  noops := by simpa [withNode, Node.synthetic] using woven.noops
  placed := by simpa [withNode, Node.synthetic] using woven.placed
  started := woven.started
  known := woven.known.append known
  tree := by simpa [withNode] using woven.tree
  links := by simpa [withNode] using woven.links

theorem Woven.start (woven : Woven b tasks pending links) (inserted : Inserted b name b')
    (empty : b.root = none) : Woven (b'.withStart name) tasks pending links := by
  -- Without a root nothing has a place, so the start node is a tree on its own.
  obtain ⟨hlinks, hplaced⟩ := (empty ▸ woven.tree).eq_nil
  have unstarted : b.start = none := by
    cases hstart : b.start with
    | none => rfl
    | some start => simpa [empty] using woven.started start hstart
  constructor
  · constructor
    · exact inserted.distinct woven.distinct
    · rw [nodes_withStart, inserted.actionsIn_eq]
      exact woven.actions
    · have noops := woven.noops
      rw [unstarted] at noops
      rw [nodes_withStart, inserted.noopsIn_eq, inserted.branchLinksIn_eq]
      exact (List.perm_append_singleton _ _).trans (noops.cons name)
    · rw [nodes_withStart, inserted.placedIn_eq, inserted.noopsIn_eq, ← List.append_assoc]
      exact woven.placed.append_right [name]
    · exact fun start hstart => hstart
    · exact inserted.known woven.known
  · rw [nodes_withStart, inserted.linksIn_eq, inserted.placedIn_eq, hlinks, hplaced]
    exact .singleton name
  · rw [nodes_withStart, inserted.linksIn_eq, inserted.branchLinksIn_eq]
    exact woven.links

theorem Woven.branch (woven : Woven b tasks pending links) {point : String} {node : Node}
    (found : b.nodes.get? name = some node) (linked : node.linked = true)
    (unbranched : node.branchPoint = none) (inserted : Inserted b point b') :
    Woven (b'.withBranch name point) tasks pending links := by
  have distinct := inserted.distinct woven.distinct
  have hlinks := linksIn_withBranch point distinct (inserted.found found)
  have hbranches := branchLinksIn_withBranch point distinct (inserted.found found) unbranched
  rw [inserted.linksIn_eq] at hlinks
  rw [inserted.branchLinksIn_eq] at hbranches
  have hplaced : placedIn (b'.withBranch name point).nodes = placedIn b.nodes ++ [point] := by
    rw [placedIn_withBranch, inserted.placedIn_eq]
  have hnoops : noopsIn (b'.withBranch name point).nodes = noopsIn b.nodes ++ [point] := by
    rw [noopsIn_withBranch, inserted.noopsIn_eq]
  constructor
  · constructor
    · rwa [nodes_withBranch, Table.keys_update]
    · rw [actionsIn_withBranch, inserted.actionsIn_eq]
      exact woven.actions
    · have targets := hbranches.map (·.2.target)
      rw [List.map_append] at targets
      -- The new name is a node without an action and, at once, one that branching rules start from.
      refine .trans ?_ (targets.symm.append_left (b'.withBranch name point).start.toList)
      rw [hnoops, ← List.append_assoc]
      exact (inserted.start_eq ▸ woven.noops).append_right [point]
    · rw [hplaced, hnoops, ← List.append_assoc]
      exact woven.placed.append_right [point]
    · intro start hstart
      rw [withBranch, inserted.start_eq] at hstart
      rw [withBranch, inserted.root_eq]
      exact woven.started start hstart
    · exact (inserted.known woven.known).update (f := fun node =>
        { node with links := node.links ++ [.to point none], branchPoint := some point })
          (fun _ => rfl) fun _ => rfl
  · have above : name ∈ placedIn b.nodes := mem_placedIn.mpr ⟨node, Table.mem_of_get? found, linked⟩
    rw [withBranch, inserted.root_eq]
    exact woven.tree.below above hlinks (.of_eq hplaced)
  · refine hlinks.trans ((woven.links.append_right _).trans ?_)
    rw [List.append_assoc]
    exact hbranches.symm.append_left _

theorem Kept.place (kept : Kept b tasks ((name, action) :: pending)) :
    Kept (b.withPlace name) (tasks ++ [(name, action)]) pending ∧
      (placedIn (b.withPlace name).nodes).Perm (placedIn b.nodes ++ [name]) := by
  obtain ⟨node, found, -⟩ := kept.exists_node (List.mem_append_right _ List.mem_cons_self)
  have unplaced : node.linked = false := by
    by_contra h
    exact kept.not_mem_placedIn (mem_placedIn.mpr ⟨node, Table.mem_of_get? found, by simpa using h⟩)
  let place (node : Node) : Node := { node with linked := true }
  have hplaced : (placedIn (b.withPlace name).nodes).Perm (placedIn b.nodes ++ [name]) :=
    placedIn_update (f := place) kept.distinct found unplaced rfl
  refine ⟨?_, hplaced⟩
  constructor
  · rw [nodes_withPlace, Table.keys_update]
    exact kept.distinct
  · rw [actionsIn_withPlace, List.append_assoc]
    exact kept.actions
  · rw [branchLinksIn_withPlace, noopsIn_withPlace]
    exact kept.noops
  · refine hplaced.trans ((kept.placed.append_right [name]).trans ?_)
    rw [noopsIn_withPlace, List.map_append, List.append_assoc, List.append_assoc]
    exact List.perm_append_comm.append_left _
  · exact kept.started
  · exact kept.known.update (f := place) (fun _ => rfl) fun _ => rfl

theorem Woven.root (woven : Woven b tasks ((name, action) :: pending) links)
    (empty : b.root = none) :
    Woven ((b.withRoot name).withPlace name) (tasks ++ [(name, action)]) pending links := by
  obtain ⟨hlinks, hplaced⟩ := (empty ▸ woven.tree).eq_nil
  have kept : Kept (b.withRoot name) tasks ((name, action) :: pending) := by
    refine { woven.toKept with started := fun start hstart => ?_ }
    have top := woven.started start hstart
    rw [empty] at top
    cases top
  obtain ⟨kept, more⟩ := kept.place
  refine ⟨kept, ?_, ?_⟩
  · rw [nodes_withRoot, hplaced, List.nil_append] at more
    rw [linksIn_withPlace, nodes_withRoot, hlinks, List.perm_singleton.mp more]
    exact .singleton name
  · rw [linksIn_withPlace, branchLinksIn_withPlace]
    exact woven.links

theorem Kept.link (kept : Kept b tasks pending) (source : String) (link : Link) :
    Kept (b.withLink source link) tasks pending := by
  constructor
  · rw [nodes_withLink, Table.keys_update]
    exact kept.distinct
  · rw [actionsIn_withLink]
    exact kept.actions
  · rw [noopsIn_withLink, branchLinksIn_withLink]
    exact kept.noops
  · rw [placedIn_withLink, noopsIn_withLink]
    exact kept.placed
  · exact kept.started
  · exact kept.known.update (f := fun node => { node with links := node.links ++ [link] })
      (fun _ => rfl) fun _ => rfl

theorem Woven.below (woven : Woven b tasks ((name, action) :: pending) links) {source : String}
    {link : Link} (above : source ∈ placedIn b.nodes) (target : link.target = name) :
    Woven ((b.withLink source link).withPlace name) (tasks ++ [(name, action)]) pending
      (links ++ [(source, link)]) := by
  subst target
  obtain ⟨node, found, -⟩ := woven.exists_placed above
  have hlinks := linksIn_withLink link woven.distinct found
  obtain ⟨kept, more⟩ := (woven.toKept.link source link).place
  rw [placedIn_withLink] at more
  refine ⟨kept, ?_, ?_⟩
  · rw [linksIn_withPlace]
    exact woven.tree.below above hlinks more
  · rw [linksIn_withPlace, branchLinksIn_withPlace, branchLinksIn_withLink, List.append_assoc]
    refine hlinks.trans ((woven.links.append_right _).trans ?_)
    rw [List.append_assoc]
    exact List.perm_append_comm.append_left _

end LedgerFlow.Builder
