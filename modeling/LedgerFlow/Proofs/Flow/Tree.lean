import LedgerFlow.Flow
import LedgerFlow.Proofs.Graph.Links
import LedgerFlow.Proofs.Graph.Walk
import LedgerFlow.Proofs.Result

/-!
The flow of a transaction is a tree that leaves nothing out: one task for every action and for every
node put in between, and one link to every task but the first, from a task before it.
-/
namespace LedgerFlow
open LedgerFlow.Graph

def Activities.Keyed (activities : Activities) : Prop :=
  ∀ ref activity, activities.get? ref = some activity → activity.ref = ref

theorem Activities.Keyed.register {activities : Activities} (keyed : activities.Keyed)
    (activity : Activity) : (activities.register activity).Keyed := by
  intro ref other found
  by_cases h : ref = activity.ref
  · subst h
    rw [Activities.register, Table.get?_insert_self] at found
    obtain rfl := Option.some.inj found
    rfl
  · rw [Activities.register, Table.get?_insert_of_ne h] at found
    exact keyed ref other found

theorem Activities.keyed_ofList (definitions : List Activity) :
    (Activities.ofList definitions).Keyed := by
  have keep (activities : Activities) (keyed : activities.Keyed) :
      (definitions.foldl Activities.register activities).Keyed := by
    induction definitions generalizing activities with
    | nil => exact keyed
    | cons activity definitions ih => exact ih _ (keyed.register activity)
  exact keep [] fun _ _ found => by cases found

theorem Activities.Keyed.ref_eq {activities : Activities} (keyed : activities.Keyed) {ref : String}
    {activity : Activity} (found : activities.find ref = .ok activity) : activity.ref = ref := by
  unfold Activities.find at found
  split at found
  · rename_i h
    obtain rfl := Except.ok.inj found
    exact keyed ref _ h
  · cases found

theorem linksOfEdges_ids (edges : List (String × Link)) :
    (linksOfEdges edges).map (·.id) = List.range edges.length := by
  rw [linksOfEdges, List.map_map, List.range_eq_range']
  exact List.zipIdx_map_snd 0 edges

theorem linksOfEdges_ends (edges : List (String × Link)) :
    (linksOfEdges edges).map (fun link => (link.source, link.target)) =
      edges.map fun edge => (edge.1, edge.2.target) := by
  conv_rhs => rw [← List.zipIdx_map_fst 0 edges, List.map_map]
  rw [linksOfEdges, List.map_map]
  rfl

theorem Task.of_ofNode {context : Context} {name : String} {node : Node} {task : Task}
    (h : (Task.ofNode context name node).result = .ok task) :
    task.id = name ∧ task.ref = node.activity.ref := by
  unfold Task.ofNode at h
  split at h
  · obtain rfl := Except.ok.inj h
    exact ⟨rfl, rfl⟩
  · split at h
    · obtain rfl := Except.ok.inj h
      exact ⟨rfl, rfl⟩
    · split at h
      · obtain ⟨schemas, -, h⟩ := Traced.bind_result_ok_iff.mp h
        obtain rfl := Except.ok.inj h
        exact ⟨rfl, rfl⟩
      · obtain rfl := Except.ok.inj h
        exact ⟨rfl, rfl⟩

theorem of_tasksOf {context : Context} {g : Graph} {names : List String} {tasks : List Task}
    (h : (tasksOf context g names).result = .ok tasks) (known : names ⊆ g.nodes.keys) :
    tasks.map (·.id) = names ∧
      ∀ task ∈ tasks, ∃ node, g.nodes.get? task.id = some node ∧ task.ref = node.activity.ref := by
  induction names generalizing tasks with
  | nil =>
    obtain rfl := Except.ok.inj h
    exact ⟨rfl, by simp⟩
  | cons name names ih =>
    obtain ⟨here, later⟩ := List.cons_subset.mp known
    obtain ⟨node, found⟩ := Table.exists_get?_of_mem_keys here
    rw [tasksOf, found] at h
    obtain ⟨task, htask, h⟩ := Traced.bind_result_ok_iff.mp h
    obtain ⟨rest, hrest, h⟩ := Traced.bind_result_ok_iff.mp h
    obtain rfl := Except.ok.inj h
    obtain ⟨rfl, ref⟩ := Task.of_ofNode htask
    obtain ⟨hids, hnodes⟩ := ih hrest later
    exact ⟨by rw [List.map_cons, hids], List.forall_mem_cons.mpr ⟨⟨node, found, ref⟩, hnodes⟩⟩

theorem Flow.of_ofGraph {context : Context} {transaction : Transaction} {contract : Contract}
    {g : Graph} {schemas : Option HandlerSchemas} {flow : Flow} {exports : List Schema.Export}
    (h : (Flow.ofGraph context transaction contract g schemas).result = .ok (flow, exports)) :
    (tasksOf context g g.walk.1).result = .ok flow.tasks ∧ flow.links = linksOfEdges g.walk.2 := by
  unfold Flow.ofGraph at h
  obtain ⟨tasks, htasks, h⟩ := Traced.bind_result_ok_iff.mp h
  obtain ⟨rfl, -⟩ := Prod.mk.inj (Except.ok.inj h)
  exact ⟨htasks, rfl⟩

/-- The links of a flow make a tree of its tasks. -/
structure Flow.IsTree (flow : Flow) : Prop where
  distinct : (flow.tasks.map (·.id)).Nodup
  ends : ∀ link ∈ flow.links, link.source ∈ flow.tasks.map (·.id) ∧
    link.target ∈ flow.tasks.map (·.id)
  numbered : flow.links.map (·.id) = List.range flow.links.length
  first : ∀ task ∈ flow.tasks.head?, ∀ link ∈ flow.links, link.target ≠ task.id
  others : ∀ before task after, flow.tasks = before ++ task :: after → before ≠ [] →
    ∃ link, flow.links.filter (·.target = task.id) = [link] ∧ link.source ∈ before.map (·.id)
  count : flow.links.length = flow.tasks.length - 1

/-- A flow has a task for every node of a graph, and so one for every action of the transaction. -/
structure Flow.Covers (flow : Flow) (g : Graph) (activities : Activities)
    (transaction : Transaction) : Prop where
  nodes : (flow.tasks.map (·.id)).Perm g.nodes.keys
  actions : ∃ names, (flow.tasks.map (·.id)).Perm (names ++ g.branchNodes) ∧
    List.Forall₂ (fun action name => g.Performs activities action name ∧
      ∀ task ∈ flow.tasks, task.id = name → task.ref = action.activity)
      (transaction.rules.flatMap (·.actions)) names
  noops : ∀ task ∈ flow.tasks, task.id ∈ g.branchNodes → task.ref = noopRef
  empty : (∀ rule ∈ transaction.rules, rule.condition = none ∧ rule.actions = []) →
    flow.tasks = [] ∧ flow.links = []

theorem Flow.isTree_of_grown {flow : Flow} {root : String} {names : List String}
    {edges : List (String × Link)} (ids : flow.tasks.map (·.id) = names)
    (links : flow.links = linksOfEdges edges)
    (grown : Walk.Grown root names edges) : flow.IsTree := by
  have ends := linksOfEdges_ends edges
  rw [← links] at ends
  have ofLink (link : FlowLink) (h : link ∈ flow.links) :
      ∃ edge ∈ edges, edge.1 = link.source ∧ edge.2.target = link.target := by
    have hmem : (link.source, link.target) ∈ flow.links.map fun link =>
        (link.source, link.target) :=
      List.mem_map_of_mem h
    rw [ends] at hmem
    obtain ⟨edge, hedge, heq⟩ := List.mem_map.mp hmem
    obtain ⟨hsource, htarget⟩ := Prod.mk.inj heq
    exact ⟨edge, hedge, hsource, htarget⟩
  constructor
  case distinct => exact ids ▸ grown.nodup
  case ends =>
    intro link hlink
    obtain ⟨edge, hedge, hsource, htarget⟩ := ofLink link hlink
    rw [ids, ← hsource, ← htarget]
    exact ⟨grown.source_mem edge hedge, grown.target_mem edge hedge⟩
  case numbered =>
    rw [links, linksOfEdges_ids]
    simp [linksOfEdges]
  case first =>
    intro task htask link hlink
    obtain ⟨edge, hedge, -, htarget⟩ := ofLink link hlink
    have hroot : task.id = root := by
      have heads := congrArg List.head? ids
      rw [List.head?_map, htask, grown.tasks_eq] at heads
      exact Option.some.inj heads
    rw [hroot, ← htarget]
    exact grown.target_ne_root edge hedge
  case others =>
    intro before task after split later
    have names_split : names = before.map (·.id) ++ task.id :: after.map (·.id) := by
      rw [← ids, split]; simp
    obtain ⟨edge, hedge, hbefore⟩ := grown.exists_filter_eq names_split (by simpa using later)
    -- The links to a task are numbered copies of the followed links to its name.
    have filtered := congrArg (List.filter (·.2 = task.id)) ends
    rw [List.filter_map, List.filter_map] at filtered
    simp only [Function.comp_def] at filtered
    rw [hedge, List.map_singleton] at filtered
    obtain ⟨link, hlink, heq⟩ := List.map_eq_singleton_iff.mp filtered
    exact ⟨link, hlink, (Prod.mk.inj heq).1 ▸ hbefore⟩
  case count =>
    have length := congrArg List.length grown.tasks_eq
    rw [← ids] at length
    simp only [List.length_map, List.length_cons] at length
    rw [links, linksOfEdges]
    simp [length]

theorem Flow.isTree_of_empty {flow : Flow} (tasks : flow.tasks = [])
    (links : flow.links = []) : flow.IsTree := by
  constructor <;> simp [tasks, links]

namespace Builder
variable {b : Builder} {rules : List Rule} {named : List (Rule × List (String × Action))}

theorem Finished.keys_eq_nil (finished : Finished b rules named)
    (empty : ∀ rule ∈ rules, rule.condition = none ∧ rule.actions = []) : b.nodes.keys = [] := by
  have unused : rules.flatMap Rule.prerequisites = [] :=
    List.flatMap_eq_nil_iff.mpr fun rule hrule => by simp [Rule.prerequisites, (empty rule hrule).1]
  have idle : named.flatMap (·.2) = [] := by
    have actions := finished.actions_eq
    rw [List.flatMap_eq_nil_iff.mpr fun rule hrule => (empty rule hrule).2] at actions
    exact List.map_eq_nil_iff.mp actions
  have unstarted : b.start = none := by
    by_contra h
    have used := finished.branched.starts (Option.isSome_iff_ne_none.mpr h)
    rw [unused] at used
    cases used
  have unbranched : branchLinksIn b.nodes = [] := by
    refine List.eq_nil_iff_forall_not_mem.mpr fun entry hentry => ?_
    obtain ⟨node, point, hnode, hpoint, -⟩ := mem_branchLinksIn.mp hentry
    have used := finished.branched.points (entry.1, node.activity)
      (mem_branchedIn.mpr ⟨node, hnode, by simp [hpoint], rfl⟩)
    rw [unused] at used
    cases used.2.2
  have noops := finished.woven.noops
  rw [unstarted, unbranched] at noops
  have keys := finished.keys
  rw [idle, noops.eq_nil] at keys
  exact keys.eq_nil

end Builder

theorem Flow.covers_of_ids {flow : Flow} {b : Builder} {transaction : Transaction} {g : Graph}
    {named : List (Rule × List (String × Action))} (finished : b.Finished transaction.rules named)
    (nodes : g.nodes = b.nodes) (keyed : b.activities.Keyed)
    (ids : (flow.tasks.map (·.id)).Perm g.nodes.keys)
    (refs : ∀ task ∈ flow.tasks, ∃ node, g.nodes.get? task.id = some node ∧
      task.ref = node.activity.ref)
    (links : flow.tasks = [] → flow.links = []) : flow.Covers g b.activities transaction := by
  constructor
  case nodes => exact ids
  case actions =>
    refine ⟨(named.flatMap (·.2)).map (·.1), ?_, ?_⟩
    · rw [branchNodes_eq, nodes]
      exact (nodes ▸ ids).trans finished.keys
    · rw [← finished.actions_eq, List.forall₂_map_left_iff, List.forall₂_map_right_iff,
        List.forall₂_same]
      intro entry hentry
      obtain ⟨node, found, haction, known, own⟩ := finished.performs hentry
      rw [← nodes] at found
      refine ⟨⟨node, found, haction, known, own⟩, fun task htask hid => ?_⟩
      obtain ⟨node', found', ref⟩ := refs task htask
      rw [hid, found] at found'
      obtain rfl := Option.some.inj found'
      rw [ref, keyed.ref_eq known]
  case noops =>
    intro task htask hnoop
    rw [branchNodes_eq] at hnoop
    obtain ⟨node, hnode, none⟩ := mem_noopsIn.mp hnoop
    obtain ⟨node', found, ref⟩ := refs task htask
    rw [nodes] at hnode found
    have found' := Table.get?_of_mem finished.woven.distinct hnode
    obtain rfl := Option.some.inj (found'.symm.trans found)
    have known := finished.woven.known _ _ found
    rw [Node.activityRef, none] at known
    rw [ref, keyed.ref_eq known]
    rfl
  case empty =>
    intro h
    have keys := finished.keys_eq_nil h
    rw [nodes, keys] at ids
    have none : flow.tasks = [] := List.map_eq_nil_iff.mp ids.eq_nil
    exact ⟨none, links none⟩

/-- Whenever a transaction is built and its flow comes out, the flow is a tree that has a task for
everything in the graph and in the transaction. -/
theorem Flow.ofGraph_isTree_covers {definitions : List Activity} {transaction : Transaction}
    {g : Graph} {context : Context} {contract : Contract} {schemas : Option HandlerSchemas}
    {flow : Flow} {exports : List Schema.Export}
    (built : Graph.ofTransaction (.ofList definitions) transaction = .ok g)
    (emitted : (Flow.ofGraph context transaction contract g schemas).result = .ok (flow, exports)) :
    flow.IsTree ∧ flow.Covers g (.ofList definitions) transaction := by
  obtain ⟨b, named, finished, hactivities, hg⟩ := Graph.exists_finished built
  obtain ⟨htasks, hlinks⟩ := Flow.of_ofGraph emitted
  have keyed := Activities.keyed_ofList definitions
  rw [← hactivities] at keyed ⊢
  have nodes : g.nodes = b.nodes := by rw [hg]
  have distinct : g.nodes.keys.Nodup := nodes ▸ finished.woven.distinct
  have tree : Tree g.root (linksIn g.nodes) g.nodes.keys := by
    rw [hg]
    exact finished.tree
  cases top : g.root with
  | none =>
    rw [Graph.walk_of_no_root top] at htasks hlinks
    obtain ⟨ids, refs⟩ := of_tasksOf htasks (List.nil_subset _)
    have none : flow.tasks = [] := List.map_eq_nil_iff.mp ids
    refine ⟨Flow.isTree_of_empty none hlinks,
      Flow.covers_of_ids finished nodes keyed ?_ refs fun _ => hlinks⟩
    rw [top] at tree
    rw [ids, tree.eq_nil.2]
  | some root =>
    obtain ⟨grown, all⟩ := Graph.walk_of_tree top distinct tree
    obtain ⟨ids, refs⟩ := of_tasksOf htasks fun name h => all.mem_iff.mp h
    have isTree := Flow.isTree_of_grown ids hlinks grown
    refine ⟨isTree, Flow.covers_of_ids finished nodes keyed (ids ▸ all) refs fun none => ?_⟩
    have count := isTree.count
    rw [none] at count
    exact List.eq_nil_of_length_eq_zero count

theorem Flow.ofGraph_isTree_covers_transfer :
    ∃ g flow exports, Graph.ofTransaction .builtin .transfer = .ok g ∧
      (Flow.ofGraph {} .transfer {} g none).result = .ok (flow, exports) ∧
      flow.tasks.map (·.id) = ["noop_1", "read", "put_1", "noop_2", "log_1"] ∧
      flow.IsTree ∧ flow.Covers g .builtin .transfer := by
  have ids : ((Graph.ofTransaction .builtin .transfer).toOption.bind fun g =>
      (Flow.ofGraph {} .transfer {} g none).result.toOption.map fun (flow, _) =>
        flow.tasks.map (·.id)) = some ["noop_1", "read", "put_1", "noop_2", "log_1"] := by
    decide +kernel
  cases built : Graph.ofTransaction .builtin .transfer with
  | error e =>
    rw [built] at ids
    cases ids
  | ok g =>
    rw [built] at ids
    cases emitted : (Flow.ofGraph {} .transfer {} g none).result with
    | error e => simp [Except.toOption, emitted] at ids
    | ok result =>
      obtain ⟨flow, exports⟩ := result
      obtain ⟨tree, covers⟩ := Flow.ofGraph_isTree_covers built emitted
      refine ⟨g, flow, exports, rfl, emitted, ?_, tree, covers⟩
      simpa [Except.toOption, emitted] using ids

end LedgerFlow
