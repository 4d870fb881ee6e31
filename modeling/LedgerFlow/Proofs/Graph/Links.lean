import LedgerFlow.Proofs.Graph.Linking
import Mathlib.Data.List.Flatten
import Mathlib.Data.List.Forall2

/-!
Which links the graph of a transaction has: those of its rules and those to the nodes that branching
rules start from, and no others.
-/
namespace LedgerFlow
namespace Graph

/-- The links of a graph are those of these rules, whose actions have these names. -/
structure LinkedBy (g : Graph) (activities : Activities) (rules : List Rule) (start : Option String)
    (named : List (Rule × List String)) : Prop where
  all : named.map (·.1) = rules
  performs : ∀ entry ∈ named, List.Forall₂ (g.Performs activities) entry.1.actions entry.2
  distinct : g.nodes.keys.Nodup
  /-- Beside the actions there are the start node and those that branching rules start from. -/
  keys : g.nodes.keys.Perm
    (named.flatMap (·.2) ++ (start.toList ++ (branchLinksIn g.nodes).map (·.2.target)))
  noops : g.branchNodes.Perm (start.toList ++ (branchLinksIn g.nodes).map (·.2.target))
  links : (linksIn g.nodes).Perm
    ((named.flatMap fun entry => ruleLinks (entryIn g.nodes start) entry.1 entry.2) ++
      branchLinksIn g.nodes)
  entries : ∀ prerequisite ∈ rules.flatMap Rule.prerequisites,
    (entryIn g.nodes start prerequisite).isSome
  branched : ∀ name node, g.nodes.get? name = some node →
    (node.branchPoint.isSome ↔
      node.activity.fansOut = false ∧ name ≠ "" ∧ name ∈ rules.flatMap Rule.prerequisites)
  started : start.isSome ↔ "" ∈ rules.flatMap Rule.prerequisites
  start_root : ∀ name ∈ start, g.root = some name
  /-- A rule without a condition is where everything starts. -/
  unguarded : ∀ entry ∈ named, entry.1.condition = none →
    ∀ first ∈ entry.2.head?, g.root = some first
  /-- There is no other way into a rule with a condition. -/
  guarded : ∀ entry ∈ named, entry.1.condition.isSome → ∀ first ∈ entry.2.head?,
    g.root ≠ some first ∧
      ∀ link ∈ linksIn g.nodes, link.2.target = first →
        link ∈ guardLinks (entryIn g.nodes start) entry.1 entry.2
  narrow : ∀ name node, g.nodes.get? name = some node → node.action.isSome →
    node.activity.fansOut = false → node.links.length ≤ 2

end Graph

namespace Builder
open LedgerFlow.Graph

variable {b : Builder} {rules : List Rule} {named : List (Rule × List (String × Action))}

theorem Finished.noop_of_entry (finished : Finished b rules named) {prerequisite name : String}
    (h : entryIn b.nodes b.start prerequisite = some name) :
    name ∈ noopsIn b.nodes ∨ ∃ node, b.nodes.get? name = some node ∧
      node.activity.fansOut = true := by
  rw [finished.woven.noops.mem_iff, List.mem_append]
  by_cases hempty : prerequisite = ""
  · subst hempty
    exact .inl (.inl (Option.mem_toList.mpr h))
  · cases found : b.nodes.get? prerequisite with
    | none => simp [entryIn, hempty, found] at h
    | some node =>
      rw [entryIn_found hempty found] at h
      split at h
      · rename_i wide
        obtain rfl := Option.some.inj h
        exact .inr ⟨node, found, wide⟩
      · refine .inl (.inr ?_)
        exact List.mem_map.mpr ⟨(prerequisite, { target := name }),
          mem_branchLinksIn.mpr ⟨node, name, Table.mem_of_get? found, h, rfl⟩, rfl⟩

theorem mem_guardLinks {entry : String → Option String} {rule : Rule} {names : List String}
    {link : String × Link} (h : link ∈ guardLinks entry rule names) :
    ∃ condition, rule.condition = some condition ∧ entry condition.prerequisite = some link.1 ∧
      names.head? = some link.2.target := by
  unfold guardLinks at h
  split at h
  · rename_i condition first _ conditioned
    obtain ⟨source, hsource, rfl⟩ := List.mem_map.mp h
    exact ⟨condition, conditioned, Option.mem_toList.mp hsource, rfl⟩
  · cases h

theorem Finished.nodup_names (finished : Finished b rules named) :
    (named.flatMap fun entry => entry.2.map (·.1)).Nodup :=
  List.map_flatMap ▸ (List.nodup_append'.mp (finished.keys.nodup_iff.mp finished.woven.distinct)).1

/-- An action of a kind that does not fan out leads to the next action of its rule and to one node
that branching rules start from. -/
theorem Finished.narrow (finished : Finished b rules named) {name : String} {node : Node}
    (found : b.nodes.get? name = some node) (action : node.action.isSome)
    (narrow : node.activity.fansOut = false) : node.links.length ≤ 2 := by
  let entry := entryIn b.nodes b.start
  let guards := named.flatMap fun (rule, tasks) => guardLinks entry rule (tasks.map (·.1))
  let chains := named.flatMap fun (_, tasks) => chainLinks (tasks.map (·.1))
  have split : (linksIn b.nodes).Perm (guards ++ chains ++ branchLinksIn b.nodes) :=
    finished.woven.links.trans ((List.flatMap_append_perm named _ _).symm.append_right _)
  have sources := (split.map (·.1)).count_eq name
  rw [count_sources finished.woven.distinct found, List.map_append, List.map_append,
    List.count_append, List.count_append] at sources
  -- A guard leaves a node of a kind that fans out or one that was put in, and this is neither.
  have noGuard : (guards.map (·.1)).count name = 0 := by
    refine List.count_eq_zero.mpr fun hmem => ?_
    obtain ⟨link, hlink, rfl⟩ := List.mem_map.mp hmem
    obtain ⟨_, -, hguard⟩ := List.mem_flatMap.mp hlink
    obtain ⟨condition, -, hentry, -⟩ := mem_guardLinks hguard
    rcases finished.noop_of_entry hentry with hnoop | ⟨wide, found', fansOut⟩
    · obtain ⟨noop, hnoop, none⟩ := mem_noopsIn.mp hnoop
      obtain rfl := Option.some.inj
        ((Table.get?_of_mem finished.woven.distinct hnoop).symm.trans found)
      simp [none] at action
    · obtain rfl := Option.some.inj (found'.symm.trans found)
      simp [fansOut] at narrow
  have oneChain : (chains.map (·.1)).count name ≤ 1 := by
    refine List.nodup_iff_count_le_one.mp (finished.nodup_names.sublist ?_) name
    rw [List.map_flatMap]
    exact List.Sublist.flatMap_right named fun _ _ => chainLinks_sources_sublist _
  have oneBranch : ((branchLinksIn b.nodes).map (·.1)).count name ≤ 1 :=
    List.nodup_iff_count_le_one.mp
      (finished.woven.distinct.sublist (branchLinksIn_sources_sublist _)) name
  omega

theorem Finished.exists_guard (finished : Finished b rules named)
    {entry : Rule × List (String × Action)} (hentry : entry ∈ named) {condition : Condition}
    (conditioned : entry.1.condition = some condition) {first : String}
    (hfirst : first ∈ (entry.2.map (·.1)).head?) :
    ∃ source, guardLinks (entryIn b.nodes b.start) entry.1 (entry.2.map (·.1)) =
        [(source, { target := first, expr := some (guardText entry.1 condition) })] ∧
      (source, { target := first, expr := some (guardText entry.1 condition) }) ∈
        linksIn b.nodes := by
  have used : condition.prerequisite ∈ rules.flatMap Rule.prerequisites := by
    refine List.mem_flatMap.mpr ⟨entry.1, finished.all ▸ List.mem_map_of_mem hentry, ?_⟩
    simp [Rule.prerequisites, conditioned]
  obtain ⟨source, hsource⟩ := Option.isSome_iff_exists.mp (finished.branched.entries _ used)
  obtain ⟨rest, hnames⟩ : ∃ rest, entry.2.map (·.1) = first :: rest :=
    List.head?_eq_some_iff.mp hfirst
  have guard : guardLinks (entryIn b.nodes b.start) entry.1 (entry.2.map (·.1)) =
      [(source, { target := first, expr := some (guardText entry.1 condition) })] := by
    unfold guardLinks
    rw [conditioned, hnames]
    simp [hsource]
  refine ⟨source, guard, finished.woven.links.mem_iff.mpr (List.mem_append_left _ ?_)⟩
  refine List.mem_flatMap.mpr ⟨entry, hentry, List.mem_append_left _ ?_⟩
  rw [guard]
  exact List.mem_cons_self

theorem Finished.guarded (finished : Finished b rules named) {entry : Rule × List (String × Action)}
    (hentry : entry ∈ named) (conditioned : entry.1.condition.isSome) {first : String}
    (hfirst : first ∈ (entry.2.map (·.1)).head?) :
    b.root ≠ some first ∧ ∀ link ∈ linksIn b.nodes, link.2.target = first →
      link ∈ guardLinks (entryIn b.nodes b.start) entry.1 (entry.2.map (·.1)) := by
  obtain ⟨condition, hcondition⟩ := Option.isSome_iff_exists.mp conditioned
  obtain ⟨source, guard, hmem⟩ := finished.exists_guard hentry hcondition hfirst
  have once := finished.woven.tree.arrivals.nodup_iff.mpr
    (finished.woven.distinct.sublist (placedIn_sublist b.nodes))
  obtain ⟨targets, -, apart⟩ := List.nodup_append'.mp once
  refine ⟨fun top => ?_, fun link hlink target => ?_⟩
  · exact apart (List.mem_map_of_mem hmem) (by simp [top])
  · rw [List.inj_on_of_nodup_map targets hlink hmem target, guard]
    exact List.mem_cons_self

theorem Finished.branchPoint_iff (finished : Finished b rules named) {name : String} {node : Node}
    (found : b.nodes.get? name = some node) :
    node.branchPoint.isSome ↔
      node.activity.fansOut = false ∧ name ≠ "" ∧ name ∈ rules.flatMap Rule.prerequisites := by
  constructor
  · intro branched
    exact finished.branched.points (name, node.activity)
      (mem_branchedIn.mpr ⟨node, Table.mem_of_get? found, branched, rfl⟩)
  · rintro ⟨narrow, named, used⟩
    have entry := finished.branched.entries name used
    rwa [entryIn_found named found, if_neg (by simp [narrow])] at entry

end Builder

/-- The graph of a transaction has exactly the links of its rules and those to the nodes that
branching rules start from. -/
theorem Graph.ofTransaction_linkedBy {activities : Activities} {transaction : Transaction}
    {g : Graph} (h : Graph.ofTransaction activities transaction = .ok g) :
    ∃ start named, g.LinkedBy activities transaction.rules start named := by
  obtain ⟨b, named, finished, rfl, rfl⟩ := exists_finished h
  have woven := finished.woven
  refine ⟨b.start, named.map fun (rule, tasks) => (rule, tasks.map (·.1)), ?_⟩
  constructor
  case all => exact (List.map_map ..).trans finished.all
  case performs =>
    intro entry hentry
    obtain ⟨⟨rule, tasks⟩, htask, rfl⟩ := List.mem_map.mp hentry
    change List.Forall₂ _ rule.actions (tasks.map (·.1))
    rw [← (finished.naming _ htask).actions, List.forall₂_map_left_iff, List.forall₂_map_right_iff,
      List.forall₂_same]
    exact fun task h => finished.performs (List.mem_flatMap.mpr ⟨_, htask, h⟩)
  case distinct => exact woven.distinct
  case keys =>
    rw [List.flatMap_map, ← List.map_flatMap]
    exact finished.keys.trans (woven.noops.append_left _)
  case noops =>
    rw [branchNodes_eq]
    exact woven.noops
  case links =>
    rw [List.flatMap_map]
    exact woven.links
  case entries => exact finished.branched.entries
  case branched => exact fun _ _ found => finished.branchPoint_iff found
  case started => exact ⟨finished.branched.starts, fun used => finished.branched.entries "" used⟩
  case start_root => exact woven.started
  case unguarded =>
    intro entry hentry unconditioned first hfirst
    obtain ⟨⟨rule, tasks⟩, htask, rfl⟩ := List.mem_map.mp hentry
    cases tasks with
    | nil => cases hfirst
    | cons task tasks =>
      obtain rfl := Option.some.inj hfirst
      exact finished.top _ htask unconditioned task rfl
  case guarded =>
    intro entry hentry conditioned first hfirst
    obtain ⟨task, htask, rfl⟩ := List.mem_map.mp hentry
    exact finished.guarded htask conditioned hfirst
  case narrow => exact fun _ _ found => finished.narrow found

def Transaction.transfer : Transaction where
  name := "Transfer"
  rules :=
    [{ condition := some { expr := "$amount > 0" },
       actions := [{ activity := "#get", name := some "read" }, { activity := "#put" }] },
     { condition := some { prerequisite := "read", description := "overdrawn" },
       actions := [{ activity := "#log" }] },
     { condition := some { prerequisite := "read", expr := "$closed" } }]

theorem Graph.ofTransaction_linkedBy_transfer :
    ∃ g start named, Graph.ofTransaction .builtin .transfer = .ok g ∧
      linksIn g.nodes =
        [("read", { target := "put_1" }), ("read", { target := "noop_2" }),
         ("noop_1", { target := "read", expr := some "$amount > 0" }),
         ("noop_2", { target := "log_1", expr := some (placeholder "overdrawn") })] ∧
      g.LinkedBy .builtin Transaction.transfer.rules start named := by
  have links : (Graph.ofTransaction .builtin .transfer).toOption.map (fun g => linksIn g.nodes) =
      some [("read", { target := "put_1" }), ("read", { target := "noop_2" }),
        ("noop_1", { target := "read", expr := some "$amount > 0" }),
        ("noop_2", { target := "log_1", expr := some (placeholder "overdrawn") })] := by
    decide +kernel
  cases built : Graph.ofTransaction .builtin .transfer with
  | error e =>
    rw [built] at links
    cases links
  | ok g =>
    rw [built] at links
    obtain ⟨start, named, linked⟩ := ofTransaction_linkedBy built
    exact ⟨g, start, named, rfl, Option.some.inj links, linked⟩

end LedgerFlow
