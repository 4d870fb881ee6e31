import LedgerFlow.Proofs.Graph.Course
import LedgerFlow.Proofs.Graph.Links

/-!
The names of the nodes of a graph. Actions keep names of their own; every other node is named with
the prefix of its activity and a number that is larger than all that were read or given out with
this prefix before.
-/
namespace LedgerFlow
/-- A node without an action, or of an action without a name of its own. -/
def Node.Unnamed (node : Node) : Prop := ∀ action ∈ node.action, action.name = none

def Numbered (entry : String × Node) (n : Nat) : Prop :=
  entry.1 = Builder.numberedName entry.2.activity.sequencePrefix n

/-- Of two nodes with one prefix the first has the smaller number. -/
def Precedes (entry later : String × Node) : Prop :=
  entry.2.activity.sequencePrefix = later.2.activity.sequencePrefix →
    ∃ m n, m < n ∧ Numbered entry m ∧ Numbered later n

theorem Node.Grows.unnamed_iff {node node' : Node} (grows : node.Grows node') :
    node'.Unnamed ↔ node.Unnamed := by
  unfold Node.Unnamed
  rw [grows.action]

theorem Node.Grows.numbered {node node' : Node} (grows : node.Grows node') {name : String} {n : Nat}
    (numbered : Numbered (name, node) n) : Numbered (name, node') n := by
  unfold Numbered at numbered ⊢
  rwa [grows.activity]

theorem Precedes.grows {a a' b b' : Node} {name name' : String} (grows : a.Grows b)
    (grows' : a'.Grows b') (precedes : Precedes (name, a) (name', a')) :
    Precedes (name, b) (name', b') := by
  intro same
  dsimp only at same
  rw [grows.activity, grows'.activity] at same
  obtain ⟨m, n, less, numbered, numbered'⟩ := precedes same
  exact ⟨m, n, less, grows.numbered numbered, grows'.numbered numbered'⟩

namespace Builder

/-- Since the first of the two builders these nodes have been put in under numbered names, one after
the other, and no node has been taken out or replaced. -/
structure Issues (b₀ : Builder) (issued : Table Node) (b : Builder) : Prop where
  nodes : Table.Pairs Node.Grows (b₀.nodes ++ issued) b.nodes
  last : ∀ stem, b₀.lastNumber stem ≤ b.lastNumber stem
  unnamed : ∀ entry ∈ issued, entry.2.Unnamed
  numbered : ∀ entry ∈ issued, ∃ n, Numbered entry n ∧
    b₀.lastNumber entry.2.activity.sequencePrefix < n ∧
    n ≤ b.lastNumber entry.2.activity.sequencePrefix
  ordered : issued.Pairwise Precedes

variable {b₀ b b' : Builder} {issued : Table Node}

theorem Issues.refl (b : Builder) : Issues b [] b :=
  ⟨by rw [List.append_nil]; exact .refl Node.Grows.refl _, fun _ => Nat.le_refl _, by
    simp, by simp, .nil⟩

theorem lastNumber_le_insert {stem : String} {n : Nat} (later : b.lastNumber stem ≤ n)
    (other : String) :
    b.lastNumber other ≤ (b.numbered (b.sequence.insert stem n)).lastNumber other := by
  by_cases same : other = stem
  · subst same
    exact Nat.le_trans later (Nat.le_of_eq (lastNumber_insert_self b other n).symm)
  · exact Nat.le_of_eq (lastNumber_insert_of_ne b same n).symm

theorem Issues.issue (issues : Issues b₀ issued b) {action : Option Action} {name : String}
    (unnamed : ∀ a ∈ action, a.name = none) (h : Issued b action name b') :
    ∃ entry, Issues b₀ (issued ++ [entry]) b' := by
  obtain @⟨activity, linked, n, known, next⟩ := h
  let entry : String × Node :=
    (numberedName activity.sequencePrefix n, { activity, action, linked })
  have larger := lastNumber_le_insert (Nat.le_of_lt next.later)
  have last : n = (b.numbered (b.sequence.insert activity.sequencePrefix n)).lastNumber
      activity.sequencePrefix :=
    (lastNumber_insert_self b _ n).symm
  refine ⟨entry, ?_, fun stem => Nat.le_trans (issues.last stem) (larger stem), ?_, ?_, ?_⟩
  · rw [← List.append_assoc, nodes_withNode]
    exact List.rel_append issues.nodes (.cons ⟨rfl, .refl _⟩ .nil)
  · intro other h
    rcases List.mem_append.mp h with h | h
    · exact issues.unnamed other h
    · obtain rfl := List.mem_singleton.mp h
      exact unnamed
  · intro other h
    rcases List.mem_append.mp h with h | h
    · obtain ⟨m, numbered, low, high⟩ := issues.numbered other h
      exact ⟨m, numbered, low, Nat.le_trans high (larger _)⟩
    · obtain rfl := List.mem_singleton.mp h
      exact ⟨n, rfl, Nat.lt_of_le_of_lt (issues.last _) next.later, Nat.le_of_eq last⟩
  · refine List.pairwise_append.mpr
      ⟨issues.ordered, List.pairwise_singleton _ _, fun other h later hlater => ?_⟩
    obtain rfl := List.mem_singleton.mp hlater
    -- Whatever has been given out with this prefix is at most the last number, and the next one is
    -- larger.
    intro same
    obtain ⟨m, numbered, -, high⟩ := issues.numbered other h
    exact ⟨m, n, Nat.lt_of_le_of_lt (same ▸ high) next.later, numbered, rfl⟩

theorem Issues.move (issues : Issues b₀ issued b) (move : Move b b') :
    ∃ more, Issues b₀ (issued ++ more) b' := by
  cases move with
  | issue unnamed h =>
    obtain ⟨entry, issues'⟩ := issues.issue unnamed h
    exact ⟨[entry], issues'⟩
  | @change name f grows =>
    refine ⟨[], ?_⟩
    rw [List.append_nil]
    have changed := Table.pairs_update Node.Grows.refl grows b.nodes name
    exact { issues with nodes := Table.Pairs.trans (R := Node.Grows) .trans issues.nodes changed }
  | root | start =>
    refine ⟨[], ?_⟩
    rw [List.append_nil]
    exact { issues with }

theorem exists_issues (moves : Moves b₀ b) : ∃ issued, Issues b₀ issued b := by
  induction moves with
  | refl => exact ⟨[], .refl b₀⟩
  | tail _ move ih =>
    obtain ⟨issued, issues⟩ := ih
    obtain ⟨more, issues'⟩ := issues.move move
    exact ⟨issued ++ more, issues'⟩

end Builder

namespace Graph
open Builder

structure Named (g : Graph) (activities : Activities) (t : Transaction) : Prop where
  distinct : g.nodes.keys.Nodup
  /-- Each action has a node, under its own name if it has one. -/
  performs : ∃ names : List String,
    names.Nodup ∧ List.Forall₂ (g.Performs activities) (t.rules.flatMap (·.actions)) names
  known : Known activities g.nodes
  /-- Any other name has a number that is larger than all that actions with this prefix carry. -/
  numbered : ∀ entry ∈ g.nodes, entry.2.Unnamed → ∃ n, Numbered entry n ∧
    ∀ action ∈ t.rules.flatMap (·.actions),
      ∀ k ∈ explicitNumber? activities entry.2.activity.sequencePrefix action,
      k < n
  /-- Numbers get larger in the order in which nodes are put in. -/
  ordered : g.nodes.Pairwise fun entry later => entry.2.Unnamed → later.2.Unnamed →
    Precedes entry later

end Graph

namespace Builder
variable {activities : Activities} {t : Transaction} {b₀ b : Builder} {issued : Table Node}

theorem Recording.not_unnamed {actions : List Action} (recording : Recording activities actions b)
    {entry : String × Node} (h : entry ∈ b.nodes) : ¬ entry.2.Unnamed := by
  obtain ⟨⟨name, action⟩, mem, -, activity, -, awaits⟩ := Table.Pairs.exists_left recording.nodes h
  obtain ⟨action', -, own⟩ := List.mem_filterMap.mp mem
  obtain ⟨name', named, heq⟩ := Option.map_eq_some_iff.mp own
  obtain ⟨rfl, rfl⟩ := Prod.mk.inj heq
  intro unnamed
  rw [awaits] at unnamed
  have none := unnamed action' rfl
  rw [named] at none
  cases none

theorem Issues.of_unnamed {actions : List Action} (issues : Issues b₀ issued b)
    (recording : Recording activities actions b₀) {entry : String × Node} (h : entry ∈ b.nodes)
    (unnamed : entry.2.Unnamed) : ∃ node, (entry.1, node) ∈ issued ∧ node.Grows entry.2 := by
  obtain ⟨⟨name, node⟩, mem, same, grows⟩ := Table.Pairs.exists_left issues.nodes h
  rcases List.mem_append.mp mem with old | new
  · exact absurd (grows.unnamed_iff.mp unnamed) (recording.not_unnamed old)
  · exact ⟨node, same ▸ new, grows⟩

theorem Issues.ordered_nodes {actions : List Action} (issues : Issues b₀ issued b)
    (recording : Recording activities actions b₀) :
    b.nodes.Pairwise fun entry later => entry.2.Unnamed → later.2.Unnamed →
      Precedes entry later := by
  have before : (b₀.nodes ++ issued).Pairwise fun entry later =>
      entry.2.Unnamed → later.2.Unnamed → Precedes entry later := by
    refine List.pairwise_append.mpr ⟨?_, ?_, fun entry old _ _ unnamed => ?_⟩
    · exact List.pairwise_iff_forall_sublist.mpr fun sub unnamed =>
        absurd unnamed (recording.not_unnamed (sub.subset List.mem_cons_self))
    · exact issues.ordered.imp fun precedes _ _ => precedes
    · exact absurd unnamed (recording.not_unnamed old)
  refine issues.nodes.pairwise ?_ before
  intro a a' b b' name name' grows grows' precedes unnamed unnamed'
  exact (precedes (grows.unnamed_iff.mp unnamed) (grows'.unnamed_iff.mp unnamed')).grows
    grows grows'

end Builder

open Builder in
theorem Graph.exists_names {activities : Activities} {t : Transaction} {g : Graph}
    (built : Graph.ofTransaction activities t = .ok g) :
    Known activities g.nodes ∧ ∃ names : List String,
      names.Nodup ∧ List.Forall₂ (g.Performs activities) (t.rules.flatMap (·.actions)) names := by
  obtain ⟨b, named, finished, rfl, rfl⟩ := exists_finished built
  have distinct := finished.keys.nodup_iff.mp finished.woven.distinct
  refine ⟨finished.woven.known, (named.flatMap (·.2)).map (·.1), distinct.of_append_left, ?_⟩
  rw [← finished.actions_eq, List.forall₂_map_left_iff, List.forall₂_map_right_iff,
    List.forall₂_same]
  exact fun task h => finished.performs h

open Builder in
/-- Generated names are found at once or after as many names as are taken; in a graph they are new,
with numbers that only get larger; and what is entered under a name stays there. -/
theorem Graph.ofTransaction_named {activities : Activities} {t : Transaction} {g : Graph}
    (built : Graph.ofTransaction activities t = .ok g) :
    (∀ (b : Builder) (activity : Activity), ∃ n, NextNumber b activity.sequencePrefix n ∧
      n ≤ b.lastNumber activity.sequencePrefix + b.nodes.length + 1 ∧
      outcome (nextName activity) b =
        if n < writableLimit then
          (.ok (numberedName activity.sequencePrefix n),
            b.numbered (b.sequence.insert activity.sequencePrefix n))
        else
          (.error .integerUnwritable, b.numbered (b.sequence.insert activity.sequencePrefix
            (max (b.lastNumber activity.sequencePrefix + 1) writableLimit)))) ∧
    g.Named activities t ∧
    (∀ b b' action u, Runs (register action) b u b' → Grows b b') ∧
    (∀ b b' rule u, Runs (linkRule rule) b u b' → Grows b b') ∧
    ∀ before after b, t.rules = before ++ after → Stage activities t before b →
      b.nodes.keys <+: g.nodes.keys ∧ ∀ name node, b.nodes.get? name = some node →
        ∃ node', g.nodes.get? name = some node' ∧ node.Grows node' := by
  obtain ⟨known, performs⟩ := exists_names built
  have distinct := distinct_keys built
  obtain ⟨b, stage, rfl⟩ := ofTransaction_eq_ok_iff.mp built
  obtain ⟨b₀, record, link⟩ := id stage
  have recording := recording_of_runs record
  obtain ⟨issued, issues⟩ := exists_issues (moves_of_linkAll link)
  refine ⟨fun c activity => ?_, ?_, fun _ _ action _ run => ?_, fun _ _ rule _ run => ?_, ?_⟩
  · have next := nextNumber_freeNumber c activity.sequencePrefix
    exact ⟨_, next, next.le, outcome_nextName next⟩
  · refine ⟨distinct, performs, known, fun entry h unnamed => ?_, issues.ordered_nodes recording⟩
    obtain ⟨node, mem, grows⟩ := issues.of_unnamed recording h unnamed
    obtain ⟨n, numbered, later, -⟩ := issues.numbered _ mem
    refine ⟨n, grows.numbered numbered, fun action taken k carried => ?_⟩
    rw [grows.activity] at carried
    exact Nat.lt_of_le_of_lt (recording.read action taken _ k carried) later
  · exact ((ends_register action).of_runs run).grows
  · exact grows_of_moves ((ends_linkRule rule).of_runs run)
  · intro before after c split stage'
    rw [split] at stage
    obtain ⟨c', first, rest⟩ := stage.exists_before
    obtain rfl := first.unique stage'
    have grows := grows_of_moves (moves_of_linkAll rest)
    exact ⟨grows.keys, grows.nodes⟩

def Transaction.restock : Transaction where
  name := "Restock"
  rules :=
    [{ actions := [{ activity := "#get" }, { activity := "#put" }] },
     { condition := some { prerequisite := "get_8", expr := "$low" },
       actions := [{ activity := "#get", name := some "get_7" }, { activity := "#get" }] }]

theorem Graph.ofTransaction_named_restock :
    ∃ g, Graph.ofTransaction .builtin .restock = .ok g ∧
      g.nodes.keys = ["get_7", "get_8", "put_1", "noop_1", "get_9"] ∧
        g.Named .builtin .restock := by
  have keys : (Graph.ofTransaction .builtin .restock).toOption.map (fun g => g.nodes.keys) =
      some ["get_7", "get_8", "put_1", "noop_1", "get_9"] := by
    decide +kernel
  cases built : Graph.ofTransaction .builtin .restock with
  | error e =>
    rw [built] at keys
    cases keys
  | ok g =>
    rw [built] at keys
    exact ⟨g, rfl, Option.some.inj keys, (ofTransaction_named built).2.1⟩

end LedgerFlow
