import LedgerFlow.Proofs.Graph.Operation
import Mathlib.Logic.Relation

/-!
The changes that linking makes to a builder, one after the other, and what a step of linking fails
for. None of the changes takes back what is there: a node stays under its name with its activity and
its action, and keeps its links in order.
-/
namespace LedgerFlow

structure Node.Grows (node node' : Node) : Prop where
  activity : node'.activity = node.activity
  action : node'.action = node.action
  links : node.links <+: node'.links
  linked : node.linked = true → node'.linked = true

theorem Node.Grows.refl (node : Node) : node.Grows node := ⟨rfl, rfl, List.prefix_refl _, id⟩

theorem Node.Grows.trans {node node' node'' : Node} (first : node.Grows node')
    (second : node'.Grows node'') : node.Grows node'' :=
  ⟨second.activity.trans first.activity, second.action.trans first.action,
    first.links.trans second.links,
    fun h => second.linked (first.linked h)⟩

namespace Builder

/-- The first number after the last one used with a prefix whose name is free. -/
structure NextNumber (b : Builder) (stem : String) (n : Nat) : Prop where
  later : b.lastNumber stem < n
  fresh : numberedName stem n ∉ b.nodes.keys
  taken : ∀ m, b.lastNumber stem < m → m < n → numberedName stem m ∈ b.nodes.keys

theorem lt_freeNumber (nodes : Table Node) (stem : String) (fuel n : Nat) :
    n < freeNumber nodes stem fuel n := by
  induction fuel generalizing n with
  | zero => exact Nat.lt_succ_self n
  | succ fuel ih =>
    rw [freeNumber]
    split
    · exact Nat.lt_of_succ_lt (ih (n + 1))
    · exact Nat.lt_succ_self n

theorem nextNumber_freeNumber (b : Builder) (stem : String) :
    NextNumber b stem (freeNumber b.nodes stem b.nodes.length (b.lastNumber stem)) where
  later := lt_freeNumber _ _ _ _
  fresh := freeNumber_fresh _ _ _
  taken _ := taken_before_freeNumber

theorem NextNumber.le {b : Builder} {stem : String} {n : Nat} (next : NextNumber b stem n) :
    n ≤ b.lastNumber stem + b.nodes.length + 1 :=
  le_of_taken stem next.taken

theorem NextNumber.unique {b b' : Builder} {stem : String} {m n : Nat} (next : NextNumber b stem m)
    (next' : NextNumber b' stem n) (last : b'.lastNumber stem = b.lastNumber stem)
    (same : ∀ k, numberedName stem k ∈ b'.nodes.keys ↔ numberedName stem k ∈ b.nodes.keys) :
    m = n := by
  rcases Nat.lt_trichotomy m n with less | rfl | less
  · exact absurd ((same m).mp (next'.taken m (last ▸ next.later) less)) next.fresh
  · rfl
  · exact absurd ((same n).mpr (next.taken n (last ▸ next'.later) less)) next'.fresh

/-- The next name for a node of an activity, unless its number is too long to be written. -/
theorem outcome_nextName {b : Builder} {activity : Activity} {n : Nat}
    (next : NextNumber b activity.sequencePrefix n) :
    outcome (nextName activity) b =
      if n < writableLimit then
        (.ok (numberedName activity.sequencePrefix n),
          b.numbered (b.sequence.insert activity.sequencePrefix n))
      else
        (.error .integerUnwritable, b.numbered (b.sequence.insert activity.sequencePrefix
          (max (b.lastNumber activity.sequencePrefix + 1) writableLimit))) := by
  obtain rfl := next.unique (nextNumber_freeNumber b _) rfl fun _ => Iff.rfl
  unfold nextName
  rw [outcome_bind]
  change outcome (if _ then _ else _) b = _
  split <;> rfl

variable {b b' b'' : Builder} {name : String} {action : Action}

inductive Issued (b : Builder) (action : Option Action) : String → Builder → Prop
  | intro {activity : Activity} {linked : Bool} {n : Nat}
      (known : b.activities.find ((action.map (·.activity)).getD noopRef) = .ok activity)
      (next : NextNumber b activity.sequencePrefix n) :
      Issued b action (numberedName activity.sequencePrefix n)
        ((b.numbered (b.sequence.insert activity.sequencePrefix n)).withNode
          (numberedName activity.sequencePrefix n) { activity, action, linked })

inductive Move (b : Builder) : Builder → Prop
  | issue {action : Option Action} {name : String} {b' : Builder}
      (unnamed : ∀ a ∈ action, a.name = none) (issued : Issued b action name b') : Move b b'
  | change {name : String} {f : Node → Node} (grows : ∀ node : Node, node.Grows (f node)) :
      Move b { b with nodes := b.nodes.update name f }
  | root {name : String} (empty : b.root = none) : Move b (b.withRoot name)
  | start {name : String} (unstarted : b.start = none) (empty : b.root = none) :
      Move b (b.withStart name)

abbrev Moves : Builder → Builder → Prop := Relation.ReflTransGen Move

/-- What is in a builder stays: nodes in their order, the root and the start node. -/
structure Grows (b b' : Builder) : Prop where
  transaction : b'.transaction = b.transaction
  activities : b'.activities = b.activities
  keys : b.nodes.keys <+: b'.nodes.keys
  nodes : ∀ name node, b.nodes.get? name = some node → ∃ node', b'.nodes.get? name = some node' ∧
    node.Grows node'
  root : ∀ root ∈ b.root, root ∈ b'.root
  start : ∀ start ∈ b.start, start ∈ b'.start

theorem Grows.refl (b : Builder) : Grows b b :=
  ⟨rfl, rfl, List.prefix_refl _, fun _ node found => ⟨node, found, .refl node⟩, fun _ => id,
    fun _ => id⟩

theorem Grows.trans (first : Grows b b') (second : Grows b' b'') : Grows b b'' where
  transaction := second.transaction.trans first.transaction
  activities := second.activities.trans first.activities
  keys := first.keys.trans second.keys
  nodes name node found := by
    obtain ⟨node', found', grows⟩ := first.nodes name node found
    obtain ⟨node'', found'', grows'⟩ := second.nodes name node' found'
    exact ⟨node'', found'', grows.trans grows'⟩
  root root h := second.root root (first.root root h)
  start start h := second.start start (first.start start h)

theorem grows_withNode (b : Builder) (name : String) (node : Node) :
    Grows b (b.withNode name node) := by
  refine ⟨rfl, rfl, ?_, fun other node' found => ⟨node', ?_, .refl node'⟩, fun _ => id, fun _ => id⟩
  · rw [nodes_withNode, Table.keys_append]
    exact List.prefix_append _ _
  · rw [nodes_withNode, Table.get?_append, found, Option.some_or]

theorem grows_numbered (b : Builder) (sequence : Table Nat) : Grows b (b.numbered sequence) :=
  ⟨rfl, rfl, List.prefix_refl _, fun _ node found => ⟨node, found, .refl node⟩, fun _ => id,
    fun _ => id⟩

theorem Issued.grows {action : Option Action} (issued : Issued b action name b') : Grows b b' := by
  cases issued
  exact (grows_numbered b _).trans (grows_withNode _ _ _)

theorem Move.grows (move : Move b b') : Grows b b' := by
  cases move with
  | issue _ issued => exact issued.grows
  | @change name f grows =>
    refine ⟨rfl, rfl, ?_, fun other node found => ?_, fun _ => id, fun _ => id⟩
    · simp only [Table.keys_update, List.prefix_refl]
    · rw [Table.get?_update, found, Option.map_some]
      refine ⟨_, rfl, ?_⟩
      split
      · exact grows node
      · exact .refl node
  | root empty => exact ⟨rfl, rfl, List.prefix_refl _, (Grows.refl b).nodes, by
      simp [empty], fun _ => id⟩
  | start unstarted empty =>
    exact ⟨rfl, rfl, List.prefix_refl _, (Grows.refl b).nodes, by simp [empty], by simp [unstarted]⟩

theorem grows_of_moves (moves : Moves b b') : Grows b b' := by
  induction moves with
  | refl => exact .refl b
  | tail _ move ih => exact ih.trans move.grows

/-- An activity that a step asks for is not there, or a number is too long to be written. -/
inductive Lacks (activities : Activities) (refs : List String) : Error → Prop
  | activity {ref : String} {e : Error} (used : ref ∈ refs)
      (missing : activities.find ref = .error e) :
      Lacks activities refs e
  | number : Lacks activities refs .integerUnwritable

theorem Lacks.mono {activities : Activities} {refs refs' : List String} {e : Error}
    (h : Lacks activities refs e) (sub : refs ⊆ refs') : Lacks activities refs' e := by
  cases h with
  | activity used missing => exact .activity (sub used) missing
  | number => exact .number

def Placed (b : Builder) (name : String) : Prop :=
  ∃ node, b.nodes.get? name = some node ∧ node.linked = true

/-- The name that an action is linked under: its own, or the next one with the prefix of its
activity. -/
def nameOf (b : Builder) (action : Action) : String :=
  match action.name, b.activities.find action.activity with
  | some name, _ => name
  | none, .ok activity =>
    numberedName activity.sequencePrefix
      (freeNumber b.nodes activity.sequencePrefix b.nodes.length
        (b.lastNumber activity.sequencePrefix))
  | none, .error _ => ""

theorem nameOf_of_named (own : action.name = some name) : b.nameOf action = name := by
  rw [nameOf, own]

theorem Issued.nameOf_eq (issued : Issued b (some action) name b') (unnamed : action.name = none) :
    b.nameOf action = name := by
  obtain ⟨known, next⟩ := issued
  obtain rfl := next.unique (nextNumber_freeNumber b _) rfl fun _ => Iff.rfl
  change b.activities.find action.activity = _ at known
  rw [nameOf, unnamed, known]

/-- Why a rule cannot hang where it should: what its condition depends on has no place, it
branches from nothing when something else has become the root, or it has no condition when there
is a root. -/
inductive Refused (t : Transaction) (b : Builder) (rule : Rule) : Error → Prop
  | undefined {condition : Condition} (conditioned : rule.condition = some condition)
      (named : condition.prerequisite ≠ "") (unplaced : ¬ b.Placed condition.prerequisite) :
      Refused t b rule (.undefinedPrerequisite condition.prerequisite t.name)
  | lateStart {condition : Condition} {root : String}
      (conditioned : rule.condition = some condition) (empty : condition.prerequisite = "")
      (top : b.root = some root) (other : b.start ≠ some root) :
      Refused t b rule (.lateStart t.name root)
  | secondEntry {first : Action} {rest : List Action} {root : String}
      (unconditioned : rule.condition = none) (acts : rule.actions = first :: rest)
      (top : b.root = some root) :
      Refused t b rule (.secondEntry t.name root (b.nameOf first))

theorem ends_findActivity (ref : String) :
    Ends (findActivity ref) b (fun activity b' => b' = b ∧ b.activities.find ref = .ok activity)
      (Lacks b.activities [ref]) := by
  simp only [findActivity, ends_bind, ends_get]
  split
  · rename_i found
    exact ends_pure.mpr ⟨rfl, found⟩
  · rename_i missing
    exact ends_throw.mpr (.activity List.mem_cons_self missing)

theorem ends_nextName (activity : Activity) (refs : List String) :
    Ends (nextName activity) b
      (fun name b' => ∃ n, NextNumber b activity.sequencePrefix n ∧
        name = numberedName activity.sequencePrefix n ∧
        b' = b.numbered (b.sequence.insert activity.sequencePrefix n))
      (Lacks b.activities refs) := by
  simp only [nextName, setNumber, ends_bind, ends_get]
  split
  · simp only [ends_bind, ends_modify, ends_pure]
    exact ⟨_, nextNumber_freeNumber b _, rfl, rfl⟩
  · simp only [ends_bind, ends_modify, ends_throw]
    exact .number

theorem ends_newNoop : Ends newNoop b (Issued b none) (Lacks b.activities [noopRef]) := by
  simp only [newNoop_eq, setNode, ends_bind, ends_modify, ends_pure]
  refine (ends_findActivity noopRef).mono ?_
  rintro activity _ ⟨rfl, known⟩
  refine (ends_nextName activity _).mono ?_
  rintro _ _ ⟨n, next, rfl, rfl⟩
  rw [nodes_numbered, Table.insert_of_not_mem next.fresh]
  exact .intro known next

theorem ends_nodeOf (action : Action) :
    Ends (nodeOf action) b
      (fun name b' => action.name = some name ∧ b' = b ∨ action.name = none ∧
        Issued b (some action) name b')
      (Lacks b.activities [action.activity]) := by
  unfold nodeOf
  cases own : action.name with
  | some name => exact ends_pure.mpr (.inl ⟨rfl, rfl⟩)
  | none =>
    simp only [setNode, ends_bind, ends_modify, ends_pure]
    refine (ends_findActivity action.activity).mono ?_
    rintro activity _ ⟨rfl, known⟩
    refine (ends_nextName activity _).mono ?_
    rintro _ _ ⟨n, next, rfl, rfl⟩
    rw [nodes_numbered, Table.insert_of_not_mem next.fresh]
    exact .inr ⟨trivial, .intro known next⟩

theorem entered_effect
    (entered : action.name = some name ∧ b' = b ∨ action.name = none ∧
      Issued b (some action) name b') :
    Moves b b' ∧ b'.root = b.root ∧ b.nameOf action = name := by
  rcases entered with ⟨own, rfl⟩ | ⟨unnamed, issued⟩
  · exact ⟨.refl, rfl, nameOf_of_named own⟩
  · have root : b'.root = b.root := by
      cases issued
      rfl
    exact ⟨.single (.issue (by simpa using unnamed) issued), root, issued.nameOf_eq unnamed⟩

theorem grows_link (link : Link) (node : Node) :
    node.Grows { node with links := node.links ++ [link] } :=
  ⟨rfl, rfl, List.prefix_append _ _, id⟩

theorem grows_place (node : Node) : node.Grows { node with linked := true } :=
  ⟨rfl, rfl, List.prefix_refl _, fun _ => rfl⟩

theorem grows_branch (point : String) (node : Node) :
    node.Grows { node with links := node.links ++ [.to point none], branchPoint := some point } :=
  ⟨rfl, rfl, List.prefix_append _ _, id⟩

theorem Issued.moves {name : String} (issued : Issued b none name b') : Moves b b' :=
  .single (.issue (by simp) issued)

theorem ends_startNode {rule : Rule} {condition : Condition}
    (conditioned : rule.condition = some condition) (empty : condition.prerequisite = "") :
    Ends startNode b (fun _ b' => Moves b b')
      fun e => Refused b.transaction b rule e ∨ Lacks b.activities [noopRef] e := by
  simp only [startNode, ends_bind, ends_get]
  cases unstarted : b.start with
  | some start => exact ends_pure.mpr .refl
  | none =>
    cases top : b.root with
    | some root => exact ends_throw.mpr (.inl
        (.lateStart conditioned empty top (by simp [unstarted])))
    | none =>
      simp only [ends_bind, ends_modify, ends_pure]
      refine ends_newNoop.imp (fun name b' issued => ?_) fun e => .inr
      have same : b'.start = none ∧ b'.root = none := by
        cases issued
        exact ⟨unstarted, top⟩
      exact issued.moves.tail (.start same.1 same.2)

theorem ends_resolveBranch {rule : Rule} {condition : Condition}
    (conditioned : rule.condition = some condition) :
    Ends (resolveBranch condition.prerequisite) b (fun _ b' => Moves b b')
      fun e => Refused b.transaction b rule e ∨ Lacks b.activities [noopRef] e := by
  unfold resolveBranch
  split
  · rename_i empty
    exact ends_startNode conditioned empty
  · rename_i named
    simp only [ends_bind, ends_get]
    split
    · rename_i absent
      refine ends_throw.mpr (.inl (.undefined conditioned named ?_))
      rintro ⟨node, found, -⟩
      rw [absent] at found
      cases found
    · rename_i node found
      split
      · rename_i unlinked
        refine ends_throw.mpr (.inl (.undefined conditioned named ?_))
        rintro ⟨other, found', linked⟩
        obtain rfl := Option.some.inj (found.symm.trans found')
        simp [linked] at unlinked
      · split
        · exact ends_pure.mpr .refl
        · split
          · exact ends_pure.mpr .refl
          · simp only [updateNode, ends_bind, ends_modify, ends_pure]
            refine ends_newNoop.imp (fun name b' issued => ?_) fun e => .inr
            exact issued.moves.tail (.change (grows_branch name))

def SecondEntry (b : Builder) (action : Action) (e : Error) : Prop :=
  ∃ root, b.root = some root ∧ e = .secondEntry b.transaction.name root (b.nameOf action)

theorem ends_linkAction (previous expr : Option String) (action : Action) :
    Ends (linkAction previous expr action) b (fun _ b' => Moves b b')
      fun e => previous = none ∧ SecondEntry b action e ∨
        Lacks b.activities [action.activity] e := by
  simp only [linkAction, ends_bind]
  refine (ends_nodeOf action).imp (fun name b₁ entered => ?_) fun e => .inr
  obtain ⟨moves, top, named⟩ := entered_effect entered
  have transaction := (grows_of_moves moves).transaction
  cases previous with
  | none =>
    simp only [updateNode, ends_bind, ends_get]
    split
    · rename_i root hroot
      exact ends_throw.mpr (.inl ⟨trivial, root, top ▸ hroot, by rw [transaction, named]⟩)
    · rename_i empty
      simp only [ends_modify, ends_bind, ends_pure]
      exact (moves.tail (.root empty)).tail (.change grows_place)
  | some source =>
    simp only [updateNode, ends_modify, ends_bind, ends_pure]
    exact (moves.tail (.change (grows_link _))).tail (.change grows_place)

theorem ends_linkActions (previous expr : Option String) (actions : List Action) :
    Ends (linkActions previous expr actions) b (fun _ b' => Moves b b')
      fun e => (previous = none ∧ ∃ first ∈ actions.head?, SecondEntry b first e) ∨
        Lacks b.activities (actions.map (·.activity)) e := by
  induction actions generalizing b previous expr with
  | nil => exact ends_pure.mpr .refl
  | cons action rest ih =>
    simp only [linkActions, ends_bind]
    refine (ends_linkAction previous expr action).imp (fun name b₁ moves => ?_) fun e => ?_
    · refine (ih (some name) none).imp (fun _ b₂ moves' => moves.trans moves') fun e => ?_
      rintro (⟨top, -⟩ | lacks)
      · cases top
      · rw [(grows_of_moves moves).activities] at lacks
        exact .inr (lacks.mono (List.subset_cons_self _ _))
    · rintro (⟨top, second⟩ | lacks)
      · exact .inl ⟨top, action, rfl, second⟩
      · exact .inr (lacks.mono (by simp))

def references (rule : Rule) : List String := noopRef :: rule.actions.map (·.activity)

theorem ends_linkRule (rule : Rule) :
    Ends (linkRule rule) b (fun _ b' => Moves b b')
      fun e => Refused b.transaction b rule e ∨ Lacks b.activities (references rule) e := by
  unfold linkRule
  split
  · rename_i unconditioned
    refine (ends_linkActions none none rule.actions).imp (fun _ _ => id) fun e => ?_
    rintro (⟨-, first, hfirst, root, top, rfl⟩ | lacks)
    · obtain ⟨rest, acts⟩ := List.head?_eq_some_iff.mp hfirst
      exact .inl (.secondEntry unconditioned acts top)
    · exact .inr (lacks.mono (List.subset_cons_self _ _))
  · rename_i condition conditioned
    simp only [ends_bind]
    refine (ends_resolveBranch conditioned).imp (fun source b₁ moves => ?_) fun e => ?_
    · refine (ends_linkActions (some source) _ rule.actions).imp
        (fun _ b₂ moves' => moves.trans moves') fun e => ?_
      rintro (⟨top, -⟩ | lacks)
      · cases top
      · rw [(grows_of_moves moves).activities] at lacks
        exact .inr (lacks.mono (List.subset_cons_self _ _))
    · rintro (refused | lacks)
      · exact .inl refused
      · exact .inr (lacks.mono (by simp [references]))

end Builder

end LedgerFlow
