import LedgerFlow.Proofs.Graph.Naming

/-!
What the operations of a builder do where they succeed. Each has its cases written out once, so that
nothing after this has to look into the operations again.
-/
namespace LedgerFlow.Builder

def numbered (b : Builder) (sequence : Table Nat) : Builder := { b with sequence }

def withNode (b : Builder) (name : String) (node : Node) : Builder :=
  { b with nodes := b.nodes ++ [(name, node)] }

def withRoot (b : Builder) (name : String) : Builder := { b with root := some name }

def withStart (b : Builder) (name : String) : Builder :=
  { b with start := some name, root := some name }

def withLink (b : Builder) (source : String) (link : Link) : Builder :=
  { b with nodes := b.nodes.update source fun node => { node with links := node.links ++ [link] } }

def withBranch (b : Builder) (source name : String) : Builder :=
  { b with
    nodes := b.nodes.update source fun node =>
      { node with links := node.links ++ [.to name none], branchPoint := some name } }

def withPlace (b : Builder) (name : String) : Builder :=
  { b with nodes := b.nodes.update name fun node => { node with linked := true } }

section Nodes
variable (b : Builder) (sequence : Table Nat) (name source : String) (node : Node) (link : Link)

@[simp] theorem nodes_numbered : (b.numbered sequence).nodes = b.nodes := rfl

@[simp] theorem nodes_withNode : (b.withNode name node).nodes = b.nodes ++ [(name, node)] := rfl

@[simp] theorem nodes_withRoot : (b.withRoot name).nodes = b.nodes := rfl

@[simp] theorem nodes_withStart : (b.withStart name).nodes = b.nodes := rfl

@[simp] theorem nodes_withLink :
    (b.withLink source link).nodes =
      b.nodes.update source fun node => { node with links := node.links ++ [link] } := rfl

@[simp] theorem nodes_withBranch :
    (b.withBranch source name).nodes =
      b.nodes.update source fun node =>
        { node with links := node.links ++ [.to name none], branchPoint := some name } := rfl

@[simp] theorem nodes_withPlace :
    (b.withPlace name).nodes = b.nodes.update name fun node => { node with linked := true } := rfl

end Nodes

theorem Runs.findActivity {ref : String} {activity : Activity} {b b' : Builder}
    (run : Runs (findActivity ref) b activity b') :
    b.activities.find ref = .ok activity ∧ b = b' := by
  simp only [Builder.findActivity, runs_bind, runs_get] at run
  obtain ⟨_, _, ⟨rfl, rfl⟩, run⟩ := run
  split at run
  · rename_i found
    obtain ⟨rfl, rfl⟩ := runs_pure.mp run
    exact ⟨found, rfl⟩
  · simp at run

inductive Inserted (b : Builder) (name : String) : Builder → Prop
  | noop {activity : Activity} {sequence : Table Nat}
      (known : b.activities.find noopRef = .ok activity) (fresh : name ∉ b.nodes.keys)
      (named : name ≠ "") :
      Inserted b name ((b.numbered sequence).withNode name { activity, linked := true })

theorem Runs.newNoop {b b' : Builder} {name : String}
    (run : Runs newNoop b name b') : Inserted b name b' := by
  simp only [Builder.newNoop, setNode, runs_bind, runs_get, runs_modify, runs_pure] at run
  obtain ⟨activity, _, ⟨_, _, ⟨rfl, rfl⟩, find⟩, _, _, next, _, _, rfl, rfl, rfl⟩ := run
  split at find
  · rename_i found
    obtain ⟨rfl, rfl⟩ := runs_pure.mp find
    obtain ⟨fresh, named, sequence, rfl⟩ := next.nextName
    rw [Table.insert_of_not_mem fresh]
    exact .noop found fresh named
  · simp at find

/-- Below which node a rule with this prerequisite hangs, and what has been put in for it. -/
inductive Resolved (b : Builder) : String → String → Builder → Prop
  | started {start : String} (started : b.start = some start) : Resolved b "" start b
  | start {name : String} {b' : Builder} (unstarted : b.start = none) (empty : b.root = none)
      (inserted : Inserted b name b') : Resolved b "" name (b'.withStart name)
  | itself {name : String} {node : Node} (named : name ≠ "") (found : b.nodes.get? name = some node)
      (linked : node.linked = true) (fansOut : node.activity.fansOut = true) :
      Resolved b name name b
  | branched {name point : String} {node : Node} (named : name ≠ "")
      (found : b.nodes.get? name = some node) (linked : node.linked = true)
      (narrow : node.activity.fansOut = false) (branched : node.branchPoint = some point) :
      Resolved b name point b
  | branch {name point : String} {node : Node} {b' : Builder} (named : name ≠ "")
      (found : b.nodes.get? name = some node) (linked : node.linked = true)
      (narrow : node.activity.fansOut = false) (unbranched : node.branchPoint = none)
      (inserted : Inserted b point b') : Resolved b name point (b'.withBranch name point)

theorem Runs.startNode {b b' : Builder} {name : String} (run : Runs startNode b name b') :
    Resolved b "" name b' := by
  simp only [Builder.startNode, runs_bind, runs_get] at run
  obtain ⟨_, _, ⟨rfl, rfl⟩, run⟩ := run
  split at run
  · rename_i hstart
    obtain ⟨rfl, rfl⟩ := runs_pure.mp run
    exact .started hstart
  · rename_i hstart
    split at run
    · simp at run
    · rename_i hroot
      simp only [runs_bind, runs_modify, runs_pure] at run
      obtain ⟨_, _, insert, _, _, rfl, rfl, rfl⟩ := run
      exact .start hstart hroot insert.newNoop

theorem Runs.resolveBranch {prerequisite name : String} {b b' : Builder}
    (run : Runs (resolveBranch prerequisite) b name b') : Resolved b prerequisite name b' := by
  unfold Builder.resolveBranch at run
  split at run
  · rename_i hempty
    subst hempty
    exact run.startNode
  · rename_i named
    simp only [runs_bind, runs_get] at run
    obtain ⟨_, _, ⟨rfl, rfl⟩, run⟩ := run
    split at run
    · simp at run
    · rename_i node found
      split at run
      · simp at run
      · rename_i hlinked
        have linked : node.linked = true := by simpa using hlinked
        split at run
        · rename_i fansOut
          obtain ⟨rfl, rfl⟩ := runs_pure.mp run
          exact .itself named found linked fansOut
        · rename_i hnarrow
          have narrow : node.activity.fansOut = false := by simpa using hnarrow
          split at run
          · rename_i branched
            obtain ⟨rfl, rfl⟩ := runs_pure.mp run
            exact .branched named found linked narrow branched
          · rename_i unbranched
            simp only [updateNode, runs_bind, runs_modify, runs_pure] at run
            obtain ⟨_, _, insert, _, _, rfl, rfl, rfl⟩ := run
            exact .branch named found linked narrow unbranched insert.newNoop

/-- Under which name the node of an action stands, and what has been put in for it. -/
inductive Entered (b : Builder) (action : Action) : String → Builder → Prop
  | named {name : String} (own : action.name = some name) : Entered b action name b
  | numbered {name : String} {activity : Activity} {sequence : Table Nat}
      (unnamed : action.name = none) (known : b.activities.find action.activity = .ok activity)
      (fresh : name ∉ b.nodes.keys) :
      Entered b action name ((b.numbered sequence).withNode name
        { activity, action := some action })

theorem Runs.nodeOf {action : Action} {name : String} {b b' : Builder}
    (run : Runs (nodeOf action) b name b') : Entered b action name b' := by
  unfold Builder.nodeOf at run
  split at run
  · rename_i own
    obtain ⟨rfl, rfl⟩ := runs_pure.mp run
    exact .named own
  · rename_i unnamed
    simp only [setNode, runs_bind, runs_modify, runs_pure] at run
    obtain ⟨_, _, find, _, _, next, _, _, rfl, rfl, rfl⟩ := run
    obtain ⟨known, rfl⟩ := find.findActivity
    obtain ⟨fresh, -, sequence, rfl⟩ := next.nextName
    rw [Table.insert_of_not_mem fresh]
    exact .numbered unnamed known fresh

inductive Hung (b : Builder) (expr : Option String) (action : Action) :
    Option String → String → Builder → Prop
  | root {name : String} {b' : Builder} (entered : Entered b action name b')
      (empty : b'.root = none) :
      Hung b expr action none name ((b'.withRoot name).withPlace name)
  | below {source name : String} {b' : Builder} (entered : Entered b action name b') :
      Hung b expr action (some source) name ((b'.withLink source (.to name expr)).withPlace name)

theorem Runs.linkAction {previous expr : Option String} {action : Action} {name : String}
    {b b' : Builder} (run : Runs (linkAction previous expr action) b name b') :
    Hung b expr action previous name b' := by
  unfold Builder.linkAction at run
  obtain ⟨_, b₁, enter, run⟩ := runs_bind.mp run
  have entered := enter.nodeOf
  cases previous with
  | none =>
    simp only [updateNode, runs_bind, runs_get] at run
    obtain ⟨_, _, ⟨rfl, rfl⟩, run⟩ := run
    split at run
    · simp at run
    · rename_i empty
      simp only [runs_bind, runs_modify, runs_pure] at run
      obtain ⟨_, _, rfl, _, _, rfl, rfl, rfl⟩ := run
      exact .root entered empty
  | some source =>
    simp only [updateNode, runs_bind, runs_modify, runs_pure] at run
    obtain ⟨_, _, rfl, _, _, rfl, rfl, rfl⟩ := run
    exact .below entered

/-- An action has been looked at before the linking. Its node is there if it has a name of its
own. -/
inductive Registered (b : Builder) (action : Action) : Builder → Prop
  | unnamed (unnamed : action.name = none) : Registered b action b
  | named {name : String} {activity : Activity} (own : action.name = some name)
      (known : b.activities.find action.activity = .ok activity) (fresh : name ∉ b.nodes.keys)
      (sequence : Table Nat) :
      Registered b action ((b.withNode name { activity, action := some action }).numbered sequence)

theorem Runs.register {action : Action} {b b' : Builder} {u : Unit}
    (run : Runs (register action) b u b') : Registered b action b' := by
  unfold Builder.register at run
  split at run
  · rename_i unnamed
    simp only [runs_bind, runs_pure] at run
    obtain ⟨_, _, find, -, rfl⟩ := run
    obtain ⟨-, rfl⟩ := find.findActivity
    exact .unnamed unnamed
  · rename_i name own
    simp only [setNode, setNumber, runs_bind, runs_get] at run
    obtain ⟨activity, _, find, _, _, ⟨rfl, rfl⟩, run⟩ := run
    obtain ⟨known, rfl⟩ := find.findActivity
    split at run
    · simp at run
    · rename_i hfresh
      have fresh : name ∉ b.nodes.keys := fun h => hfresh ((Table.contains_iff_mem_keys _ _).mpr h)
      simp only [runs_bind, runs_modify] at run
      obtain ⟨_, _, rfl, run⟩ := run
      rw [Table.insert_of_not_mem fresh] at run
      split at run
      · obtain ⟨-, rfl⟩ := runs_pure.mp run
        exact .named own known fresh b.sequence
      · split at run
        · split at run
          · rw [← runs_modify.mp run]
            exact .named own known fresh _
          · obtain ⟨-, rfl⟩ := runs_pure.mp run
            exact .named own known fresh b.sequence
        · simp at run

end LedgerFlow.Builder
