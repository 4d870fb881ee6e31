import LedgerFlow.Proofs.Graph.Branching

/-!
Linking the rules of a transaction, as a whole: what every rule adds to the graph, and that nothing
of it is lost by the rules after it.
-/
namespace LedgerFlow
namespace Graph

def chainLinks (names : List String) : List (String × Link) :=
  (names.zip names.tail).map fun (source, target) => (source, { target })

/-- The link that a rule with a condition is entered by, if it has actions. `entry` tells what rules
with some prerequisite hang below. -/
def guardLinks (entry : String → Option String) (rule : Rule)
    (names : List String) : List (String × Link) :=
  match rule.condition, names with
  | some condition, first :: _ =>
    (entry condition.prerequisite).toList.map fun source =>
      (source, { target := first, expr := some (Builder.guardText rule condition) })
  | _, _ => []

/-- The links of a rule whose actions have these names. -/
def ruleLinks (entry : String → Option String) (rule : Rule)
    (names : List String) : List (String × Link) :=
  guardLinks entry rule names ++ chainLinks names

@[simp] theorem chainLinks_nil : chainLinks [] = [] := rfl

theorem chainLinks_sources_sublist (names : List String) :
    ((chainLinks names).map (·.1)).Sublist names := by
  induction names with
  | nil => exact .slnil
  | cons name names ih =>
    cases names with
    | nil => exact (List.nil_sublist _)
    | cons next names => exact ih.cons_cons name

def firstLink (source expr : Option String) (names : List String) : List (String × Link) :=
  match source, names with
  | some source, first :: _ => [(source, .to first expr)]
  | _, _ => []

@[simp] theorem firstLink_nil (source expr : Option String) : firstLink source expr [] = [] := by
  cases source <;> rfl

theorem firstLink_append_chainLinks (source expr : Option String) (name : String)
    (names : List String) :
    firstLink source expr (name :: names) ++ chainLinks (name :: names) =
      firstLink source expr [name] ++ (firstLink (some name) none names ++ chainLinks names) := by
  cases names with
  | nil => cases source <;> rfl
  | cons next names => cases source <;> rfl

theorem placeholder_ne_empty (description : String) : placeholder description ≠ "" := by
  intro h
  have hlist := congrArg String.toList h
  simp [placeholder] at hlist

theorem guardText_ne_empty (rule : Rule) (condition : Condition) :
    Builder.guardText rule condition ≠ "" := by
  unfold Builder.guardText
  split
  · assumption
  · split
    · exact placeholder_ne_empty _
    · exact placeholder_ne_empty _

theorem guardLinks_eq_firstLink (entry : String → Option String) {rule : Rule}
    {condition : Condition} (conditioned : rule.condition = some condition) (names : List String) :
    guardLinks entry rule names =
      firstLink (entry condition.prerequisite) (some (Builder.guardText rule condition)) names := by
  unfold guardLinks
  rw [conditioned]
  cases names with
  | nil => simp
  | cons first names =>
    cases hentry : entry condition.prerequisite with
    | none => simp [firstLink, hentry]
    | some source => simp [firstLink, hentry, Link.to, Option.filter, guardText_ne_empty]

theorem guardLinks_unconditioned (entry : String → Option String) {rule : Rule}
    (unconditioned : rule.condition = none) (names : List String) :
    guardLinks entry rule names = [] := by
  unfold guardLinks
  rw [unconditioned]

end Graph

def Rule.prerequisites (rule : Rule) : List String := rule.condition.toList.map (·.prerequisite)

theorem Graph.ruleLinks_congr {entry entry' : String → Option String} {rule : Rule}
    (same : ∀ prerequisite ∈ rule.prerequisites, entry prerequisite = entry' prerequisite)
    (names : List String) : ruleLinks entry rule names = ruleLinks entry' rule names := by
  unfold ruleLinks
  cases hcondition : rule.condition with
  | none => rw [guardLinks_unconditioned _ hcondition, guardLinks_unconditioned _ hcondition]
  | some condition =>
    rw [guardLinks_eq_firstLink _ hcondition, guardLinks_eq_firstLink _ hcondition,
      same condition.prerequisite (by simp [Rule.prerequisites, hcondition])]

def explicit (actions : List Action) : List (String × Action) :=
  actions.filterMap fun action => action.name.map fun name => (name, action)

theorem explicit_cons_named {action : Action} {name : String} (own : action.name = some name)
    (actions : List Action) :
    explicit (action :: actions) = (name, action) :: explicit actions := by
  simp [explicit, own]

theorem explicit_cons_unnamed {action : Action} (unnamed : action.name = none)
    (actions : List Action) : explicit (action :: actions) = explicit actions := by
  simp [explicit, unnamed]

/-- The actions one after the other under some names, which are their own where they have one. -/
structure Naming (actions : List Action) (tasks : List (String × Action)) : Prop where
  actions : tasks.map (·.2) = actions
  own : ∀ task ∈ tasks, ∀ name, task.2.name = some name → task.1 = name

namespace Builder
open LedgerFlow.Graph

variable {b b' : Builder} {tasks pending : List (String × Action)} {links : List (String × Link)}
  {previous expr : Option String} {name : String} {action : Action} {actions : List Action}

theorem Woven.entered (woven : Woven b tasks (explicit (action :: actions) ++ pending) links)
    (entered : Entered b action name b') :
    Woven b' tasks ((name, action) :: (explicit actions ++ pending)) links ∧
      placedIn b'.nodes = placedIn b.nodes ∧ ∀ own, action.name = some own → name = own := by
  cases entered with
  | named own =>
    rw [explicit_cons_named own] at woven
    exact ⟨woven, rfl, fun other h => Option.some.inj (own.symm.trans h)⟩
  | numbered unnamed known fresh =>
    rw [explicit_cons_unnamed unnamed] at woven
    refine ⟨(woven.numbered _).enter fresh known, by simp, fun other h => ?_⟩
    rw [unnamed] at h
    cases h

theorem Woven.hung (woven : Woven b tasks (explicit (action :: actions) ++ pending) links)
    (above : ∀ source ∈ previous, source ∈ placedIn b.nodes)
    (hung : Hung b expr action previous name b') :
    Woven b' (tasks ++ [(name, action)]) (explicit actions ++ pending)
        (links ++ firstLink previous expr [name]) ∧
      (∀ own, action.name = some own → name = own) ∧ (previous = none → b'.root = some name) := by
  cases hung with
  | root entered empty =>
    obtain ⟨woven', -, own⟩ := woven.entered entered
    refine ⟨?_, own, fun _ => rfl⟩
    change Woven _ _ _ (links ++ [])
    rw [List.append_nil]
    exact woven'.root empty
  | below entered =>
    obtain ⟨woven', placed, own⟩ := woven.entered entered
    exact ⟨woven'.below (placed ▸ above _ rfl) rfl, own, fun h => by cases h⟩

theorem Woven.linkActions {u : Unit} (run : Runs (linkActions previous expr actions) b u b')
    (woven : Woven b tasks (explicit actions ++ pending) links)
    (above : ∀ source ∈ previous, source ∈ placedIn b.nodes) :
    ∃ taken, Naming actions taken ∧ Steady b b' ∧
      Woven b' (tasks ++ taken) pending
        (links ++ (firstLink previous expr (taken.map (·.1)) ++ chainLinks (taken.map (·.1)))) ∧
      (previous = none → ∀ first ∈ taken.head?, b'.root = some first.1) := by
  induction actions generalizing previous expr b tasks links with
  | nil =>
    obtain ⟨-, rfl⟩ := runs_pure.mp run
    refine ⟨[], ⟨rfl, by simp⟩, .refl b, ?_, by simp⟩
    simpa [explicit] using woven
  | cons action actions ih =>
    rw [Builder.linkActions, runs_bind] at run
    obtain ⟨name, b₁, link, run⟩ := run
    have hung := link.linkAction
    obtain ⟨woven₁, own, top⟩ := woven.hung above hung
    have mem : name ∈ placedIn b₁.nodes := by
      rw [woven₁.placed.mem_iff]
      simp
    obtain ⟨taken, naming, steady, woven', -⟩ := ih run woven₁ (by simpa using mem)
    refine ⟨(name, action) :: taken, ?_, hung.steady.trans steady, ?_, fun h first hfirst => ?_⟩
    · refine ⟨by rw [List.map_cons, naming.actions], ?_⟩
      exact List.forall_mem_cons.mpr ⟨own, naming.own⟩
    · rw [List.map_cons, firstLink_append_chainLinks]
      simpa only [List.append_assoc, List.singleton_append] using woven'
    · obtain rfl := Option.some.inj hfirst
      exact steady.root _ (top h)

theorem Woven.linkRule {rule : Rule} {used : List String} {u : Unit}
    (run : Runs (linkRule rule) b u b')
    (woven : Woven b tasks (explicit rule.actions ++ pending) links) (branched : Branched b used) :
    ∃ taken, Naming rule.actions taken ∧ Extends b b' ∧
      Woven b' (tasks ++ taken) pending
        (links ++ ruleLinks (entryIn b'.nodes b'.start) rule (taken.map (·.1))) ∧
      Branched b' (used ++ rule.prerequisites) ∧
      (rule.condition = none → ∀ first ∈ taken.head?, b'.root = some first.1) := by
  unfold Builder.linkRule at run
  unfold ruleLinks Rule.prerequisites
  split at run
  · rename_i unconditioned
    obtain ⟨taken, naming, steady, woven', top⟩ := woven.linkActions run (by simp)
    refine ⟨taken, naming, steady.toExtends, ?_, ?_, fun _ => top rfl⟩
    · rw [guardLinks_unconditioned _ unconditioned]
      exact woven'
    · rw [unconditioned]
      simpa using branched.of_steady steady
  · rename_i condition conditioned
    obtain ⟨source, b₁, resolve, run⟩ := runs_bind.mp run
    have resolved := resolve.resolveBranch
    obtain ⟨woven₁, above⟩ := woven.resolve resolved
    obtain ⟨taken, naming, steady, woven', -⟩ := woven₁.linkActions run (by simpa using above)
    refine ⟨taken, naming, resolved.extends.trans steady.toExtends, ?_, ?_, fun h => ?_⟩
    · rw [guardLinks_eq_firstLink _ conditioned, steady.entry resolved.entry]
      exact woven'
    · rw [conditioned]
      exact (branched.resolve woven.distinct resolved).of_steady steady
    · rw [conditioned] at h
      cases h

/-- All rules one after the other. What the first ones add is still the same after the last one. -/
theorem Woven.linkRules {rules : List Rule} {used : List String} {u : PUnit}
    (run : Runs (forIn rules PUnit.unit fun rule _ => do
      Builder.linkRule rule
      return ForInStep.yield PUnit.unit) b u b')
    (woven : Woven b tasks ((rules.flatMap fun rule => explicit rule.actions) ++ pending) links)
    (branched : Branched b used) :
    ∃ named : List (Rule × List (String × Action)), named.map (·.1) = rules ∧
      (∀ entry ∈ named, Naming entry.1.actions entry.2 ∧
        (entry.1.condition = none → ∀ first ∈ entry.2.head?, b'.root = some first.1)) ∧
      Extends b b' ∧
      Woven b' (tasks ++ named.flatMap (·.2)) pending
        (links ++ named.flatMap fun entry =>
          ruleLinks (entryIn b'.nodes b'.start) entry.1 (entry.2.map (·.1))) ∧
      Branched b' (used ++ rules.flatMap Rule.prerequisites) := by
  induction rules generalizing b tasks links used with
  | nil =>
    obtain rfl := runs_forIn_nil.mp run
    exact ⟨[], rfl, by simp, .refl b, by simpa using woven, by simpa using branched⟩
  | cons rule rules ih =>
    obtain ⟨b₁, link, run⟩ := runs_forIn_cons.mp run
    rw [List.flatMap_cons, List.append_assoc] at woven
    obtain ⟨taken, naming, extended, woven₁, branched₁, top⟩ := woven.linkRule link branched
    obtain ⟨named, hrules, hnamed, extended', woven', branched'⟩ := ih run woven₁ branched₁
    -- What the first rule hangs below is not moved by the rules after it.
    have same : ruleLinks (entryIn b₁.nodes b₁.start) rule (taken.map (·.1)) =
        ruleLinks (entryIn b'.nodes b'.start) rule (taken.map (·.1)) := by
      refine ruleLinks_congr (fun prerequisite hmem => ?_) _
      obtain ⟨source, hsource⟩ :=
        Option.isSome_iff_exists.mp (branched₁.entries prerequisite (List.mem_append_right _ hmem))
      rw [hsource, extended'.entry hsource]
    refine ⟨(rule, taken) :: named, by
      rw [List.map_cons, hrules], ?_, extended.trans extended', ?_, ?_⟩
    · refine List.forall_mem_cons.mpr ⟨⟨naming, fun h first hfirst => ?_⟩, hnamed⟩
      exact extended'.root _ (top h first hfirst)
    · rw [same] at woven'
      simpa only [List.flatMap_cons, List.append_assoc] using woven'
    · simpa only [List.flatMap_cons, List.append_assoc] using branched'

theorem Woven.registerActions {u : PUnit}
    (run : Runs (forIn actions PUnit.unit fun action _ => do
      register action
      return ForInStep.yield PUnit.unit) b u b')
    (woven : Woven b tasks pending links) : Woven b' tasks (pending ++ explicit actions) links ∧
      Steady b b' := by
  induction actions generalizing b pending with
  | nil =>
    obtain rfl := runs_forIn_nil.mp run
    exact ⟨by simpa [explicit] using woven, .refl b⟩
  | cons action actions ih =>
    obtain ⟨b₁, first, run⟩ := runs_forIn_cons.mp run
    have registered := first.register
    have steady := registered.steady
    cases registered with
    | unnamed unnamed =>
      rw [explicit_cons_unnamed unnamed]
      exact ih run woven
    | named own known fresh sequence =>
      have woven₁ := ((woven.enter fresh known).numbered sequence).of_perm
        (List.perm_append_singleton _ _).symm
      obtain ⟨woven', steady'⟩ := ih run woven₁
      rw [explicit_cons_named own]
      exact ⟨by simpa using woven', steady.trans steady'⟩

theorem Woven.registerRules {rules : List Rule} {u : PUnit}
    (run : Runs (forIn rules PUnit.unit fun rule _ => do
      forIn rule.actions PUnit.unit fun action _ => do
        register action
        return ForInStep.yield PUnit.unit
      return ForInStep.yield PUnit.unit) b u b')
    (woven : Woven b tasks pending links) :
    Woven b' tasks (pending ++ rules.flatMap fun rule => explicit rule.actions) links ∧
      Steady b b' := by
  induction rules generalizing b pending with
  | nil =>
    obtain rfl := runs_forIn_nil.mp run
    exact ⟨by simpa using woven, .refl b⟩
  | cons rule rules ih =>
    obtain ⟨b₁, first, run⟩ := runs_forIn_cons.mp run
    obtain ⟨woven₁, steady⟩ := woven.registerActions first
    obtain ⟨woven', steady'⟩ := ih run woven₁
    exact ⟨by simpa using woven', steady.trans steady'⟩

/-- A builder that has linked all of these rules, and the names of their actions. -/
structure Finished (b : Builder) (rules : List Rule)
    (named : List (Rule × List (String × Action))) : Prop where
  all : named.map (·.1) = rules
  naming : ∀ entry ∈ named, Naming entry.1.actions entry.2
  top : ∀ entry ∈ named, entry.1.condition = none → ∀ first ∈ entry.2.head?, b.root = some first.1
  woven : Woven b (named.flatMap (·.2)) []
    (named.flatMap fun entry => ruleLinks (entryIn b.nodes b.start) entry.1 (entry.2.map (·.1)))
  branched : Branched b (rules.flatMap Rule.prerequisites)

section Finished
variable {rules : List Rule} {named : List (Rule × List (String × Action))}

theorem Finished.actions_eq (finished : Finished b rules named) :
    (named.flatMap (·.2)).map (·.2) = rules.flatMap (·.actions) := by
  rw [← finished.all, List.map_flatMap, List.flatMap_map]
  exact List.flatMap_congr fun entry hentry => (finished.naming entry hentry).actions

theorem Finished.keys (finished : Finished b rules named) :
    b.nodes.keys.Perm ((named.flatMap (·.2)).map (·.1) ++ noopsIn b.nodes) := by
  have actions := finished.woven.actions.map (·.1)
  rw [List.append_nil] at actions
  exact (keys_perm b.nodes).trans (actions.append_right _)

theorem Finished.tree (finished : Finished b rules named) :
    Tree b.root (linksIn b.nodes) b.nodes.keys :=
  finished.woven.tree.of_perm (finished.woven.placed.trans finished.keys.symm)

theorem Finished.performs (finished : Finished b rules named) {task : String × Action}
    (h : task ∈ named.flatMap (·.2)) :
    ∃ node, b.nodes.get? task.1 = some node ∧ node.action = some task.2 ∧
      b.activities.find task.2.activity = .ok node.activity ∧ ∀ own, task.2.name = some own →
        task.1 = own := by
  obtain ⟨node, found, haction, known⟩ := finished.woven.exists_node (List.mem_append_left [] h)
  obtain ⟨entry, hentry, htask⟩ := List.mem_flatMap.mp h
  exact ⟨node, found, haction, known, (finished.naming entry hentry).own _ htask⟩

end Finished

theorem Woven.empty (transaction : Transaction) (activities : Activities) (built : Bool) :
    Woven { transaction, activities, built } [] [] [] :=
  ⟨⟨List.nodup_nil, .refl _, .refl _, .refl _, by simp, by simp [Known]⟩, .nil, .refl _⟩

theorem Branched.empty (transaction : Transaction) (activities : Activities) (built : Bool) :
    Branched { transaction, activities, built } [] := ⟨by simp, by simp [branchedIn], by simp⟩

end Builder

/-- The node of this name does this action, under the name of the action if it has one. -/
def Graph.Performs (g : Graph) (activities : Activities) (action : Action) (name : String) : Prop :=
  ∃ node, g.nodes.get? name = some node ∧ node.action = some action ∧
    activities.find action.activity = .ok node.activity ∧ ∀ own, action.name = some own → name = own

theorem Graph.exists_finished {activities : Activities} {transaction : Transaction} {g : Graph}
    (h : Graph.ofTransaction activities transaction = .ok g) :
    ∃ b named, Builder.Finished b transaction.rules named ∧ b.activities = activities ∧
      g = { transaction := transaction.name, root := b.root, nodes := b.nodes } := by
  have run : Builder.Runs Builder.build { transaction, activities } g
      (Builder.outcome Builder.build { transaction, activities }).2 := Prod.ext h rfl
  generalize (Builder.outcome Builder.build { transaction, activities }).2 = b at run
  unfold Builder.build at run
  obtain ⟨_, _, get, run⟩ := Builder.runs_bind.mp run
  obtain ⟨rfl, rfl⟩ := Builder.runs_get.mp get
  rw [if_neg Bool.false_ne_true] at run
  simp only [Builder.runs_bind, Builder.runs_modify, Builder.runs_get, Builder.runs_pure] at run
  obtain ⟨_, _, rfl, _, _, ⟨rfl, rfl⟩, _, b₁, register, _, b₂, link, _, _, ⟨rfl, rfl⟩, rfl, rfl⟩ :=
    run
  obtain ⟨woven₁, steady⟩ :=
    (Builder.Woven.empty transaction activities true).registerRules register
  have woven₁ : Builder.Woven b₁ []
      ((transaction.rules.flatMap fun rule => explicit rule.actions) ++ []) [] := by
    simpa using woven₁
  obtain ⟨named, all, hnamed, extended, woven, branched⟩ :=
    woven₁.linkRules link ((Builder.Branched.empty transaction activities true).of_steady steady)
  refine ⟨b₂, named, ?_, extended.activities.trans steady.activities, rfl⟩
  exact ⟨all, fun entry h => (hnamed entry h).1, fun entry h => (hnamed entry h).2, by
    simpa using woven,
    by simpa using branched⟩

theorem Graph.mem_actions_of_get? {activities : Activities} {transaction : Transaction} {g : Graph}
    (h : Graph.ofTransaction activities transaction = .ok g) {name : String} {node : Node}
    (found : g.nodes.get? name = some node) {action : Action} (own : action ∈ node.action) :
    action ∈ transaction.rules.flatMap (·.actions) := by
  obtain ⟨b, named, finished, -, rfl⟩ := exists_finished h
  have listed : (name, action) ∈ Graph.actionsIn b.nodes :=
    Graph.mem_actionsIn.mpr ⟨node, Table.mem_of_get? found, own⟩
  rw [finished.woven.actions.mem_iff, List.append_nil] at listed
  exact finished.actions_eq ▸ List.mem_map_of_mem listed

end LedgerFlow
