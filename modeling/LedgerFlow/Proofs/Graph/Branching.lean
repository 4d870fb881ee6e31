import LedgerFlow.Proofs.Graph.Weaving

/-!
Where rules hang. Once a rule with some prerequisite has been linked, every later one with the same
prerequisite hangs below the same node.
-/
namespace LedgerFlow
namespace Graph
variable {nodes : Table Node} {name : String} {node : Node}

/-- The node that rules with this prerequisite hang below, if there is one: the start node without a
prerequisite, the prerequisite itself if it may have many links, and the node put in below it
otherwise. -/
def entryIn (nodes : Table Node) (start : Option String) (prerequisite : String) : Option String :=
  if prerequisite = "" then start
  else
    (nodes.get? prerequisite).bind fun node =>
      if node.activity.fansOut then some prerequisite else node.branchPoint

theorem entryIn_found {start : Option String} (named : name ≠ "")
    (found : nodes.get? name = some node) :
    entryIn nodes start name = if node.activity.fansOut then some name else node.branchPoint := by
  rw [entryIn, if_neg named, found, Option.bind_some]

def branchedIn (nodes : Table Node) : List (String × Activity) :=
  nodes.flatMap fun (name, node) => node.branchPoint.toList.map fun _ => (name, node.activity)

theorem mem_branchedIn {entry : String × Activity} :
    entry ∈ branchedIn nodes ↔
      ∃ node, (entry.1, node) ∈ nodes ∧ node.branchPoint.isSome ∧ entry.2 = node.activity := by
  obtain ⟨name, activity⟩ := entry
  simp only [branchedIn, List.mem_flatMap, List.mem_map, Option.mem_toList,
    Option.isSome_iff_exists]
  constructor
  · rintro ⟨⟨_, node⟩, hmem, point, hpoint, heq⟩
    obtain ⟨rfl, rfl⟩ := Prod.mk.inj heq
    exact ⟨node, hmem, ⟨point, hpoint⟩, rfl⟩
  · rintro ⟨node, hmem, ⟨point, hpoint⟩, rfl⟩
    exact ⟨_, hmem, point, hpoint, rfl⟩

theorem branchedIn_update (distinct : nodes.keys.Nodup) (found : nodes.get? name = some node)
    {f : Node → Node} {point : String} (unbranched : node.branchPoint = none)
    (branches : (f node).branchPoint = some point) (activity : (f node).activity = node.activity) :
    (branchedIn (nodes.update name f)).Perm (branchedIn nodes ++ [(name, node.activity)]) := by
  refine Table.flatMap_update distinct found f ?_
  simp [unbranched, branches, activity]

end Graph

namespace Builder
open LedgerFlow.Graph

structure Extends (b b' : Builder) : Prop where
  activities : b'.activities = b.activities
  nodes : ∀ name node, b.nodes.get? name = some node → ∃ node', b'.nodes.get? name = some node' ∧
    node'.activity = node.activity ∧ ∀ point ∈ node.branchPoint, point ∈ node'.branchPoint
  start : ∀ start ∈ b.start, start ∈ b'.start
  root : ∀ root ∈ b.root, root ∈ b'.root

structure Steady (b b' : Builder) : Prop extends Extends b b' where
  same_start : b'.start = b.start
  same_points : branchedIn b'.nodes = branchedIn b.nodes

variable {b b' b'' : Builder} {name : String}

theorem Extends.refl (b : Builder) : Extends b b :=
  ⟨rfl, fun _ node found => ⟨node, found, rfl, fun _ h => h⟩, fun _ h => h, fun _ h => h⟩

theorem Extends.trans (first : Extends b b') (second : Extends b' b'') : Extends b b'' := by
  refine ⟨second.activities.trans first.activities, fun name node found => ?_,
    fun start h => second.start start (first.start start h), fun root h =>
      second.root root (first.root root h)⟩
  obtain ⟨node', found', activity', points'⟩ := first.nodes name node found
  obtain ⟨node'', found'', activity'', points''⟩ := second.nodes name node' found'
  exact ⟨node'', found'', activity''.trans activity',
    fun point h => points'' point (points' point h)⟩

theorem Extends.entry (extended : Extends b b') {prerequisite source : String}
    (h : entryIn b.nodes b.start prerequisite = some source) :
    entryIn b'.nodes b'.start prerequisite = some source := by
  by_cases named : prerequisite = ""
  · subst named
    exact extended.start source h
  · cases found : b.nodes.get? prerequisite with
    | none => simp [entryIn, named, found] at h
    | some node =>
      obtain ⟨node', found', activity', points⟩ := extended.nodes prerequisite node found
      rw [entryIn_found named found] at h
      rw [entryIn_found named found', activity']
      by_cases wide : node.activity.fansOut
      · rw [if_pos wide] at h ⊢
        exact h
      · rw [if_neg wide] at h ⊢
        exact points source h

theorem Steady.refl (b : Builder) : Steady b b := ⟨.refl b, rfl, rfl⟩

theorem Steady.trans (first : Steady b b') (second : Steady b' b'') : Steady b b'' :=
  ⟨first.toExtends.trans second.toExtends, second.same_start.trans first.same_start,
    second.same_points.trans first.same_points⟩

theorem Steady.numbered (b : Builder) (sequence : Table Nat) : Steady b (b.numbered sequence) :=
  ⟨⟨rfl, (Extends.refl b).nodes, fun _ h => h, fun _ h => h⟩, rfl, rfl⟩

theorem Steady.withRoot (name : String) (empty : b.root = none) : Steady b (b.withRoot name) :=
  ⟨⟨rfl, (Extends.refl b).nodes, fun _ h => h, by simp [empty]⟩, rfl, rfl⟩

theorem Steady.withNode (b : Builder) (name : String) {node : Node}
    (unbranched : node.branchPoint = none) : Steady b (b.withNode name node) := by
  refine ⟨⟨rfl, fun other node' found => ⟨node', ?_, rfl, fun _ h => h⟩, fun _ h => h,
    fun _ h => h⟩, rfl, ?_⟩
  · rw [nodes_withNode, Table.get?_append, found, Option.some_or]
  · simp [branchedIn, unbranched]

section Update
variable {f : Node → Node} (activity : ∀ node, (f node).activity = node.activity)
include activity

theorem extends_of_update
    (points : ∀ node, b.nodes.get? name = some node → ∀ point ∈ node.branchPoint,
      point ∈ (f node).branchPoint) :
    Extends b { b with nodes := b.nodes.update name f } := by
  refine ⟨rfl, fun other node found => ?_, fun _ h => h, fun _ h => h⟩
  rw [Table.get?_update, found, Option.map_some]
  split
  · rename_i hname
    exact ⟨f node, rfl, activity node, points node (hname ▸ found)⟩
  · exact ⟨node, rfl, rfl, fun _ h => h⟩

theorem steady_of_update (points : ∀ node, (f node).branchPoint = node.branchPoint) :
    Steady b { b with nodes := b.nodes.update name f } := by
  refine ⟨extends_of_update activity fun node _ point h => (points node).symm ▸ h, rfl, ?_⟩
  exact Table.flatMap_update_of_same (fun node => by simp [activity node, points node]) _

end Update

theorem Steady.withLink (b : Builder) (source : String) (link : Link) :
    Steady b (b.withLink source link) := by
  unfold Builder.withLink
  exact steady_of_update (fun _ => rfl) fun _ => rfl

theorem Steady.withPlace (b : Builder) (name : String) : Steady b (b.withPlace name) := by
  unfold Builder.withPlace
  exact steady_of_update (fun _ => rfl) fun _ => rfl

theorem Entered.steady {action : Action} (entered : Entered b action name b') : Steady b b' := by
  cases entered with
  | named => exact .refl b
  | numbered => exact (Steady.numbered b _).trans (.withNode _ _ rfl)

theorem Hung.steady {previous expr : Option String} {action : Action}
    (hung : Hung b expr action previous name b') : Steady b b' := by
  cases hung with
  | root entered empty => exact entered.steady.trans ((Steady.withRoot _ empty).trans
      (.withPlace _ _))
  | below entered => exact entered.steady.trans ((Steady.withLink _ _ _).trans (.withPlace _ _))

theorem Registered.steady {action : Action}
    (registered : Registered b action b') : Steady b b' := by
  cases registered with
  | unnamed => exact .refl b
  | named => exact (Steady.withNode b _ rfl).trans (.numbered _ _)

/-- Rules have been hung below nodes for the prerequisites in `used` and no others. -/
structure Branched (b : Builder) (used : List String) : Prop where
  starts : b.start.isSome → "" ∈ used
  points : ∀ entry ∈ branchedIn b.nodes, entry.2.fansOut = false ∧ entry.1 ≠ "" ∧ entry.1 ∈ used
  entries : ∀ prerequisite ∈ used, (entryIn b.nodes b.start prerequisite).isSome

theorem Extends.isSome_entry (extended : Extends b b') {prerequisite : String}
    (h : (entryIn b.nodes b.start prerequisite).isSome) :
    (entryIn b'.nodes b'.start prerequisite).isSome := by
  obtain ⟨source, hsource⟩ := Option.isSome_iff_exists.mp h
  rw [extended.entry hsource]
  rfl

theorem Branched.of_steady {used : List String} (branched : Branched b used)
    (steady : Steady b b') :
    Branched b' used where
  starts h := branched.starts (steady.same_start ▸ h)
  points entry h := branched.points entry (steady.same_points ▸ h)
  entries prerequisite h := steady.isSome_entry (branched.entries prerequisite h)

theorem Branched.isSome_append {used : List String} {prerequisite : String}
    (branched : Branched b used) (extended : Extends b b')
    (entry : (entryIn b'.nodes b'.start prerequisite).isSome) :
    ∀ p ∈ used ++ [prerequisite], (entryIn b'.nodes b'.start p).isSome := by
  intro p hp
  rcases List.mem_append.mp hp with h | h
  · exact extended.isSome_entry (branched.entries p h)
  · rwa [List.mem_singleton.mp h]

theorem Branched.more {used : List String} {prerequisite : String} (branched : Branched b used)
    (entry : (entryIn b.nodes b.start prerequisite).isSome) :
    Branched b (used ++ [prerequisite]) where
  starts h := List.mem_append_left _ (branched.starts h)
  points entry h := by
    obtain ⟨narrow, named, mem⟩ := branched.points entry h
    exact ⟨narrow, named, List.mem_append_left _ mem⟩
  entries := branched.isSome_append (.refl b) entry

theorem Inserted.steady (inserted : Inserted b name b') : Steady b b' := by
  cases inserted
  exact (Steady.numbered b _).trans (.withNode _ _ rfl)

variable {prerequisite source : String} {used : List String}
    {tasks pending : List (String × Action)}
  {links : List (String × Link)}

theorem Resolved.extends (resolved : Resolved b prerequisite source b') : Extends b b' := by
  cases resolved with
  | started | itself | branched => exact .refl b
  | @start _ inserted unstarted empty h =>
    have steady := h.steady
    refine steady.toExtends.trans
      ⟨rfl, (Extends.refl _).nodes, fun start hstart => ?_, fun root hroot => ?_⟩
    · rw [steady.same_start, unstarted] at hstart
      cases hstart
    · have same : inserted.root = b.root := by cases h; rfl
      rw [same, empty] at hroot
      cases hroot
  | branch _ found _ _ unbranched inserted =>
    unfold withBranch
    refine inserted.steady.toExtends.trans
      (extends_of_update (fun _ => rfl) fun node found' point hpoint => ?_)
    obtain rfl := Option.some.inj ((inserted.found found).symm.trans found')
    rw [unbranched] at hpoint
    cases hpoint

theorem Resolved.entry (resolved : Resolved b prerequisite source b') :
    entryIn b'.nodes b'.start prerequisite = some source := by
  cases resolved with
  | started started => exact started
  | start => rfl
  | itself named found _ fansOut => rw [entryIn_found named found, if_pos fansOut]
  | branched named found _ narrow branched =>
    rw [entryIn_found named found, if_neg (by simp [narrow])]
    exact branched
  | branch named found _ narrow _ inserted =>
    have found' := Table.get?_update_self (inserted.found found) fun node =>
      { node with links := node.links ++ [.to source none], branchPoint := some source }
    rw [nodes_withBranch, entryIn_found named found', if_neg (by simp [narrow])]

theorem Woven.resolve (woven : Woven b tasks pending links)
    (resolved : Resolved b prerequisite source b') :
    Woven b' tasks pending links ∧ source ∈ placedIn b'.nodes := by
  cases resolved with
  | started started => exact ⟨woven, woven.root_mem (woven.started _ started)⟩
  | start _ empty inserted =>
    have woven' := woven.start inserted empty
    exact ⟨woven', woven'.root_mem rfl⟩
  | itself _ found linked => exact ⟨woven, mem_placedIn.mpr ⟨_, Table.mem_of_get? found, linked⟩⟩
  | branched _ found _ _ branched => exact ⟨woven, woven.branchPoint_mem found branched⟩
  | branch _ found linked _ unbranched inserted =>
    have woven' := woven.branch found linked unbranched inserted
    have found' := Table.get?_update_self (inserted.found found) fun node =>
      { node with links := node.links ++ [.to source none], branchPoint := some source }
    exact ⟨woven', woven'.branchPoint_mem found' rfl⟩

theorem Branched.resolve (branched : Branched b used) (distinct : b.nodes.keys.Nodup)
    (resolved : Resolved b prerequisite source b') : Branched b' (used ++ [prerequisite]) := by
  have entry : (entryIn b'.nodes b'.start prerequisite).isSome := by
    rw [resolved.entry]
    rfl
  have entries := branched.isSome_append resolved.extends entry
  cases resolved with
  | started | itself | branched => exact branched.more entry
  | start _ _ inserted =>
    have before := branched.of_steady inserted.steady
    refine ⟨fun _ => by simp, fun entry h => ?_, entries⟩
    obtain ⟨narrow, named, mem⟩ := before.points entry h
    exact ⟨narrow, named, List.mem_append_left _ mem⟩
  | branch named found _ narrow unbranched inserted =>
    have before := branched.of_steady inserted.steady
    refine ⟨fun h => List.mem_append_left _ (before.starts h), fun entry h => ?_, entries⟩
    let f (node : Node) : Node :=
      { node with links := node.links ++ [.to source none], branchPoint := some source }
    have more :=
      branchedIn_update (f := f) (inserted.distinct distinct)
        (inserted.found found) unbranched rfl rfl
    rcases List.mem_append.mp (more.mem_iff.mp h) with h | h
    · obtain ⟨narrow, named, mem⟩ := before.points entry h
      exact ⟨narrow, named, List.mem_append_left _ mem⟩
    · obtain rfl := List.mem_singleton.mp h
      exact ⟨narrow, named, by simp⟩

end Builder

end LedgerFlow
