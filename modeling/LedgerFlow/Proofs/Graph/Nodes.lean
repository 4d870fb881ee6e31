import LedgerFlow.Graph.Basic
import LedgerFlow.Proofs.Table
import Mathlib.Data.List.Perm.Basic

/-!
What the nodes of a graph hold together: their links, their actions, and the names of those without
an action and of those with a place.
-/
namespace LedgerFlow

def Node.activityRef (node : Node) : String := (node.action.map (·.activity)).getD noopRef

namespace Graph
variable {nodes : Table Node} {name : String} {node : Node}

def linksIn (nodes : Table Node) : List (String × Link) :=
  nodes.flatMap fun (name, node) => node.links.map fun link => (name, link)

def actionsIn (nodes : Table Node) : List (String × Action) :=
  nodes.flatMap fun (name, node) => node.action.toList.map fun action => (name, action)

def noopsIn (nodes : Table Node) : List String :=
  nodes.flatMap fun (name, node) => if node.synthetic then [name] else []

def placedIn (nodes : Table Node) : List String :=
  nodes.flatMap fun (name, node) => if node.linked then [name] else []

def branchLinksIn (nodes : Table Node) : List (String × Link) :=
  nodes.flatMap fun (name, node) => node.branchPoint.toList.map fun point =>
    (name, { target := point })

theorem mem_linksIn {entry : String × Link} :
    entry ∈ linksIn nodes ↔ ∃ node, (entry.1, node) ∈ nodes ∧ entry.2 ∈ node.links := by
  obtain ⟨name, link⟩ := entry
  simp [linksIn]

theorem mem_actionsIn {entry : String × Action} :
    entry ∈ actionsIn nodes ↔ ∃ node, (entry.1, node) ∈ nodes ∧ node.action = some entry.2 := by
  obtain ⟨name, action⟩ := entry
  simp [actionsIn]

theorem mem_noopsIn : name ∈ noopsIn nodes ↔ ∃ node, (name, node) ∈ nodes ∧ node.action = none := by
  simp [noopsIn, Node.synthetic]

theorem mem_placedIn :
    name ∈ placedIn nodes ↔ ∃ node, (name, node) ∈ nodes ∧ node.linked = true := by
  simp [placedIn]

theorem mem_branchLinksIn {entry : String × Link} :
    entry ∈ branchLinksIn nodes ↔
      ∃ node point, (entry.1, node) ∈ nodes ∧ node.branchPoint = some point ∧
        entry.2 = { target := point } := by
  obtain ⟨name, link⟩ := entry
  simp [branchLinksIn, eq_comm]

theorem placedIn_sublist (nodes : Table Node) : (placedIn nodes).Sublist nodes.keys := by
  induction nodes with
  | nil => exact .slnil
  | cons entry nodes ih =>
    obtain ⟨name, node⟩ := entry
    change ((if node.linked then [name] else []) ++ placedIn nodes).Sublist
      (name :: Table.keys nodes)
    split
    · exact ih.cons_cons name
    · exact ih.cons name

theorem keys_perm (nodes : Table Node) :
    nodes.keys.Perm ((actionsIn nodes).map (·.1) ++ noopsIn nodes) := by
  induction nodes with
  | nil => exact .refl _
  | cons entry nodes ih =>
    obtain ⟨name, node⟩ := entry
    change (name :: Table.keys nodes).Perm
      (((node.action.toList.map fun action => (name, action)) ++ actionsIn nodes).map (·.1) ++
        ((if node.synthetic then [name] else []) ++ noopsIn nodes))
    cases haction : node.action with
    | none => simpa [Node.synthetic, haction] using (ih.cons name).trans List.perm_middle.symm
    | some action => simpa [Node.synthetic, haction] using ih

theorem branchNodes_eq (g : Graph) : g.branchNodes = noopsIn g.nodes := by
  unfold branchNodes noopsIn Table.keys
  generalize g.nodes = nodes
  induction nodes with
  | nil => rfl
  | cons entry nodes ih =>
    obtain ⟨name, node⟩ := entry
    by_cases h : node.synthetic <;> simp [h, ih]

theorem linksIn_eq_flatMap_keys {g : Graph} (distinct : g.nodes.keys.Nodup) :
    linksIn g.nodes = g.nodes.keys.flatMap fun name => (g.linksOf name).map fun link =>
      (name, link) := by
  rw [Table.keys, List.flatMap_map, linksIn]
  refine List.flatMap_congr fun entry hentry => ?_
  rw [linksOf, Table.get?_of_mem distinct hentry]
  rfl

theorem count_sources (distinct : nodes.keys.Nodup) (found : nodes.get? name = some node) :
    ((linksIn nodes).map (·.1)).count name = node.links.length := by
  obtain ⟨before, after, rfl⟩ := List.append_of_mem (Table.mem_of_get? found)
  rw [Table.keys_append, List.nodup_append'] at distinct
  obtain ⟨-, hafter, apart⟩ := distinct
  have absent (others : Table Node) (h : name ∉ others.keys) :
      ((linksIn others).map (·.1)).count name = 0 := by
    refine List.count_eq_zero.mpr fun hmem => h ?_
    obtain ⟨entry, hentry, rfl⟩ := List.mem_map.mp hmem
    obtain ⟨node, hnode, -⟩ := mem_linksIn.mp hentry
    exact List.mem_map_of_mem hnode
  have hbefore := absent before fun hmem => apart hmem List.mem_cons_self
  have hafter := absent after (List.nodup_cons.mp hafter).1
  have hsplit : linksIn (before ++ (name, node) :: after) =
      linksIn before ++ ((node.links.map fun link => (name, link)) ++ linksIn after) := by
        simp [linksIn]
  rw [hsplit, List.map_append, List.map_append, List.count_append, List.count_append, hbefore,
    hafter, List.map_map]
  simp [Function.comp_def, List.map_const']

theorem branchLinksIn_sources_sublist (nodes : Table Node) :
    ((branchLinksIn nodes).map (·.1)).Sublist nodes.keys := by
  induction nodes with
  | nil => exact .slnil
  | cons entry nodes ih =>
    obtain ⟨name, node⟩ := entry
    change (((node.branchPoint.toList.map fun point => (name, Link.mk point none)) ++
      branchLinksIn nodes).map (·.1)).Sublist (name :: Table.keys nodes)
    cases node.branchPoint with
    | none => exact ih.cons name
    | some point => exact ih.cons_cons name

section Append
variable (nodes : Table Node) (name : String) (node : Node)

@[simp] theorem linksIn_append_singleton :
    linksIn (nodes ++ [(name, node)]) = linksIn nodes ++ node.links.map fun link =>
      (name, link) := by
  simp [linksIn]

@[simp] theorem actionsIn_append_singleton :
    actionsIn (nodes ++ [(name, node)]) =
      actionsIn nodes ++ node.action.toList.map fun action => (name, action) := by
  simp [actionsIn]

@[simp] theorem noopsIn_append_singleton :
    noopsIn (nodes ++ [(name, node)]) = noopsIn nodes ++ if node.synthetic then [name] else [] := by
  simp [noopsIn]

@[simp] theorem placedIn_append_singleton :
    placedIn (nodes ++ [(name, node)]) = placedIn nodes ++ if node.linked then [name] else [] := by
  simp [placedIn]

@[simp] theorem branchLinksIn_append_singleton :
    branchLinksIn (nodes ++ [(name, node)]) =
      branchLinksIn nodes ++ node.branchPoint.toList.map fun point =>
        (name, { target := point }) := by
  simp [branchLinksIn]

end Append

section Unchanged
variable {f : Node → Node}

theorem linksIn_update_of_same (same : ∀ node, (f node).links = node.links) :
    linksIn (nodes.update name f) = linksIn nodes :=
  Table.flatMap_update_of_same (fun node => by simp [same node]) nodes

theorem actionsIn_update_of_same (same : ∀ node, (f node).action = node.action) :
    actionsIn (nodes.update name f) = actionsIn nodes :=
  Table.flatMap_update_of_same (fun node => by simp [same node]) nodes

theorem noopsIn_update_of_same (same : ∀ node, (f node).action = node.action) :
    noopsIn (nodes.update name f) = noopsIn nodes :=
  Table.flatMap_update_of_same (fun node => by simp [Node.synthetic, same node]) nodes

theorem placedIn_update_of_same (same : ∀ node, (f node).linked = node.linked) :
    placedIn (nodes.update name f) = placedIn nodes :=
  Table.flatMap_update_of_same (fun node => by simp [same node]) nodes

theorem branchLinksIn_update_of_same (same : ∀ node, (f node).branchPoint = node.branchPoint) :
    branchLinksIn (nodes.update name f) = branchLinksIn nodes :=
  Table.flatMap_update_of_same (fun node => by simp [same node]) nodes

end Unchanged

theorem linksIn_update (distinct : nodes.keys.Nodup) (found : nodes.get? name = some node)
    {f : Node → Node} {link : Link} (adds : (f node).links = node.links ++ [link]) :
    (linksIn (nodes.update name f)).Perm (linksIn nodes ++ [(name, link)]) := by
  refine Table.flatMap_update distinct found f ?_
  simp [adds]

theorem placedIn_update (distinct : nodes.keys.Nodup) (found : nodes.get? name = some node)
    {f : Node → Node} (unplaced : node.linked = false) (places : (f node).linked = true) :
    (placedIn (nodes.update name f)).Perm (placedIn nodes ++ [name]) := by
  refine Table.flatMap_update distinct found f ?_
  simp [unplaced, places]

theorem branchLinksIn_update (distinct : nodes.keys.Nodup) (found : nodes.get? name = some node)
    {f : Node → Node} {point : String} (unbranched : node.branchPoint = none)
    (branches : (f node).branchPoint = some point) :
    (branchLinksIn (nodes.update name f)).Perm
      (branchLinksIn nodes ++ [(name, { target := point })]) := by
  refine Table.flatMap_update distinct found f ?_
  simp [unbranched, branches]

def Known (activities : Activities) (nodes : Table Node) : Prop :=
  ∀ name node, nodes.get? name = some node → activities.find node.activityRef = .ok node.activity

theorem Known.append {activities : Activities} (known : Known activities nodes)
    (h : activities.find node.activityRef = .ok node.activity) :
    Known activities (nodes ++ [(name, node)]) := by
  intro other node' found
  rw [Table.get?_append] at found
  rcases Option.or_eq_some_iff.mp found with hother | ⟨-, hother⟩
  · exact known other node' hother
  · obtain ⟨rfl, rfl⟩ := Prod.mk.inj (List.mem_singleton.mp (Table.mem_of_get? hother))
    exact h

theorem Known.update {activities : Activities} (known : Known activities nodes) {f : Node → Node}
    (action : ∀ node, (f node).action = node.action)
    (activity : ∀ node, (f node).activity = node.activity) :
    Known activities (nodes.update name f) := by
  intro other node' found
  rw [Table.get?_update] at found
  obtain ⟨node, hnode, rfl⟩ := Option.map_eq_some_iff.mp found
  have h := known other node hnode
  split
  · rw [Node.activityRef, action, activity]
    exact h
  · exact h

end Graph

end LedgerFlow
