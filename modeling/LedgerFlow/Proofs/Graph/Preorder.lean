import LedgerFlow.Proofs.Graph.Walk
import Mathlib.Data.Finset.Card
import Mathlib.Logic.Relation

/-!
The walk through any graph, whatever its links: nodes that lead back to themselves or to nodes above
them, nodes with several links to them, and links to names without a node. It ends, and it is the
walk by recursion, which goes through the links of a node in order and through those of a new node
before the next link. So it comes once to each name that can be reached and follows each link of
such a name once.
-/
namespace LedgerFlow
open Relation (ReflTransGen)

namespace Graph

def LeadsTo (g : Graph) (source target : String) : Prop :=
  ∃ link ∈ g.linksOf source, link.target = target

/-- The walk by recursion: going through these links of a node leads from the names and links so far
to those afterwards. -/
inductive Visits (g : Graph) : String → List Link → List String × List (String × Link) →
    List String × List (String × Link) → Prop
  | done {name : String} {seen : List String × List (String × Link)} : Visits g name [] seen seen
  | known {name : String} {link : Link} {links : List Link} {tasks : List String}
      {edges : List (String × Link)} {after : List String × List (String × Link)}
      (known : link.target ∈ tasks)
      (rest : Visits g name links (tasks, edges ++ [(name, link)]) after) :
      Visits g name (link :: links) (tasks, edges) after
  | fresh {name : String} {link : Link} {links : List Link} {tasks : List String}
      {edges : List (String × Link)} {between after : List String × List (String × Link)}
      (fresh : link.target ∉ tasks)
      (below : Visits g link.target (g.linksOf link.target)
        (tasks ++ [link.target], edges ++ [(name, link)]) between)
      (rest : Visits g name links between after) :
      Visits g name (link :: links) (tasks, edges) after

variable {g : Graph} {name root : String} {links : List Link}
    {before after : List String × List (String × Link)}

theorem Visits.exists_new (h : Visits g name links before after) (own : links ⊆ g.linksOf name) :
    ∃ new, after.1 = before.1 ++ new ∧ (∀ other ∈ new, ReflTransGen g.LeadsTo name other) ∧
      after.2.Perm (before.2 ++
        ((links.map fun link => (name, link)) ++ new.flatMap g.leaving)) := by
  induction h with
  | done => exact ⟨[], by simp⟩
  | @known name link links tasks edges after _ _ ih =>
    obtain ⟨-, own⟩ := List.cons_subset.mp own
    obtain ⟨new, hnew, reached, followed⟩ := ih own
    exact ⟨new, hnew, reached, by simpa using followed⟩
  | @fresh name link links tasks edges between after _ _ _ ihBelow ih =>
    obtain ⟨first, own⟩ := List.cons_subset.mp own
    obtain ⟨below, hbelow, reachedBelow, followedBelow⟩ := ihBelow (List.Subset.refl _)
    obtain ⟨later, hlater, reachedLater, followedLater⟩ := ih own
    refine ⟨link.target :: (below ++ later), by simp [hlater, hbelow], ?_, ?_⟩
    · have next : ReflTransGen g.LeadsTo name link.target := .single ⟨link, first, rfl⟩
      refine List.forall_mem_cons.mpr
        ⟨next, List.forall_mem_append.mpr ⟨fun other h => ?_, reachedLater⟩⟩
      exact next.trans (reachedBelow other h)
    · refine followedLater.trans ((followedBelow.append_right _).trans ?_)
      -- The links of the new names come before the links that are left to follow.
      rw [List.flatMap_cons, List.flatMap_append, ← leaving]
      simp only [List.map_cons, List.append_assoc, List.cons_append, List.nil_append]
      refine List.Perm.append_left _ (.cons _ ?_)
      exact (List.Perm.append_left _ (List.perm_append_comm_assoc _ _ _)).trans
        (List.perm_append_comm_assoc _ _ _)

theorem Visits.nodup (h : Visits g name links before after)
    (distinct : before.1.Nodup) : after.1.Nodup := by
  induction h with
  | done => exact distinct
  | known _ _ ih => exact ih distinct
  | fresh fresh _ _ ihBelow ih =>
    exact ih (ihBelow (List.nodup_append'.mpr
      ⟨distinct, List.nodup_singleton _, by simpa using fresh⟩))

theorem Visits.subset (h : Visits g name links before after) : before.1 ⊆ after.1 := by
  induction h with
  | done => exact List.Subset.refl _
  | known _ _ ih => exact ih
  | fresh _ _ _ ihBelow ih =>
      exact List.Subset.trans (List.subset_append_left _ _) (List.Subset.trans ihBelow ih)

theorem Visits.target_mem (h : Visits g name links before after)
    (closed : ∀ edge ∈ before.2, edge.2.target ∈ before.1) :
    ∀ edge ∈ after.2, edge.2.target ∈ after.1 := by
  induction h with
  | done => exact closed
  | known known _ ih =>
    exact ih (List.forall_mem_append.mpr ⟨closed, List.forall_mem_singleton.mpr known⟩)
  | @fresh _ link _ tasks _ _ _ _ _ _ ihBelow ih =>
    refine ih (ihBelow (List.forall_mem_append.mpr ⟨fun edge h => ?_, ?_⟩))
    · exact List.mem_append_left [link.target] (closed edge h)
    · simp

theorem Visits.length_le (h : Visits g name links before after) :
    after.1.length + before.2.length ≤ before.1.length + after.2.length := by
  induction h with
  | done => exact Nat.le_refl _
  | known _ _ ih =>
    simp only [List.length_append, List.length_singleton] at ih ⊢
    omega
  | fresh _ _ _ ihBelow ih =>
    simp only [List.length_append, List.length_singleton] at ihBelow ih ⊢
    omega

theorem Visits.unique {after' : List String × List (String × Link)}
    (h : Visits g name links before after)
    (h' : Visits g name links before after') : after = after' := by
  induction h generalizing after' with
  | done =>
    cases h'
    rfl
  | known known _ ih =>
    cases h' with
    | known _ rest => exact ih rest
    | fresh fresh _ _ => exact absurd known fresh
  | fresh fresh _ _ ihBelow ih =>
    cases h' with
    | known known _ => exact absurd known fresh
    | fresh _ below rest =>
      obtain rfl := ihBelow below
      exact ih rest

/-! The recursion ends: each node that is entered leaves fewer to enter. -/

def unreached (g : Graph) (tasks : List String) : Finset String :=
  ((linksIn g.nodes).map (·.2.target)).toFinset \ tasks.toFinset

theorem card_unreached_le {tasks tasks' : List String} (sub : tasks ⊆ tasks') :
    (g.unreached tasks').card ≤ (g.unreached tasks).card :=
  Finset.card_le_card (Finset.sdiff_subset_sdiff (Finset.Subset.refl _) fun other h => by
    simpa using sub (by simpa using h))

theorem card_unreached_lt {tasks : List String} {link : Link} (follow : link ∈ g.linksOf name)
    (fresh : link.target ∉ tasks) :
    (g.unreached (tasks ++ [link.target])).card < (g.unreached tasks).card := by
  have hlink : (name, link) ∈ linksIn g.nodes :=
    mem_linksIn_of_mem_leaving (List.mem_map_of_mem follow)
  have target : link.target ∈ g.unreached tasks :=
    Finset.mem_sdiff.mpr ⟨List.mem_toFinset.mpr (List.mem_map_of_mem hlink), by simpa using fresh⟩
  have fewer : g.unreached (tasks ++ [link.target]) ⊆ (g.unreached tasks).erase link.target := by
    intro other h
    simp only [unreached, Finset.mem_sdiff, List.mem_toFinset, List.mem_append, List.mem_singleton,
      not_or] at h
    exact Finset.mem_erase.mpr
      ⟨h.2.2, Finset.mem_sdiff.mpr ⟨List.mem_toFinset.mpr h.1, by simpa using h.2.1⟩⟩
  exact (Finset.card_le_card fewer).trans_lt (Finset.card_erase_lt_of_mem target)

theorem card_unreached_le_linkCount (tasks : List String) :
    (g.unreached tasks).card ≤ g.linkCount := by
  refine (Finset.card_le_card Finset.sdiff_subset).trans ((List.toFinset_card_le _).trans ?_)
  rw [List.length_map, linkCount_eq]

theorem walkLinks_known {fuel : Nat} {link : Link} {tasks : List String}
    {edges : List (String × Link)} (known : link.target ∈ tasks) :
    g.walkLinks fuel name (link :: links) (tasks, edges) =
      g.walkLinks fuel name links (tasks, edges ++ [(name, link)]) := by
  rw [walkLinks]
  simp [known]

theorem walkLinks_fresh {fuel : Nat} {link : Link} {tasks : List String}
    {edges : List (String × Link)} (fresh : link.target ∉ tasks) :
    g.walkLinks (fuel + 1) name (link :: links) (tasks, edges) =
      g.walkLinks (fuel + 1) name links
        (g.walkLinks fuel link.target (g.linksOf link.target)
          (tasks ++ [link.target], edges ++ [(name, link)])) := by
  rw [walkLinks]
  simp [fresh]

theorem visits_walkLinks {fuel : Nat} (own : links ⊆ g.linksOf name)
    (enough : (g.unreached before.1).card ≤ fuel) :
    Visits g name links before (g.walkLinks fuel name links before) := by
  induction fuel, name, links, before using Graph.walkLinks.induct (g := g) with
  | case1 fuel name before =>
    rw [walkLinks]
    exact .done
  | case2 name before link links _ _ hseen fuel fresh _ ihBelow ih =>
    obtain ⟨first, own⟩ := List.cons_subset.mp own
    obtain ⟨tasks, edges⟩ := before
    obtain ⟨rfl, rfl⟩ := Prod.mk.inj hseen
    have fresh : link.target ∉ tasks := by simpa using fresh
    have fewer := card_unreached_lt first fresh
    have below := ihBelow (List.Subset.refl _) (by dsimp only at enough ⊢; omega)
    have left := card_unreached_le (g := g) below.subset
    rw [walkLinks_fresh fresh]
    refine .fresh fresh below (ih own (left.trans ?_))
    dsimp only at enough ⊢
    omega
  | case3 name before link links _ _ hseen fuel other ih =>
    obtain ⟨first, own⟩ := List.cons_subset.mp own
    obtain ⟨tasks, edges⟩ := before
    obtain ⟨rfl, rfl⟩ := Prod.mk.inj hseen
    have known : link.target ∈ tasks := by
      by_contra fresh
      -- A new name is left, so there is fuel for it.
      have fewer := card_unreached_lt first fresh
      cases fuel with
      | zero => exact absurd enough (by dsimp only; omega)
      | succ fuel => exact other fuel rfl (by simpa using fresh)
    rw [walkLinks_known known]
    exact .known known (ih own enough)

def linksUnder (nodes : Table Node) (name : String) : List Link :=
  ((nodes.get? name).map (·.links)).getD []

theorem linksUnder_cons_of_not_mem {key : String} {node : Node} {nodes : Table Node}
    {names : List String} (off : key ∉ names) :
    names.flatMap (linksUnder ((key, node) :: nodes)) = names.flatMap (linksUnder nodes) := by
  refine List.flatMap_congr fun name hname => ?_
  have other : key ≠ name := fun same => off (same ▸ hname)
  rw [linksUnder, linksUnder, Table.get?_cons_of_ne other]

theorem length_linksUnder_le (nodes : Table Node) {names : List String} (distinct : names.Nodup) :
    (names.flatMap (linksUnder nodes)).length ≤
      (nodes.flatMap fun (_, node) => node.links).length := by
  induction nodes generalizing names with
  | nil =>
    have none : names.flatMap (linksUnder []) = [] := List.flatMap_eq_nil_iff.mpr fun _ _ => rfl
    simp [none]
  | cons entry nodes ih =>
    obtain ⟨key, node⟩ := entry
    rw [List.flatMap_cons, List.length_append]
    by_cases own : key ∈ names
    · have first : linksUnder ((key, node) :: nodes) key = node.links := by simp [linksUnder]
      rw [((List.perm_cons_erase own).flatMap_right _).length_eq, List.flatMap_cons,
        List.length_append, linksUnder_cons_of_not_mem distinct.not_mem_erase, first]
      exact Nat.add_le_add_left (ih (distinct.erase key)) _
    · rw [linksUnder_cons_of_not_mem own]
      exact (ih distinct).trans (Nat.le_add_left _ _)

theorem length_leaving_le {names : List String} (distinct : names.Nodup) :
    (names.flatMap g.leaving).length ≤ g.linkCount := by
  have same : (names.flatMap g.leaving).length = (names.flatMap (linksUnder g.nodes)).length := by
    simp [List.length_flatMap, leaving, linksOf, linksUnder]
  exact same.trans_le (length_linksUnder_le g.nodes distinct)

end Graph

namespace Walk
open LedgerFlow.Graph

variable {g : Graph} {name root : String} {links : List Link}
    {before after : List String × List (String × Link)}

def start (g : Graph) (root : String) : Walk := ⟨[root], [], [(root, g.linksOf root)]⟩

/-- Stepping goes through the links of the innermost node as the recursion does and then leaves the
node, with one step for each link and each node. -/
theorem steps_of_visits (h : Visits g name links before after) (rest : List (String × List Link)) :
    ∃ steps, steps + before.1.length + before.2.length = after.1.length + after.2.length + 1 ∧
      (Walk.step g)^[steps] ⟨before.1, before.2, (name, links) :: rest⟩ =
        ⟨after.1, after.2, rest⟩ := by
  induction h generalizing rest with
  | done => exact ⟨1, by omega, rfl⟩
  | @known name link links tasks edges after known _ ih =>
    obtain ⟨steps, count, ends⟩ := ih rest
    have first : Walk.step g ⟨tasks, edges, (name, link :: links) :: rest⟩ =
        ⟨tasks, edges ++ [(name, link)], (name, links) :: rest⟩ := by
      simp [Walk.step, known]
    refine ⟨steps + 1, ?_, ?_⟩
    · simp only [List.length_append, List.length_singleton] at count ⊢
      omega
    · rw [Function.iterate_succ_apply, first, ends]
  | @fresh name link links tasks edges between after fresh _ _ ihBelow ih =>
    obtain ⟨stepsBelow, countBelow, endsBelow⟩ := ihBelow ((name, links) :: rest)
    obtain ⟨steps, count, ends⟩ := ih rest
    have first : Walk.step g ⟨tasks, edges, (name, link :: links) :: rest⟩ =
        ⟨tasks ++ [link.target], edges ++ [(name, link)],
          (link.target, g.linksOf link.target) :: (name, links) :: rest⟩ := by
      simp [Walk.step, fresh]
    refine ⟨steps + stepsBelow + 1, ?_, ?_⟩
    · simp only [List.length_append, List.length_singleton] at countBelow ⊢
      omega
    · rw [Function.iterate_succ_apply, first, Function.iterate_add_apply, endsBelow, ends]

theorem step_of_ended {w : Walk} (ended : w.stack = []) : Walk.step g w = w := by
  rw [Walk.step, ended]

theorem run_eq_iterate (fuel : Nat) (w : Walk) : run g fuel w = (Walk.step g)^[fuel] w := by
  induction fuel generalizing w with
  | zero => rfl
  | succ fuel ih =>
    rw [run]
    split
    · rename_i ended
      exact (Function.iterate_fixed (step_of_ended (List.isEmpty_iff.mp ended)) _).symm
    · rw [ih, Function.iterate_succ_apply]

theorem run_of_steps {w last : Walk} {steps fuel : Nat} (enough : steps ≤ fuel)
    (ended : last.stack = []) (ends : (Walk.step g)^[steps] w = last) : run g fuel w = last := by
  obtain ⟨more, rfl⟩ := Nat.exists_eq_add_of_le' enough
  rw [run_eq_iterate, Function.iterate_add_apply, ends,
    Function.iterate_fixed (step_of_ended ended)]

/-- These names and links are those of the walk from the root, in its order. -/
structure IsPreorder (g : Graph) (root : String) (tasks : List String)
    (edges : List (String × Link)) : Prop where
  /-- Stepping comes to an end, with these names and links. -/
  ends : ∃ steps, (Walk.step g)^[steps] (start g root) = ⟨tasks, edges, []⟩
  /-- They are the one result of the recursion. -/
  recursive : ∀ seen, Visits g root (g.linksOf root) ([root], []) seen ↔ seen = (tasks, edges)
  /-- The recursive function comes to them with fuel for as many nodes as there are links. -/
  computed : ∀ fuel, g.linkCount ≤ fuel → g.walkLinks fuel root (g.linksOf root)
    ([root], []) = (tasks, edges)
  once : tasks.Nodup
  reached : ∀ name, name ∈ tasks ↔ ReflTransGen g.LeadsTo root name
  /-- Each link of each of the names is there once. -/
  links : edges.Perm (tasks.flatMap g.leaving)

theorem isPreorder_of_visits {tasks : List String} {edges : List (String × Link)}
    (h : Visits g root (g.linksOf root) ([root], []) (tasks, edges)) :
    IsPreorder g root tasks edges := by
  obtain ⟨new, hnew, reached, followed⟩ := h.exists_new (List.Subset.refl _)
  obtain rfl : tasks = root :: new := hnew
  have links : edges.Perm ((root :: new).flatMap g.leaving) := by simpa [leaving] using followed
  refine ⟨?_, fun seen => ⟨fun other => other.unique h, fun same => same ▸ h⟩, ?_, ?_,
    fun name => ⟨?_, ?_⟩, links⟩
  · obtain ⟨steps, -, ends⟩ := steps_of_visits h []
    exact ⟨steps, ends⟩
  · intro fuel enough
    exact (visits_walkLinks (List.Subset.refl _)
      ((card_unreached_le_linkCount _).trans enough)).unique h
  · exact h.nodup (List.nodup_singleton root)
  · intro hname
    rcases List.mem_cons.mp hname with rfl | hname
    · exact .refl
    · exact reached name hname
  · intro hreach
    induction hreach with
    | refl => exact List.mem_cons_self
    | @tail source target _ leads ih =>
      obtain ⟨link, follow, rfl⟩ := leads
      refine h.target_mem (by simp) (source, link) (links.mem_iff.mpr ?_)
      exact List.mem_flatMap.mpr ⟨source, ih, List.mem_map_of_mem follow⟩

end Walk

namespace Graph
variable {g : Graph} {root : String}

/-- The walk has the names and links of the recursion: it takes a step for each of them, and there
are no more links than the nodes have, and no more names than links but for the root. -/
theorem visits_walk (top : g.root = some root) :
    Visits g root (g.linksOf root) ([root], []) g.walk := by
  generalize hseen : g.walkLinks (g.unreached [root]).card root (g.linksOf root) ([root], []) = seen
  have visits : Visits g root (g.linksOf root) ([root], []) seen :=
    hseen ▸ visits_walkLinks (List.Subset.refl _) (Nat.le_refl _)
  have preorder : Walk.IsPreorder g root seen.1 seen.2 := Walk.isPreorder_of_visits visits
  obtain ⟨steps, count, ends⟩ := Walk.steps_of_visits visits []
  have enough : steps ≤ 2 * g.linkCount + 2 := by
    have names := visits.length_le
    have links := preorder.links.length_eq.trans_le (length_leaving_le preorder.once)
    simp only [List.length_singleton, List.length_nil] at count names
    omega
  have walked : g.walk = seen := by
    rw [walk, top]
    dsimp only
    rw [Walk.run_of_steps enough rfl ends]
  exact walked ▸ visits

/-- Whatever the links of a graph, the walk through it ends and is the walk by recursion from the
root: each name that can be reached comes once, in the order in which it is first come to, and each
link of such a name once, in the order in which it is followed. Without a root there is nothing to
walk through. -/
theorem walk_isPreorder (g : Graph) :
    match g.root with
    | none => g.walk = ([], [])
    | some root => Walk.IsPreorder g root g.walk.1 g.walk.2 := by
  split
  · exact walk_of_no_root ‹_›
  · exact Walk.isPreorder_of_visits (visits_walk ‹_›)

/-- A node with a link to itself and two links to a node that leads back to it. -/
example (a : Activity) : Graph.walk { transaction := "t", root := some "a", nodes :=
      [("a", { activity := a, links :=
        [{ target := "b" }, { target := "a" }, { target := "b", expr := some "x" }] }),
        ("b", { activity := a, links := [{ target := "a" }] })] } =
    (["a", "b"], [("a", { target := "b" }), ("b", { target := "a" }), ("a", { target := "a" }),
      ("a", { target := "b", expr := some "x" })]) := rfl

end Graph

end LedgerFlow
