import LedgerFlow.Proofs.Graph.Course
import LedgerFlow.Proofs.Graph.Walk
import LedgerFlow.Proofs.Number.Integer

/-!
Rules appended to a transaction. All actions are recorded before any rule is linked, so the nodes of
the new actions are there while the old rules are linked. As long as their names do not look like
generated ones, the linking of the old rules does not notice them.
-/
namespace LedgerFlow
open Number Text

def EndsNumbered (name : String) : Prop :=
  ∃ lead digits, name.toList = lead ++ '_' :: digits ∧ digits ≠ [] ∧
    ∀ c ∈ digits, isDecimal c = true

namespace Builder

theorem endsNumbered_numberedName (stem : String) (n : Nat) :
    EndsNumbered (numberedName stem n) := by
  refine ⟨stem.toList, decimalDigits n, ?_, Nat.toDigits_ne_nil, fun c hc => ?_⟩
  · simp [numberedName]
  · rw [isDecimal, digitValue?_of_isDigit (isDigit_of_mem_decimalDigits hc)]
    rfl

theorem not_endsNumbered {name : String} {c : Char} (last : name.toList.getLast? = some c)
    (other : isDecimal c = false) : ¬ EndsNumbered name := by
  rintro ⟨lead, digits, htext, filled, decimal⟩
  rw [htext, List.getLast?_append_of_ne_nil _ (List.cons_ne_nil _ _),
    List.getLast?_cons_of_ne_nil filled] at last
  have digit := decimal c (List.mem_of_getLast? last)
  rw [other] at digit
  cases digit

theorem isDecimal_of_mapM {cs : List Char} {digits : List Nat}
    (read : cs.mapM digitValue? = some digits) : ∀ c ∈ cs, isDecimal c = true := by
  induction cs generalizing digits with
  | nil => simp
  | cons c cs ih =>
    simp only [List.mapM_cons, Option.bind_eq_bind, Option.bind_eq_some_iff] at read
    obtain ⟨d, value, ds, rest, -⟩ := read
    refine List.forall_mem_cons.mpr ⟨?_, ih rest⟩
    rw [isDecimal, value]
    rfl

theorem endsNumbered_of_read {stem name : String} {digits : List Nat}
    (read : explicitDigits? stem name = some digits) : EndsNumbered name := by
  simp only [explicitDigits?] at read
  split at read
  · rename_i leads
    obtain ⟨rest, hrest⟩ := List.isPrefixOf_iff_prefix.mp leads
    rw [← hrest, List.drop_left] at read
    split at read
    · cases read
    · rename_i filled
      refine ⟨stem.toList, rest, ?_, fun h => filled (by simp [h]), fun c hc => ?_⟩
      · rw [← hrest, List.append_assoc, List.singleton_append]
      · exact isDecimal_of_mapM read c hc
  · cases read

/-- Two builders that agree but for nodes under some names, which only the second has and which have
no place. -/
structure Beside (names : List String) (b b' : Builder) : Prop where
  activities : b'.activities = b.activities
  sequence : b'.sequence = b.sequence
  root : b'.root = b.root
  start : b'.start = b.start
  same : ∀ name, name ∉ names → b'.nodes.get? name = b.nodes.get? name
  absent : ∀ name ∈ names, b.nodes.get? name = none
  unplaced : ∀ name ∈ names, ∀ node, b'.nodes.get? name = some node → node.linked = false

/-- Whatever the second step comes to from the second builder, the first comes to from the first. -/
def Matches (names : List String) {α : Type} (step step' : Build α) (b b' : Builder) : Prop :=
  ∀ a c', Runs step' b' a c' → ∃ c, Runs step b a c ∧ Beside names c c'

section Matches
variable {α β : Type} {names : List String} {b b' : Builder}

theorem matches_pure {a : α} (beside : Beside names b b') :
    Matches names (pure a) (pure a) b b' := by
  intro _ _ run
  obtain ⟨rfl, rfl⟩ := runs_pure.mp run
  exact ⟨b, runs_pure.mpr ⟨rfl, rfl⟩, beside⟩

theorem matches_throw {step : Build α} {e : Error} : Matches names step (throw e) b b' :=
  fun _ _ run => absurd run not_runs_throw

theorem matches_bind {x x' : Build α} {f f' : α → Build β} (first : Matches names x x' b b')
    (rest : ∀ a c c', Runs x' b' a c' → Beside names c c' → Matches names (f a) (f' a) c c') :
    Matches names (x >>= f) (x' >>= f') b b' := by
  intro result d' run
  obtain ⟨a, c', run, more⟩ := runs_bind.mp run
  obtain ⟨c, run', beside⟩ := first a c' run
  obtain ⟨d, more', beside'⟩ := rest a c c' run beside result d' more
  exact ⟨d, runs_bind.mpr ⟨a, c, run', more'⟩, beside'⟩

theorem matches_get {f f' : Builder → Build β} (rest : Matches names (f b) (f' b') b b') :
    Matches names (get >>= f) (get >>= f') b b' := by
  intro result d' run
  obtain ⟨_, _, ⟨rfl, rfl⟩, more⟩ := by simpa only [runs_bind, runs_get] using run
  obtain ⟨d, more', beside⟩ := rest result d' more
  exact ⟨d, runs_bind.mpr ⟨b, b, runs_get.mpr ⟨rfl, rfl⟩, more'⟩, beside⟩

theorem matches_modify {f f' : Builder → Builder} (beside : Beside names (f b) (f' b')) :
    Matches names (modify f) (modify f') b b' := by
  intro _ _ run
  obtain rfl := runs_modify.mp run
  exact ⟨f b, runs_modify.mpr rfl, beside⟩

theorem matches_forEach {step : α → Build Unit} {as : List α} (beside : Beside names b b')
    (each : ∀ a ∈ as, ∀ c c', Beside names c c' → Matches names (step a) (step a) c c') :
    Matches names (forEach as step) (forEach as step) b b' := by
  induction as generalizing b b' with
  | nil => exact matches_pure beside
  | cons a as ih =>
    obtain ⟨first, later⟩ := List.forall_mem_cons.mp each
    rw [forEach_cons]
    exact matches_bind (first b b' beside) fun _ c c' _ beside' => ih beside' later

end Matches

namespace Beside
variable {names : List String} {b b' : Builder} {name : String} {action : Action}

theorem mem_keys_iff (beside : Beside names b b') (other : name ∉ names) :
    name ∈ b'.nodes.keys ↔ name ∈ b.nodes.keys := by
  rw [← Table.contains_iff_mem_keys, ← Table.contains_iff_mem_keys, Table.contains, Table.contains,
    beside.same name other]

theorem lastNumber_eq (beside : Beside names b b') (stem : String) :
    b'.lastNumber stem = b.lastNumber stem := by
  rw [lastNumber, lastNumber, beside.sequence]

theorem insert (beside : Beside names b b') (other : name ∉ names) (node : Node) :
    Beside names { b with nodes := b.nodes.insert name node }
      { b' with nodes := b'.nodes.insert name node } := by
  refine { beside with same := fun key hkey => ?_, absent := fun key hkey => ?_, unplaced :=
    fun key hkey => ?_ }
  · by_cases h : key = name
    · rw [h, Table.get?_insert_self, Table.get?_insert_self]
    · rw [Table.get?_insert_of_ne h, Table.get?_insert_of_ne h, beside.same key hkey]
  · have h : key ≠ name := fun h => other (h ▸ hkey)
    rw [Table.get?_insert_of_ne h, beside.absent key hkey]
  · have h : key ≠ name := fun h => other (h ▸ hkey)
    rw [Table.get?_insert_of_ne h]
    exact beside.unplaced key hkey

theorem numbered (beside : Beside names b b') (stem : String) (n : Nat) :
    Beside names { b with sequence := b.sequence.insert stem n }
      { b' with sequence := b'.sequence.insert stem n } :=
  { beside with sequence := congrArg (·.insert stem n) beside.sequence }

theorem updateNode (beside : Beside names b b') {f : Node → Node}
    (unplaced : name ∉ names ∨ ∀ node, (f node).linked = node.linked) :
    Matches names (updateNode name f) (updateNode name f) b b' := by
  refine matches_modify ?_
  refine { beside with same := fun key hkey => ?_, absent := fun key hkey => ?_, unplaced :=
    fun key hkey => ?_ }
  · rw [Table.get?_update, Table.get?_update, beside.same key hkey]
  · rw [Table.get?_update, beside.absent key hkey, Option.map_none]
  · intro node found
    rw [Table.get?_update] at found
    obtain ⟨node', found', rfl⟩ := Option.map_eq_some_iff.mp found
    have before := beside.unplaced key hkey node' found'
    split
    · rename_i h
      rcases unplaced with other | same
      · exact absurd (h ▸ hkey) other
      · rw [same, before]
    · exact before

theorem findActivity (beside : Beside names b b') (ref : String) :
    Matches names (findActivity ref) (findActivity ref) b b' := by
  refine matches_get ?_
  rw [beside.activities]
  split
  · exact matches_pure beside
  · exact matches_throw

theorem register (beside : Beside names b b') (own : ∀ name ∈ action.name, name ∉ names) :
    Matches names (register action) (register action) b b' := by
  unfold Builder.register
  refine matches_bind (beside.findActivity _) fun activity c c' _ beside => ?_
  split
  · exact matches_pure beside
  · rename_i name named
    have other := own name named
    refine matches_get ?_
    rw [Table.contains, Table.contains, beside.same name other]
    split
    · exact matches_throw
    · refine matches_bind (matches_modify (beside.insert other _)) fun _ d d' _ beside' => ?_
      dsimp only
      rw [beside.lastNumber_eq]
      split
      · exact matches_pure beside'
      · split
        · split
          · exact matches_modify (beside'.numbered _ _)
          · exact matches_pure beside'
        · exact matches_throw

variable (plain : ∀ name ∈ names, ¬ EndsNumbered name)
include plain

theorem recorded (beside : Beside names b b') {c' : Builder}
    (own : ∀ name ∈ action.name, name ∈ names)
    (recorded : Recorded b' action c') : Beside names b c' := by
  cases recorded with
  | unnamed => exact beside
  | @named name activity named known fresh =>
    have mem := own name named
    have unread : explicitDigits? activity.sequencePrefix name = none := by
      cases read : explicitDigits? activity.sequencePrefix name with
      | none => rfl
      | some digits => exact absurd (endsNumbered_of_read read) (plain name mem)
    rw [noted_of_not_read unread]
    refine { beside with same := fun key hkey => ?_, unplaced := fun key hkey node found => ?_ }
    · rw [nodes_withNode, Table.get?_append, beside.same key hkey,
        Table.get?_cons_of_ne (fun h : name = key => hkey (h ▸ mem)), Table.get?_nil,
          Option.or_none]
    · rw [nodes_withNode, Table.get?_append] at found
      rcases Option.or_eq_some_iff.mp found with old | ⟨-, new⟩
      · exact beside.unplaced key hkey node old
      · obtain ⟨rfl, rfl⟩ := Prod.mk.inj (List.mem_singleton.mp (Table.mem_of_get? new))
        rfl

theorem recordedAll {actions : List Action} {c' : Builder} {u : PUnit} (beside : Beside names b b')
    (own : ∀ action ∈ actions, ∀ name ∈ action.name, name ∈ names)
    (run : Runs (forEach actions Builder.register) b' u c') : Beside names b c' := by
  induction actions generalizing b' with
  | nil =>
    obtain rfl := runs_forIn_nil.mp run
    exact beside
  | cons action actions ih =>
    obtain ⟨first, later⟩ := List.forall_mem_cons.mp own
    obtain ⟨d', run₁, run⟩ := runs_forIn_cons.mp run
    exact ih (beside.recorded plain first ((ends_register action).of_runs run₁)) later run

theorem nextName (beside : Beside names b b') (activity : Activity) :
    Matches names (nextName activity) (nextName activity) b b' := by
  intro name c' run
  have next := nextNumber_freeNumber b activity.sequencePrefix
  have next' := nextNumber_freeNumber b' activity.sequencePrefix
  -- No name that only the second builder has is one that the search comes to.
  have same := next.unique next' (beside.lastNumber_eq _) fun k =>
    beside.mem_keys_iff fun h => plain _ h (endsNumbered_numberedName _ k)
  rw [← same] at next'
  unfold Runs at run ⊢
  rw [outcome_nextName next'] at run
  rw [outcome_nextName next]
  split at run
  · rename_i writable
    obtain ⟨hname, rfl⟩ := Prod.mk.inj run
    rw [if_pos writable]
    exact ⟨_, Prod.ext hname rfl, beside.numbered _ _⟩
  · cases (Prod.mk.inj run).1

theorem not_mem_of_nextName {activity : Activity} {c' : Builder}
    (run : Runs (Builder.nextName activity) b' name c') : name ∉ names := by
  obtain ⟨n, -, rfl, -⟩ := (ends_nextName activity []).of_runs run
  exact fun h => plain _ h (endsNumbered_numberedName _ n)

theorem newNoop (beside : Beside names b b') : Matches names newNoop newNoop b b' := by
  rw [newNoop_eq]
  refine matches_bind (beside.findActivity noopRef) fun activity c c' _ beside => ?_
  refine matches_bind (beside.nextName plain activity) fun name d d' run beside => ?_
  have other := not_mem_of_nextName plain run
  exact matches_bind (matches_modify (beside.insert other _)) fun _ _ _ _ => matches_pure

theorem startNode (beside : Beside names b b') : Matches names startNode startNode b b' := by
  refine matches_get ?_
  rw [beside.start]
  split
  · exact matches_pure beside
  · rw [beside.root]
    split
    · exact matches_throw
    · refine matches_bind (beside.newNoop plain) fun name c c' _ beside => ?_
      exact matches_bind (matches_modify { beside with root := rfl, start := rfl }) fun _ _ _ _ =>
        matches_pure

theorem resolveBranch (beside : Beside names b b') (prerequisite : String) :
    Matches names (resolveBranch prerequisite) (resolveBranch prerequisite) b b' := by
  unfold Builder.resolveBranch
  split
  · exact beside.startNode plain
  · refine matches_get ?_
    by_cases h : prerequisite ∈ names
    · cases found : b'.nodes.get? prerequisite with
      | none => exact matches_throw
      | some node =>
        simp only [beside.unplaced prerequisite h node found, Bool.not_false, ↓reduceIte]
        exact matches_throw
    · rw [beside.same prerequisite h]
      split
      · exact matches_throw
      · split
        · exact matches_throw
        · split
          · exact matches_pure beside
          · split
            · exact matches_pure beside
            · refine matches_bind (beside.newNoop plain) fun name c c' _ beside => ?_
              exact matches_bind (beside.updateNode (.inr fun _ => rfl)) fun _ _ _ _ => matches_pure

theorem nodeOf (beside : Beside names b b') :
    Matches names (nodeOf action) (nodeOf action) b b' := by
  unfold Builder.nodeOf
  split
  · exact matches_pure beside
  · refine matches_bind (beside.findActivity _) fun activity c c' _ beside => ?_
    refine matches_bind (beside.nextName plain activity) fun name d d' run beside => ?_
    have other := not_mem_of_nextName plain run
    exact matches_bind (matches_modify (beside.insert other _)) fun _ _ _ _ => matches_pure

theorem linkAction (beside : Beside names b b') (own : ∀ name ∈ action.name, name ∉ names)
    (previous expr : Option String) :
    Matches names (linkAction previous expr action) (linkAction previous expr action) b b' := by
  unfold Builder.linkAction
  refine matches_bind (beside.nodeOf plain) fun name c c' run beside => ?_
  have other : name ∉ names := by
    rcases (ends_nodeOf action).of_runs run with ⟨named, -⟩ | ⟨-, issued⟩
    · exact own name named
    · cases issued
      exact fun h => plain _ h (endsNumbered_numberedName _ _)
  cases previous with
  | none =>
    refine matches_get ?_
    rw [beside.root]
    split
    · exact matches_throw
    · refine matches_bind (matches_modify { beside with root := rfl }) fun _ d d' _ beside => ?_
      exact matches_bind (beside.updateNode (.inl other)) fun _ _ _ _ => matches_pure
  | some source =>
    refine matches_bind (beside.updateNode (.inr fun _ => rfl)) fun _ d d' _ beside => ?_
    exact matches_bind (beside.updateNode (.inl other)) fun _ _ _ _ => matches_pure

theorem linkActions {actions : List Action} (beside : Beside names b b')
    (own : ∀ action ∈ actions, ∀ name ∈ action.name, name ∉ names) (previous expr : Option String) :
    Matches names (linkActions previous expr actions) (linkActions previous expr actions) b b' := by
  induction actions generalizing b b' previous expr with
  | nil => exact matches_pure beside
  | cons action actions ih =>
    obtain ⟨first, later⟩ := List.forall_mem_cons.mp own
    unfold Builder.linkActions
    exact matches_bind (beside.linkAction plain first previous expr) fun name c c' _ beside =>
      ih beside later (some name) none

theorem linkRule {rule : Rule} (beside : Beside names b b')
    (own : ∀ action ∈ rule.actions, ∀ name ∈ action.name, name ∉ names) :
    Matches names (linkRule rule) (linkRule rule) b b' := by
  unfold Builder.linkRule
  split
  · exact beside.linkActions plain own none none
  · exact matches_bind (beside.resolveBranch plain _) fun source c c' _ beside =>
      beside.linkActions plain own (some source) _

end Beside

variable {activities : Activities} {t : Transaction} {more : List Rule} {b' : Builder}

theorem Stage.withoutAppended
    (stage : Stage activities { t with rules := t.rules ++ more } t.rules b')
    (plain : ∀ name ∈ ownNames more, ¬ EndsNumbered name) :
    ∃ b, Stage activities t t.rules b ∧ Beside (ownNames more) b b' := by
  obtain ⟨b₀', record, link⟩ := stage
  -- The new names are not those of the old rules, or the recording would have failed.
  have apart : ∀ action ∈ t.rules.flatMap (·.actions), ∀ name ∈ action.name, name ∉
      ownNames more := by
    have recording := recording_of_runs record
    have distinct := recording.distinct
    rw [recording.nodes.keys_eq] at distinct
    change (ownNames (t.rules ++ more)).Nodup at distinct
    rw [ownNames_append, List.nodup_append'] at distinct
    exact fun action mem name named h => distinct.2.2 (mem_ownNames.mpr ⟨action, mem, named⟩) h
  have opened : Beside (ownNames more) (opened activities t)
      (opened activities { t with rules := t.rules ++ more }) :=
    ⟨rfl, rfl, rfl, rfl, fun _ _ => rfl, fun _ _ => rfl, fun _ _ _ found => by cases found⟩
  -- Both builders record the old actions, the second alone the new ones, and then both link the old
  -- rules.
  rw [recordAll, List.flatMap_append, forEach_append] at record
  obtain ⟨_, c', record₁, record₂⟩ := runs_bind.mp record
  obtain ⟨b₀, record', beside₀⟩ := matches_forEach opened
    (fun action mem c c' beside => beside.register (apart action mem)) _ _ record₁
  have beside := beside₀.recordedAll plain
    (fun action mem name named => mem_ownNames.mpr ⟨action, mem, named⟩) record₂
  obtain ⟨b, link', beside'⟩ := matches_forEach beside
    (fun rule mem c c' beside => beside.linkRule plain fun action taken =>
      apart action (List.mem_flatMap.mpr ⟨rule, mem, taken⟩)) _ _ link
  exact ⟨b, ⟨b₀, record', link'⟩, beside'⟩

end Builder

namespace Graph
open Builder
variable {activities : Activities} {t : Transaction} {g : Graph}

theorem walk_perm_keys (built : ofTransaction activities t = .ok g) :
    g.walk.1.Perm g.nodes.keys := by
  obtain ⟨b, named, finished, -, hg⟩ := exists_finished built
  have tree : Tree g.root (linksIn g.nodes) g.nodes.keys := by
    rw [hg]
    exact finished.tree
  cases top : g.root with
  | none =>
    rw [top] at tree
    rw [walk_of_no_root top, tree.eq_nil.2]
  | some root => exact (walk_of_tree top (distinct_keys built) tree).2

theorem linksOf_prefix {g' : Graph} (nodes : ∀ name node, g.nodes.get? name = some node →
    ∃ node', g'.nodes.get? name = some node' ∧ node.Grows node') (name : String) :
    g.linksOf name <+: g'.linksOf name := by
  unfold linksOf
  cases found : g.nodes.get? name with
  | none => exact List.nil_prefix
  | some node =>
    obtain ⟨node', found', grows⟩ := nodes name node found
    rw [found']
    exact grows.links

/-- Appended rules whose actions have no names that look like generated ones leave the graph of the
rules before them as it is, and add to it. -/
theorem ofTransaction_appended {more : List Rule} {g' : Graph}
    (built : ofTransaction activities { t with rules := t.rules ++ more } = .ok g')
    (plain : ∀ rule ∈ more, ∀ action ∈ rule.actions, ∀ name ∈ action.name, ¬ EndsNumbered name) :
    ∃ g, ofTransaction activities t = .ok g ∧
      (∀ name node, g.nodes.get? name = some node → ∃ node', g'.nodes.get? name = some node' ∧
        node.Grows node') ∧
      (∀ name, g.linksOf name <+: g'.linksOf name) ∧
      g.walk.1 ⊆ g'.walk.1 ∧ linksIn g.nodes ⊆ linksIn g'.nodes ∧
      ∀ root ∈ g.root, g'.root = some root := by
  have plain : ∀ name ∈ ownNames more, ¬ EndsNumbered name := by
    intro name mem
    obtain ⟨action, mem, named⟩ := mem_ownNames.mp mem
    obtain ⟨rule, ruled, taken⟩ := List.mem_flatMap.mp mem
    exact plain rule ruled action taken name named
  obtain ⟨d', stage, rfl⟩ := ofTransaction_eq_ok_iff.mp built
  obtain ⟨c', first, rest⟩ := stage.exists_before
  obtain ⟨c, stage', beside⟩ := first.withoutAppended plain
  have grows := grows_of_moves (moves_of_linkAll rest)
  have alone := ofTransaction_eq_ok_iff.mpr ⟨c, stage', rfl⟩
  have nodes : ∀ name node, c.nodes.get? name = some node →
      ∃ node', d'.nodes.get? name = some node' ∧ node.Grows node' := by
    intro name node found
    have other : name ∉ ownNames more := fun h => by simp [beside.absent name h] at found
    exact grows.nodes name node ((beside.same name other).trans found)
  refine ⟨_, alone, nodes, linksOf_prefix nodes, ?_, ?_, ?_⟩
  · intro name mem
    obtain ⟨node, found⟩ := Table.exists_get?_of_mem_keys ((walk_perm_keys alone).subset mem)
    obtain ⟨node', found', -⟩ := nodes name node found
    exact (walk_perm_keys built).symm.subset (Table.mem_keys_of_get? found')
  · intro entry mem
    obtain ⟨node, hnode, hlink⟩ := mem_linksIn.mp mem
    obtain ⟨node', found', grows⟩ := nodes _ node (Table.get?_of_mem (distinct_keys alone) hnode)
    exact mem_linksIn.mpr ⟨node', Table.mem_of_get? found', grows.links.subset hlink⟩
  · exact fun root top => grows.root root (beside.root ▸ top)

end Graph

def Transaction.sale : Transaction where
  name := "Sale"
  rules := [{ actions := [{ activity := "#get", name := some "stock" }, { activity := "#put" }] }]

def Rule.audit : Rule where
  condition := some { prerequisite := "put_1", expr := "$audited" }
  actions := [{ activity := "#log", name := some "audit" }, { activity := "#put" }]

def Transaction.auditedSale : Transaction :=
  { Transaction.sale with rules := Transaction.sale.rules ++ [.audit] }

theorem Graph.ofTransaction_appended_audit :
    ∃ g g', ofTransaction .builtin .sale = .ok g ∧ ofTransaction .builtin .auditedSale = .ok g' ∧
      linksIn g'.nodes =
        [("stock", { target := "put_1" }), ("audit", { target := "put_2" }),
          ("put_1", { target := "noop_1" }),
         ("noop_1", { target := "audit", expr := some "$audited" })] ∧
      g'.root = some "stock" ∧ linksIn g.nodes ⊆ linksIn g'.nodes ∧
        ∀ name, g.linksOf name <+: g'.linksOf name := by
  have known : (ofTransaction .builtin .auditedSale).toOption.map
    (fun g => (linksIn g.nodes, g.root)) =
        some ([("stock", { target := "put_1" }), ("audit", { target := "put_2" }),
          ("put_1", { target := "noop_1" }),
            ("noop_1", { target := "audit", expr := some "$audited" })], some "stock") := by
    decide +kernel
  have plain : ¬ EndsNumbered "audit" := Builder.not_endsNumbered (c := 't') (by decide) (by decide)
  cases built : ofTransaction .builtin .auditedSale with
  | error e =>
    rw [built] at known
    cases known
  | ok g' =>
    rw [built] at known
    obtain ⟨links, root⟩ := Prod.mk.inj (Option.some.inj known)
    obtain ⟨g, alone, -, prefixes, -, kept, -⟩ :=
      ofTransaction_appended (t := .sale) built (by simpa [Rule.audit] using plain)
    exact ⟨g, g', alone, rfl, links, root, kept, prefixes⟩

end LedgerFlow
