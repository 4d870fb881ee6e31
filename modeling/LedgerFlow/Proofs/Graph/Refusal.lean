import LedgerFlow.Proofs.Graph.Course
import LedgerFlow.Proofs.Number.Integer

/-!
Why a transaction has no graph: two of its actions have the same name, or there is a first rule that
cannot hang where it should. Beside that only a number that is too long to be written can be in the
way.
-/
namespace LedgerFlow
namespace Builder
open LedgerFlow.Graph Number Text

def Started (b : Builder) : Prop := ∀ start ∈ b.start, start ∈ b.root

variable {b b' : Builder} {rule : Rule} {e : Error}

theorem Move.started (move : Move b b') (started : Started b) : Started b' := by
  cases move with
  | issue _ issued =>
    cases issued
    exact started
  | change => exact started
  | root empty =>
    intro start h
    have top := started start h
    rw [empty] at top
    cases top
  | start => exact fun start h => h

theorem started_of_moves (moves : Moves b b') (started : Started b) : Started b' := by
  induction moves with
  | refl => exact started
  | tail _ move ih => exact move.started ih

theorem Stage.started {activities : Activities} {t : Transaction} {rules : List Rule}
    (stage : Stage activities t rules b) : Started b := by
  obtain ⟨b₀, record, link⟩ := stage
  refine started_of_moves (moves_of_linkAll link) fun start h => ?_
  rw [(recording_of_runs record).start] at h
  cases h

/-- A rule that is refused is not linked, and it fails for that if it comes so far. -/
theorem Refused.ends (started : Started b) (refused : Refused b.transaction b rule e) :
    Ends (linkRule rule) b (fun _ _ => False) fun e' => e' = e ∨
      Lacks b.activities (references rule) e' := by
  unfold linkRule
  cases refused with
  | @undefined condition conditioned named unplaced =>
    simp only [conditioned, resolveBranch, if_neg named, ends_bind, ends_get]
    cases found : b.nodes.get? condition.prerequisite with
    | none => exact ends_throw.mpr (.inl rfl)
    | some node =>
      cases linked : node.linked with
      | false =>
        simp only [linked, Bool.not_false, ↓reduceIte]
        exact ends_throw.mpr (.inl rfl)
      | true => exact absurd ⟨node, found, linked⟩ unplaced
  | @lateStart condition root conditioned empty top other =>
    simp only [conditioned, resolveBranch, if_pos empty, startNode, ends_bind, ends_get]
    cases start : b.start with
    | some name =>
      have same := started name start
      rw [top] at same
      exact absurd (start.trans same.symm) other
    | none =>
      simp only [top]
      exact ends_throw.mpr (.inl rfl)
  | @secondEntry first rest root unconditioned acts top =>
    simp only [unconditioned, acts, linkActions, linkAction, ends_bind]
    refine (ends_nodeOf first).imp (fun name b₁ entered => ?_) fun e' lacks => .inr (lacks.mono ?_)
    · obtain ⟨moves, same, named⟩ := entered_effect entered
      have transaction := (grows_of_moves moves).transaction
      simp only [ends_get, same, top]
      exact ends_throw.mpr (.inl (by rw [transaction, named]))
    · simp [references, acts]

theorem Lacks.eq_integerUnwritable {activities : Activities} {refs : List String}
    (lacks : Lacks activities refs e)
    (known : ∀ ref ∈ refs, ∃ activity, activities.find ref = .ok activity) :
    e = .integerUnwritable := by
  cases lacks with
  | activity used missing =>
    obtain ⟨activity, found⟩ := known _ used
    rw [found] at missing
    cases missing
  | number => rfl

section Known
variable (known : ∀ ref ∈ references rule, ∃ activity, b.activities.find ref = .ok activity)
include known

theorem refused_of_fails (failed : Fails (linkRule rule) b e) :
    Refused b.transaction b rule e ∨ e = .integerUnwritable :=
  ((ends_linkRule rule).of_error failed).imp_right fun lacks => lacks.eq_integerUnwritable known

theorem Refused.fails (started : Started b) (refused : Refused b.transaction b rule e) :
    Fails (linkRule rule) b e ∨ Fails (linkRule rule) b .integerUnwritable := by
  obtain ⟨e', failed, rfl | lacks⟩ := (refused.ends started).exists_fails
  · exact .inl failed
  · exact .inr (lacks.eq_integerUnwritable known ▸ failed)

end Known

def Readable (activities : Activities) (actions : List Action) : Prop :=
  ∀ action ∈ actions, ∀ activity, activities.find action.activity = .ok activity →
    ∀ name ∈ action.name,
    ∀ digits ∈ explicitDigits? activity.sequencePrefix name, digits.length ≤ digitLimit

variable {activities : Activities} {t : Transaction} {rules : List Rule}

theorem duplicate_of_fails_recordAll
    (known : ∀ action ∈ rules.flatMap (·.actions), ∃ activity,
      activities.find action.activity = .ok activity)
    (readable : Readable activities (rules.flatMap (·.actions)))
    (failed : Fails (recordAll rules) (opened activities t) e) :
    (∃ name, e = .duplicateName name t.name) ∧ ¬ (ownNames rules).Nodup := by
  obtain ⟨before, action, after, b, split, record, failed⟩ := fails_forEach.mp failed
  have recording := (recording_opened activities t).run record
  have transaction : b.transaction = t := (grows_of_records record).transaction
  have taken : action ∈ rules.flatMap (·.actions) :=
    split ▸ List.mem_append_right _ List.mem_cons_self
  cases (ends_register action).of_error failed with
  | unknown missing =>
    obtain ⟨activity, found⟩ := known action taken
    rw [recording.same, found] at missing
    cases missing
  | tooLong own found read long =>
    rw [recording.same] at found
    exact absurd (readable action taken _ found _ own _ read) (Nat.not_le_of_lt long)
  | @duplicate name own repeated =>
    refine ⟨⟨name, by rw [transaction]⟩, fun distinct => ?_⟩
    rw [recording.nodes.keys_eq, List.nil_append] at repeated
    rw [ownNames, split, explicit_append, explicit_cons_named own, Table.keys_append,
      List.nodup_append'] at distinct
    exact distinct.2.2 repeated List.mem_cons_self

theorem runs_recordAll
    (known : ∀ action ∈ rules.flatMap (·.actions), ∃ activity,
      activities.find action.activity = .ok activity)
    (readable : Readable activities (rules.flatMap (·.actions)))
    (distinct : (ownNames rules).Nodup) :
    ∃ b, Runs (recordAll rules) (opened activities t) PUnit.unit b := by
  rcases runs_or_fails (recordAll rules) (opened activities t) with ⟨_, b, run⟩ | ⟨e, failed⟩
  · exact ⟨b, run⟩
  · exact absurd distinct (duplicate_of_fails_recordAll known readable failed).2

theorem distinct_of_runs_recordAll {u : PUnit}
    (run : Runs (recordAll rules) (opened activities t) u b) : (ownNames rules).Nodup := by
  have recording := recording_of_runs run
  rw [ownNames, ← recording.nodes.keys_eq]
  exact recording.distinct

/-- A rule is refused when the rules before it have been linked. -/
def Blocked (activities : Activities) (t : Transaction) (e : Error) : Prop :=
  ∃ before rule after b, t.rules = before ++ rule :: after ∧ Stage activities t before b ∧
    Refused t b rule e

/-- What has a place when these rules have been linked: their actions, under these names, and the
nodes that were put in for them. -/
structure Laid (b : Builder) (rules : List Rule)
    (named : List (Rule × List (String × Action))) : Prop where
  all : named.map (·.1) = rules
  naming : ∀ entry ∈ named, Naming entry.1.actions entry.2
  performs : ∀ task ∈ named.flatMap (·.2), ∃ node, b.nodes.get? task.1 =
    some node ∧ node.action = some task.2
  placed : ∀ name, b.Placed name ↔ name ∈ (named.flatMap (·.2)).map (·.1) ∨ name ∈ noopsIn b.nodes
  root : b.root = none ↔ ∀ name, ¬ b.Placed name
  start : b.start.isSome ↔ "" ∈ rules.flatMap Rule.prerequisites

theorem placed_iff (distinct : b.nodes.keys.Nodup) {name : String} :
    b.Placed name ↔ name ∈ placedIn b.nodes := by
  rw [mem_placedIn]
  constructor
  · rintro ⟨node, found, linked⟩
    exact ⟨node, Table.mem_of_get? found, linked⟩
  · rintro ⟨node, mem, linked⟩
    exact ⟨node, Table.get?_of_mem distinct mem, linked⟩

theorem Stage.exists_laid {after : List Rule} (split : t.rules = rules ++ after)
    (stage : Stage activities t rules b) : ∃ named, Laid b rules named := by
  obtain ⟨b₀, record, link⟩ := stage
  rw [recordAll, forEach_flatMap] at record
  obtain ⟨woven, steady⟩ := (Woven.empty t activities true).registerRules record
  rw [split, List.flatMap_append, List.nil_append] at woven
  obtain ⟨named, all, hnamed, -, woven', branched⟩ :=
    woven.linkRules link ((Branched.empty t activities true).of_steady steady)
  refine ⟨named, all, fun entry h => (hnamed entry h).1, fun task h => ?_, fun name => ?_, ?_, ?_⟩
  · obtain ⟨node, found, haction, -⟩ := woven'.exists_node (List.mem_append_left _ h)
    exact ⟨node, found, haction⟩
  · rw [placed_iff woven'.distinct, woven'.placed.mem_iff, List.mem_append, List.nil_append]
  · constructor
    · intro empty name placed
      have tree := woven'.tree
      rw [empty] at tree
      rw [placed_iff woven'.distinct, tree.eq_nil.2] at placed
      cases placed
    · intro none
      cases top : b.root with
      | none => rfl
      | some root => exact absurd ((placed_iff woven'.distinct).mpr
          (woven'.root_mem top)) (none root)
  · exact ⟨branched.starts, fun used => branched.entries "" used⟩

theorem mapM_digitValue? {cs : List Char} (digits : ∀ c ∈ cs, c.isDigit = true) :
    cs.mapM digitValue? = some (cs.map fun c => c.toNat - '0'.toNat) := by
  induction cs with
  | nil => rfl
  | cons c cs ih =>
    obtain ⟨first, later⟩ := List.forall_mem_cons.mp digits
    rw [List.mapM_cons, digitValue?_of_isDigit first, ih later]
    rfl

theorem explicitDigits?_numberedName (stem : String) (n : Nat) :
    explicitDigits? stem (numberedName stem n) =
      some ((decimalDigits n).map fun c => c.toNat - '0'.toNat) := by
  have chars : (numberedName stem n).toList = (stem.toList ++ ['_']) ++ decimalDigits n := by
    simp [numberedName]
  have filled : (decimalDigits n).isEmpty = false :=
    List.isEmpty_eq_false_iff.mpr Nat.toDigits_ne_nil
  simp only [explicitDigits?]
  rw [chars, if_pos (List.isPrefixOf_iff_prefix.mpr (List.prefix_append _ _)),
    List.drop_left, filled]
  exact mapM_digitValue? fun _ => isDigit_of_mem_decimalDigits

theorem ends_nextName_of_full {activity : Activity} {stem : String}
    (prefixed : activity.sequencePrefix = stem) (same : b'.sequence = b.sequence)
    (full : writableLimit ≤ b.lastNumber stem + 1) :
    Ends (nextName activity) b' (fun _ _ => False) (· = .integerUnwritable) := by
  have last : b'.lastNumber activity.sequencePrefix = b.lastNumber stem := by
    rw [lastNumber, lastNumber, prefixed, same]
  have later := (nextNumber_freeNumber b' activity.sequencePrefix).later
  simp only [nextName, setNumber, ends_bind, ends_get]
  split
  · rename_i writable
    omega
  · simp only [ends_bind, ends_modify, ends_throw]

end Builder

namespace Graph
open Builder Number
variable {activities : Activities} {t : Transaction}

section Known
variable (noop : ∃ activity, activities.find noopRef = .ok activity)
  (known : ∀ action ∈ t.rules.flatMap (·.actions), ∃ activity,
    activities.find action.activity = .ok activity)
include noop known

theorem stage_known {before after : List Rule} {rule : Rule} {b : Builder}
    (split : t.rules = before ++ rule :: after) (stage : Stage activities t before b) :
    b.transaction = t ∧ ∀ ref ∈ references rule, ∃ activity, b.activities.find ref =
      .ok activity := by
  refine ⟨stage.grows.transaction, ?_⟩
  rw [stage.grows.activities]
  refine List.forall_mem_cons.mpr ⟨noop, fun ref mem => ?_⟩
  obtain ⟨action, taken, rfl⟩ := List.mem_map.mp mem
  have ruled : rule ∈ t.rules := split ▸ List.mem_append_right _ List.mem_cons_self
  exact known action (List.mem_flatMap.mpr ⟨rule, ruled, taken⟩)

/-- With different names all actions are recorded, so a failure comes from the linking. -/
theorem blocked_of_error (readable : Readable activities (t.rules.flatMap (·.actions)))
    (distinct : (ownNames t.rules).Nodup) {e : Error}
    (failed : ofTransaction activities t = .error e) :
    Blocked activities t e ∨ e = .integerUnwritable := by
  rcases ofTransaction_eq_error_iff.mp failed with
    failed | ⟨before, rule, after, b, split, stage, failed⟩
  · exact absurd distinct (duplicate_of_fails_recordAll known readable failed).2
  · obtain ⟨transaction, found⟩ := stage_known noop known split stage
    have refused := refused_of_fails found failed
    rw [transaction] at refused
    exact refused.imp_left fun refused => ⟨before, rule, after, b, split, stage, refused⟩

theorem error_of_blocked {e : Error} (blocked : Blocked activities t e) :
    ofTransaction activities t = .error e ∨
      ofTransaction activities t = .error .integerUnwritable := by
  obtain ⟨before, rule, after, b, split, stage, refused⟩ := blocked
  obtain ⟨transaction, found⟩ := stage_known noop known split stage
  have fails {e' : Error} (failed : Fails (linkRule rule) b e') :
      ofTransaction activities t = .error e' :=
    ofTransaction_eq_error_iff.mpr (.inr ⟨before, rule, after, b, split, stage, failed⟩)
  exact (Refused.fails found stage.started (transaction ▸ refused)).imp fails fails

end Known

/-- A transaction fails to be linked exactly for two actions with the same name or, if there are
none, for the first rule that is refused, as long as no number gets too long to be written. -/
theorem ofTransaction_refused (noop : ∃ activity, activities.find noopRef = .ok activity)
    (known : ∀ action ∈ t.rules.flatMap (·.actions), ∃ activity,
      activities.find action.activity = .ok activity)
    (readable : Readable activities (t.rules.flatMap (·.actions))) :
    ((∃ name, ofTransaction activities t = .error (.duplicateName name t.name)) ↔
      ¬ (ownNames t.rules).Nodup) ∧
    (ofTransaction activities t = .error .integerUnwritable →
      ∃ stem, writableLimit ≤ largestNumber activities t stem + nodeLimit t.rules) ∧
    ((ownNames t.rules).Nodup → ofTransaction activities t ≠ .error .integerUnwritable →
      (∀ e, ofTransaction activities t = .error e ↔ Blocked activities t e) ∧
      ((∃ g, ofTransaction activities t = .ok g) ↔ ∀ e, ¬ Blocked activities t e)) ∧
    ∀ before after b, t.rules = before ++ after → Stage activities t before b →
      ∃ named, Laid b before named := by
  refine ⟨⟨?_, ?_⟩, ?_, ?_, fun before after b split stage => stage.exists_laid split⟩
  · rintro ⟨name, failed⟩ distinct
    rcases blocked_of_error noop known readable distinct failed with ⟨_, _, _, _, _, _, refused⟩ | h
    · cases refused
    · cases h
  · intro repeated
    rcases runs_or_fails (recordAll t.rules) (opened activities t) with ⟨_, b, run⟩ | ⟨e, failed⟩
    · exact absurd (distinct_of_runs_recordAll run) repeated
    · obtain ⟨⟨name, rfl⟩, -⟩ := duplicate_of_fails_recordAll known readable failed
      exact ⟨name, ofTransaction_eq_error_iff.mpr (.inl failed)⟩
  · intro failed
    cases ofTransaction_excused failed rfl with
    | @numbering stem reached => exact ⟨stem, reached⟩
  · intro distinct written
    have errors (e : Error) : ofTransaction activities t = .error e ↔ Blocked activities t e := by
      constructor
      · intro failed
        exact (blocked_of_error noop known readable distinct failed).resolve_right fun h =>
          written (h ▸ failed)
      · intro blocked
        exact (error_of_blocked noop known blocked).resolve_right written
    refine ⟨errors, ?_⟩
    simp only [← errors]
    cases ofTransaction activities t with
    | ok g => simp
    | error e => simp

end Graph

def Transaction.detour : Transaction where
  name := "Detour"
  rules :=
    [{ actions := [{ activity := "#get", name := some "read" }] },
     { condition := some { prerequisite := "late" }, actions := [{ activity := "#log" }] },
     { condition := some { prerequisite := "read" }, actions :=
       [{ activity := "#put", name := some "late" }] }]

open Builder in
theorem Graph.ofTransaction_refused_detour :
    ofTransaction .builtin .detour = .error (.undefinedPrerequisite "late" "Detour") ∧
      Blocked .builtin .detour (.undefinedPrerequisite "late" "Detour") := by
  have undefined : (match ofTransaction .builtin .detour with
      | .error (.undefinedPrerequisite name t) => some (name, t)
      | _ => none) = some ("late", "Detour") := by
    decide +kernel
  have failed : ofTransaction .builtin .detour =
      .error (.undefinedPrerequisite "late" "Detour") := by
    split at undefined
    · rename_i name t h
      obtain ⟨rfl, rfl⟩ := Prod.mk.inj (Option.some.inj undefined)
      exact h
    · cases undefined
  have known : ∀ action ∈ Transaction.detour.rules.flatMap (·.actions),
      ∃ activity, Activities.builtin.find action.activity = .ok activity := by
    simp only [Transaction.detour, List.flatMap_cons, List.flatMap_nil, List.cons_append,
      List.nil_append, List.forall_mem_cons]
    exact ⟨⟨_, rfl⟩, ⟨_, rfl⟩, ⟨_, rfl⟩, by simp⟩
  have readable : Readable .builtin (Transaction.detour.rules.flatMap (·.actions)) := by
    simp only [Readable, Transaction.detour, List.flatMap_cons, List.flatMap_nil, List.cons_append,
      List.nil_append, List.forall_mem_cons]
    refine ⟨fun activity found name own digits read => ?_, by
      simp, fun activity found name own digits read => ?_,
      by simp⟩
    · obtain rfl := Except.ok.inj found
      obtain rfl := Option.some.inj own
      cases (show explicitDigits? "get" "read" = none by decide).symm.trans read
    · obtain rfl := Except.ok.inj found
      obtain rfl := Option.some.inj own
      cases (show explicitDigits? "put" "late" = none by decide).symm.trans read
  have refused := ((ofTransaction_refused ⟨_, rfl⟩ known readable).2.2.1 (by decide)
    (by simp [failed])).1
  exact ⟨failed, (refused _).mp failed⟩

section Brimful
open Builder Number

def Rule.brimful : Rule where
  actions := [{ activity := "#put", name := some (numberedName "put" (writableLimit - 1)) },
    { activity := "#put" }]

def Transaction.brimful : Transaction where
  name := "Brimful"
  rules := [.brimful]

theorem find_put :
    Activities.builtin.find "#put" = .ok { kind := .put, ref := "#put", ledger := true } := rfl

theorem sequencePrefix_put :
    ({ kind := .put, ref := "#put", ledger := true } : Activity).sequencePrefix = "put" := by
  decide

theorem find_brimful : ∀ action ∈ Transaction.brimful.rules.flatMap (·.actions),
    ∃ activity, Activities.builtin.find action.activity = .ok activity := by
  simp only [Transaction.brimful, Rule.brimful, List.flatMap_cons, List.flatMap_nil,
    List.append_nil, List.forall_mem_cons]
  exact ⟨⟨_, find_put⟩, ⟨_, find_put⟩, by simp⟩

theorem readable_brimful : Readable .builtin (Transaction.brimful.rules.flatMap (·.actions)) := by
  simp only [Readable, Transaction.brimful, Rule.brimful, List.flatMap_cons, List.flatMap_nil,
    List.append_nil, List.forall_mem_cons]
  refine ⟨fun activity found name own digits read => ?_, by simp, by simp⟩
  obtain rfl := Except.ok.inj (find_put.symm.trans found)
  obtain rfl := Option.some.inj own
  rw [sequencePrefix_put, explicitDigits?_numberedName] at read
  obtain rfl := Option.some.inj read
  have below (n : Nat) : Nat.pow 10 n - 1 < 10 ^ n :=
    Nat.sub_lt (Nat.pow_pos (by decide)) Nat.one_pos
  rw [List.length_map]
  refine (Nat.length_toDigits_le_iff (by decide) (by decide)).mpr ?_
  unfold writableLimit
  exact below digitLimit

theorem fails_brimful {b : Builder}
    (recording : Recording .builtin (Transaction.brimful.rules.flatMap (·.actions)) b) :
    Fails (linkRule .brimful) b .integerUnwritable := by
  have full : writableLimit ≤ b.lastNumber "put" + 1 := by
    have carried : explicitNumber? .builtin "put"
        { activity := "#put", name := some (numberedName "put" (writableLimit - 1)) } =
          some (writableLimit - 1) := by
      rw [explicitNumber?_of_named rfl find_put, if_pos sequencePrefix_put,
        explicitDigits?_numberedName, Option.map_some, ofDigits_decimalDigits]
    have later := recording.read _ List.mem_cons_self "put" _ carried
    omega
  have ends : Ends (linkRule .brimful) b (fun _ _ => False) (· = .integerUnwritable) := by
    simp only [linkRule, Rule.brimful, linkActions, linkAction, nodeOf, ends_bind,
      ends_pure, ends_get, recording.root, ends_modify, updateNode, findActivity,
        recording.same, find_put]
    refine (ends_nextName_of_full sequencePrefix_put ?_ full).imp (fun _ _ => False.elim) fun _ =>
      id
    rfl
  obtain ⟨e, failed, rfl⟩ := ends.exists_fails
  exact failed

/-- No two actions have the same name and no rule is refused, but there is no graph. -/
theorem Graph.ofTransaction_refused_brimful :
    (∃ activity, Activities.builtin.find noopRef = .ok activity) ∧
      (∀ action ∈ Transaction.brimful.rules.flatMap (·.actions),
        ∃ activity, Activities.builtin.find action.activity = .ok activity) ∧
      Readable .builtin (Transaction.brimful.rules.flatMap (·.actions)) ∧
      (ownNames Transaction.brimful.rules).Nodup ∧
      (∀ e, ¬ Blocked .builtin .brimful e) ∧
      ofTransaction .builtin .brimful = .error .integerUnwritable := by
  have distinct : (ownNames Transaction.brimful.rules).Nodup := List.nodup_singleton _
  obtain ⟨b, record⟩ := runs_recordAll (t := .brimful) find_brimful readable_brimful distinct
  have recording := recording_of_runs record
  have stage : Stage .builtin .brimful [] b := ⟨b, record, runs_forIn_nil.mpr rfl⟩
  refine ⟨⟨_, rfl⟩, find_brimful, readable_brimful, distinct, ?_, ?_⟩
  · rintro e ⟨before, rule, after, c, split, stage', refused⟩
    obtain ⟨rfl, rfl⟩ : before = [] ∧ rule = .brimful := by
      cases before with
      | nil => exact ⟨rfl, (List.cons.inj split).1.symm⟩
      | cons _ before => cases before <;> cases (List.cons.inj split).2
    obtain rfl := stage.unique stage'
    cases refused with
    | undefined conditioned | lateStart conditioned => cases conditioned
    | secondEntry _ _ top =>
      rw [recording.root] at top
      cases top
  · exact ofTransaction_eq_error_iff.mpr
      (.inr ⟨[], .brimful, [], b, rfl, stage, fails_brimful recording⟩)

end Brimful

end LedgerFlow
