import LedgerFlow.Proofs.Graph.Change
import LedgerFlow.Proofs.Graph.Linking
import LedgerFlow.Proofs.Graph.Numbering

/-!
The course of building: all actions of a transaction are recorded first, and then its rules are
linked one after the other. What is recorded of an action is its node, if it has a name of its own,
and the number in that name.
-/
namespace LedgerFlow
namespace Builder
open Number

def noted (b : Builder) (stem name : String) : Builder :=
  match explicitDigits? stem name with
  | none => b
  | some digits =>
    if b.lastNumber stem < ofDigits digits then b.numbered
      (b.sequence.insert stem (ofDigits digits)) else b

inductive Recorded (b : Builder) (action : Action) : Builder → Prop
  | unnamed (unnamed : action.name = none) : Recorded b action b
  | named {name : String} {activity : Activity} (own : action.name = some name)
      (known : b.activities.find action.activity = .ok activity) (fresh : name ∉ b.nodes.keys) :
      Recorded b action ((b.withNode name { activity, action := some action }).noted
        activity.sequencePrefix name)

inductive Unrecorded (b : Builder) (action : Action) : Error → Prop
  | unknown {e : Error} (missing : b.activities.find action.activity = .error e) :
      Unrecorded b action e
  | duplicate {name : String} (own : action.name = some name) (taken : name ∈ b.nodes.keys) :
      Unrecorded b action (.duplicateName name b.transaction.name)
  | tooLong {name : String} {activity : Activity} {digits : List Nat}
      (own : action.name = some name) (known : b.activities.find action.activity = .ok activity)
      (read : explicitDigits? activity.sequencePrefix name = some digits)
      (long : digitLimit < digits.length) :
      Unrecorded b action (.integerTooLong digits.length)

variable {b b' : Builder} {action : Action} {stem name : String}

theorem noted_of_not_read (unread : explicitDigits? stem name = none) : b.noted stem name = b := by
  rw [noted, unread]

theorem noted_of_lt {digits : List Nat} (read : explicitDigits? stem name = some digits)
    (larger : b.lastNumber stem < ofDigits digits) :
    b.noted stem name = b.numbered (b.sequence.insert stem (ofDigits digits)) := by
  rw [noted, read]
  exact if_pos larger

theorem noted_of_not_lt {digits : List Nat} (read : explicitDigits? stem name = some digits)
    (smaller : ¬ b.lastNumber stem < ofDigits digits) : b.noted stem name = b := by
  rw [noted, read]
  exact if_neg smaller

theorem ends_register (action : Action) :
    Ends (register action) b (fun _ b' => Recorded b action b') (Unrecorded b action) := by
  simp only [register, findActivity, ends_bind, ends_get]
  cases found : b.activities.find action.activity with
  | error e => exact ends_throw.mpr (.unknown found)
  | ok activity =>
    refine ends_pure.mpr ?_
    cases own : action.name with
    | none => exact ends_pure.mpr (.unnamed own)
    | some name =>
      simp only [ends_bind, ends_get]
      split
      · rename_i taken
        exact ends_throw.mpr (.duplicate own ((Table.contains_iff_mem_keys _ _).mp taken))
      · rename_i hfresh
        have fresh : name ∉ b.nodes.keys :=
          fun h => hfresh ((Table.contains_iff_mem_keys _ _).mpr h)
        simp only [setNode, setNumber, ends_bind, ends_modify, Table.insert_of_not_mem fresh]
        have recorded := Recorded.named own found fresh
        split
        · rename_i unread
          rw [noted_of_not_read unread] at recorded
          exact ends_pure.mpr recorded
        · rename_i digits read
          split
          · split
            · rename_i larger
              rw [noted_of_lt (b := b.withNode name _) read larger] at recorded
              exact ends_modify.mpr recorded
            · rename_i smaller
              rw [noted_of_not_lt (b := b.withNode name _) read smaller] at recorded
              exact ends_pure.mpr recorded
          · rename_i long
            exact ends_throw.mpr (.tooLong own found read (Nat.lt_of_not_le long))

theorem exists_noted (b : Builder) (stem name : String) :
    ∃ sequence, b.noted stem name = b.numbered sequence := by
  unfold noted
  split
  · exact ⟨b.sequence, rfl⟩
  · split
    · exact ⟨_, rfl⟩
    · exact ⟨b.sequence, rfl⟩

theorem lastNumber_le_noted (b : Builder) (stem name other : String) :
    b.lastNumber other ≤ (b.noted stem name).lastNumber other := by
  unfold noted
  split
  · exact Nat.le_refl _
  · split
    · rename_i larger
      by_cases same : other = stem
      · subst same
        exact Nat.le_of_lt (Nat.lt_of_lt_of_eq larger (lastNumber_insert_self b other _).symm)
      · exact Nat.le_of_eq (lastNumber_insert_of_ne b same _).symm
    · exact Nat.le_refl _

theorem le_lastNumber_noted {digits : List Nat} (read : explicitDigits? stem name = some digits) :
    ofDigits digits ≤ (b.noted stem name).lastNumber stem := by
  rw [noted, read]
  dsimp only
  split
  · exact Nat.le_of_eq (lastNumber_insert_self b stem _).symm
  · rename_i smaller
    exact Nat.le_of_not_lt smaller

theorem Recorded.grows (recorded : Recorded b action b') : Grows b b' := by
  cases recorded with
  | unnamed => exact .refl b
  | @named name activity =>
    obtain ⟨sequence, h⟩ := exists_noted (b.withNode name { activity, action := some action })
      activity.sequencePrefix name
    rw [h]
    exact (grows_withNode b _ _).trans (grows_numbered _ _)

def Awaits (activities : Activities) (action : Action) (node : Node) : Prop :=
  ∃ activity, activities.find action.activity = .ok activity ∧
    node = { activity, action := some action }

/-- A builder that has recorded these actions, and nothing else. -/
structure Recording (activities : Activities) (actions : List Action) (b : Builder) : Prop where
  same : b.activities = activities
  nodes : Table.Pairs (Awaits activities) (explicit actions) b.nodes
  distinct : b.nodes.keys.Nodup
  read : ∀ action ∈ actions, ∀ stem, ∀ k ∈ explicitNumber? activities stem action, k ≤
    b.lastNumber stem
  root : b.root = none
  start : b.start = none

theorem explicit_append (actions actions' : List Action) :
    explicit (actions ++ actions') = explicit actions ++ explicit actions' := List.filterMap_append

theorem explicitNumber?_of_unnamed (activities : Activities) (stem : String)
    (unnamed : action.name = none) : explicitNumber? activities stem action = none := by
  unfold explicitNumber?
  rw [unnamed]
  split
  · rename_i h
    cases h
  · rfl

theorem explicitNumber?_of_named {activities : Activities} {activity : Activity}
    (own : action.name = some name) (known : activities.find action.activity = .ok activity)
    (stem : String) :
    explicitNumber? activities stem action =
      if activity.sequencePrefix = stem then (explicitDigits? stem name).map ofDigits
          else none := by
  rw [explicitNumber?, known, own]

theorem Recording.step {activities : Activities} {done : List Action}
    (recording : Recording activities done b) (recorded : Recorded b action b') :
    Recording activities (done ++ [action]) b' := by
  cases recorded with
  | unnamed unnamed =>
    refine { recording with nodes := ?_, read := fun other h => ?_ }
    · rw [explicit_append, explicit_cons_unnamed unnamed]
      simpa [explicit] using recording.nodes
    · rcases List.mem_append.mp h with h | h
      · exact recording.read other h
      · obtain rfl := List.mem_singleton.mp h
        simp [explicitNumber?_of_unnamed _ _ unnamed]
  | @named name activity own known fresh =>
    obtain rfl := recording.same
    let entered := b.withNode name { activity, action := some action }
    obtain ⟨sequence, hnoted⟩ := exists_noted entered activity.sequencePrefix name
    have nodes : (entered.noted activity.sequencePrefix name).nodes =
        b.nodes ++ [(name, { activity, action := some action })] := by rw [hnoted]; rfl
    refine ⟨?_, ?_, ?_, fun other h stem k read => ?_, ?_, ?_⟩
    · rw [hnoted]
      rfl
    · rw [nodes, explicit_append, explicit_cons_named own]
      exact List.rel_append recording.nodes (.cons ⟨rfl, activity, known, rfl⟩ .nil)
    · rw [nodes]
      exact nodup_keys_append recording.distinct fresh
    · rcases List.mem_append.mp h with h | h
      · exact Nat.le_trans (recording.read other h stem k read)
          (lastNumber_le_noted entered _ _ stem)
      · obtain rfl := List.mem_singleton.mp h
        rw [explicitNumber?_of_named own known] at read
        split at read
        · rename_i same
          subst same
          obtain ⟨digits, hdigits, rfl⟩ := Option.map_eq_some_iff.mp read
          exact le_lastNumber_noted hdigits
        · cases read
    · rw [hnoted]
      exact recording.root
    · rw [hnoted]
      exact recording.start

theorem Recording.run {activities : Activities} {done actions : List Action} {u : PUnit}
    (run : Runs (forEach actions register) b u b') (recording : Recording activities done b) :
    Recording activities (done ++ actions) b' := by
  induction actions generalizing b done with
  | nil =>
    obtain rfl := runs_forIn_nil.mp run
    rwa [List.append_nil]
  | cons action actions ih =>
    obtain ⟨b₁, first, rest⟩ := runs_forIn_cons.mp run
    rw [List.append_cons]
    exact ih rest (recording.step ((ends_register action).of_runs first))

theorem grows_of_records {actions : List Action} {u : PUnit}
    (run : Runs (forEach actions register) b u b') : Grows b b' := by
  induction actions generalizing b with
  | nil =>
    obtain rfl := runs_forIn_nil.mp run
    exact .refl b
  | cons action actions ih =>
    obtain ⟨b₁, first, rest⟩ := runs_forIn_cons.mp run
    exact ((ends_register action).of_runs first).grows.trans (ih rest)

def ownNames (rules : List Rule) : List String := Table.keys (explicit (rules.flatMap (·.actions)))

theorem mem_ownNames {rules : List Rule} {name : String} :
    name ∈ ownNames rules ↔ ∃ action ∈ rules.flatMap (·.actions), name ∈ action.name := by
  simp only [ownNames, Table.keys, explicit, List.mem_map, List.mem_filterMap,
    Option.map_eq_some_iff]
  constructor
  · rintro ⟨_, ⟨action, mem, name', named, rfl⟩, rfl⟩
    exact ⟨action, mem, named⟩
  · rintro ⟨action, mem, named⟩
    exact ⟨_, ⟨action, mem, name, named, rfl⟩, rfl⟩

theorem ownNames_append (rules rules' : List Rule) :
    ownNames (rules ++ rules') = ownNames rules ++ ownNames rules' := by
  rw [ownNames, List.flatMap_append, explicit_append, Table.keys_append]
  rfl

def recordAll (rules : List Rule) : Build PUnit := forEach (rules.flatMap (·.actions)) register

def linkAll (rules : List Rule) : Build PUnit := forEach rules linkRule

def opened (activities : Activities) (t : Transaction) : Builder :=
  { transaction := t, activities, built := true }

/-- The builder when all actions of a transaction have been recorded and these rules have been
linked. -/
def Stage (activities : Activities) (t : Transaction) (linked : List Rule) (b : Builder) : Prop :=
  ∃ b₀, Runs (recordAll t.rules) (opened activities t) PUnit.unit b₀ ∧
    Runs (linkAll linked) b₀ PUnit.unit b

variable {activities : Activities} {t : Transaction} {rules rules' : List Rule}

theorem recording_opened (activities : Activities) (t : Transaction) :
    Recording activities [] (opened activities t) :=
  ⟨rfl, .nil, List.nodup_nil, by simp, rfl, rfl⟩

theorem recording_of_runs {u : PUnit} (run : Runs (recordAll rules) (opened activities t) u b) :
    Recording activities (rules.flatMap (·.actions)) b :=
  (recording_opened activities t).run run

theorem moves_of_linkAll {u : PUnit} (run : Runs (linkAll rules) b u b') : Moves b b' := by
  induction rules generalizing b with
  | nil =>
    obtain rfl := runs_forIn_nil.mp run
    exact .refl
  | cons rule rules ih =>
    obtain ⟨b₁, first, rest⟩ := runs_forIn_cons.mp run
    exact ((ends_linkRule rule).of_runs first).trans (ih rest)

theorem runs_linkAll_append {u : PUnit} :
    Runs (linkAll (rules ++ rules')) b u b' ↔
      ∃ b₁, Runs (linkAll rules) b PUnit.unit b₁ ∧ Runs (linkAll rules') b₁ u b' := by
  rw [linkAll, forEach_append, runs_bind]
  exact ⟨fun ⟨_, b₁, first, rest⟩ => ⟨b₁, first, rest⟩, fun ⟨b₁, first, rest⟩ =>
    ⟨_, b₁, first, rest⟩⟩

theorem Stage.grows (stage : Stage activities t rules b) : Grows (opened activities t) b := by
  obtain ⟨b₀, record, link⟩ := stage
  exact (grows_of_records record).trans (grows_of_moves (moves_of_linkAll link))

theorem Stage.exists_before (stage : Stage activities t (rules ++ rules') b) :
    ∃ b₁, Stage activities t rules b₁ ∧ Runs (linkAll rules') b₁ PUnit.unit b := by
  obtain ⟨b₀, record, link⟩ := stage
  obtain ⟨b₁, first, rest⟩ := runs_linkAll_append.mp link
  exact ⟨b₁, ⟨b₀, record, first⟩, rest⟩

theorem Stage.unique (stage : Stage activities t rules b)
    (stage' : Stage activities t rules b') : b = b' := by
  obtain ⟨b₀, record, link⟩ := stage
  obtain ⟨b₁, record', link'⟩ := stage'
  obtain rfl := (record.unique record').2
  exact (link.unique link').2

end Builder

namespace Graph
open Builder
variable {activities : Activities} {t : Transaction}

/-- Building is recording all actions and then linking all rules. -/
theorem outcome_build (activities : Activities) (t : Transaction) :
    outcome build { transaction := t, activities } =
      outcome (do
        recordAll t.rules
        linkAll t.rules
        let b ← get
        return { transaction := t.name, root := b.root, nodes := b.nodes })
          (opened activities t) := by
  rw [recordAll, forEach_flatMap]
  rfl

theorem ofTransaction_eq_ok_iff {g : Graph} :
    ofTransaction activities t = .ok g ↔
      ∃ b, Stage activities t t.rules b ∧
        g = { transaction := t.name, root := b.root, nodes := b.nodes } := by
  have runs : ofTransaction activities t = .ok g ↔
      ∃ b, Runs build { transaction := t, activities } g b :=
    ⟨fun h => ⟨_, Prod.ext h rfl⟩, fun ⟨_, h⟩ => congrArg Prod.fst h⟩
  rw [runs]
  unfold Runs
  rw [outcome_build]
  change (∃ b, Runs _ _ g b) ↔ _
  simp only [runs_bind, runs_get, runs_pure]
  constructor
  · rintro ⟨_, _, b₀, record, _, b, link, _, _, ⟨rfl, rfl⟩, rfl, rfl⟩
    exact ⟨b, ⟨b₀, record, link⟩, rfl⟩
  · rintro ⟨b, ⟨b₀, record, link⟩, rfl⟩
    exact ⟨b, _, b₀, record, _, b, link, b, b, ⟨rfl, rfl⟩, rfl, rfl⟩

/-- Building fails for an action that cannot be recorded, or for the first rule that cannot be
linked. -/
theorem ofTransaction_eq_error_iff {e : Error} :
    ofTransaction activities t = .error e ↔
      Fails (recordAll t.rules) (opened activities t) e ∨
        ∃ before rule after b, t.rules = before ++ rule :: after ∧ Stage activities t before b ∧
          Fails (linkRule rule) b e := by
  change (outcome build { transaction := t, activities }).1 = _ ↔ _
  rw [outcome_build]
  change Fails _ _ e ↔ _
  simp only [fails_bind, not_fails_get, not_fails_pure, and_false, exists_false, or_false]
  refine or_congr_right ⟨?_, ?_⟩
  · rintro ⟨_, b₀, record, failed⟩
    obtain ⟨before, rule, after, b, split, link, failed⟩ := fails_forEach.mp failed
    exact ⟨before, rule, after, b, split, ⟨b₀, record, link⟩, failed⟩
  · rintro ⟨before, rule, after, b, split, ⟨b₀, record, link⟩, failed⟩
    exact ⟨_, b₀, record, fails_forEach.mpr ⟨before, rule, after, b, split, link, failed⟩⟩

theorem distinct_keys {g : Graph}
    (built : ofTransaction activities t = .ok g) : g.nodes.keys.Nodup := by
  obtain ⟨b, named, finished, -, rfl⟩ := exists_finished built
  exact finished.woven.distinct

end Graph

end LedgerFlow
