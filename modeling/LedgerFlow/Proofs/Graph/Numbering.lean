import LedgerFlow.Proofs.Graph.Naming

/-!
What linking a transaction can fail for that is not about its rules: an integer too long to be read
or written. Names that look like generated ones are read when they are entered. Generated names
carry on from the largest number read, and each of them belongs to a node, of which there is one for
each action and at most one for each rule.
-/
namespace LedgerFlow.Builder
open Number

/-- The number behind this prefix in the name of an action, where the name looks like a generated
one. -/
def explicitNumber? (activities : Activities) (stem : String) (action : Action) : Option Nat :=
  match activities.find action.activity, action.name with
  | .ok activity, some name =>
    if activity.sequencePrefix = stem then (explicitDigits? stem name).map ofDigits else none
  | _, _ => none

def largestNumber (activities : Activities) (t : Transaction) (stem : String) : Nat :=
  ((t.rules.flatMap (·.actions)).filterMap (explicitNumber? activities stem)).max?.getD 0

/-- The most nodes that rules can need: one for each action, and a start or branch node for each
rule. -/
def nodeLimit (rules : List Rule) : Nat := (rules.flatMap (·.actions)).length + rules.length

/-- An integer that linking a transaction comes upon and that is too long: one in the name of an
action, or the number of a generated name. -/
inductive Oversized (activities : Activities) (t : Transaction) : Error → Prop
  | name {rule : Rule} {action : Action} {activity : Activity} {own : String} {digits : List Nat}
      (ruled : rule ∈ t.rules) (taken : action ∈ rule.actions) (named : action.name = some own)
      (known : activities.find action.activity = .ok activity)
      (read : explicitDigits? activity.sequencePrefix own = some digits)
      (long : digitLimit < digits.length) :
      Oversized activities t (.integerTooLong digits.length)
  | numbering {stem : String}
      (reached : writableLimit ≤ largestNumber activities t stem + nodeLimit t.rules) :
      Oversized activities t .integerUnwritable

def Excused (activities : Activities) (t : Transaction) (e : Error) : Prop :=
  e.isForeign = true → Oversized activities t e

theorem excused {activities : Activities} {t : Transaction} {e : Error} (h : e.isForeign = false) :
    Excused activities t e :=
  fun foreign => absurd foreign (by simp [h])

/-- A builder on its way through a transaction, with room for so many more nodes. Numbers that were
given out, not read, belong to nodes. -/
structure Numbering (activities : Activities) (t : Transaction) (room : Nat)
    (b : Builder) : Prop where
  same : b.activities = activities
  fits : b.nodes.length + room ≤ nodeLimit t.rules
  filled : ∀ stem n, largestNumber activities t stem < n → n ≤ b.lastNumber stem →
    numberedName stem n ∈ b.nodes.keys

theorem lastNumber_insert_self (b : Builder) (stem : String) (n : Nat) :
    { b with sequence := b.sequence.insert stem n }.lastNumber stem = n := by
  rw [lastNumber, Table.get?_insert_self]
  rfl

theorem lastNumber_insert_of_ne (b : Builder) {stem other : String} (h : other ≠ stem) (n : Nat) :
    { b with sequence := b.sequence.insert stem n }.lastNumber other = b.lastNumber other := by
  rw [lastNumber, Table.get?_insert_of_ne h]
  rfl

variable {activities : Activities} {t : Transaction} {room : Nat} {b : Builder}

theorem le_largestNumber {rule : Rule} {action : Action} {activity : Activity} {own : String}
    {digits : List Nat} (ruled : rule ∈ t.rules) (taken : action ∈ rule.actions)
    (named : action.name = some own) (known : activities.find action.activity = .ok activity)
    (read : explicitDigits? activity.sequencePrefix own = some digits) :
    ofDigits digits ≤ largestNumber activities t activity.sequencePrefix := by
  refine List.le_max?_getD_of_mem
    (List.mem_filterMap.mpr ⟨action, List.mem_flatMap.mpr ⟨rule, ruled, taken⟩, ?_⟩)
  rw [explicitNumber?, known, named]
  simp only [↓reduceIte, read, Option.map_some]

namespace Numbering

theorem of_same (h : Numbering activities t room b) {b' : Builder}
    (ha : b'.activities = b.activities) (hn : b'.nodes.keys = b.nodes.keys)
    (hs : b'.sequence = b.sequence) : Numbering activities t room b' := by
  have length : b'.nodes.length = b.nodes.length := by
    rw [← Table.length_keys, hn, Table.length_keys]
  refine ⟨ha.trans h.same, length ▸ h.fits, fun stem n hlow hhigh => ?_⟩
  rw [lastNumber, hs] at hhigh
  exact hn ▸ h.filled stem n hlow hhigh

theorem weaken (h : Numbering activities t (room + 1) b) : Numbering activities t room b :=
  ⟨h.same, Nat.le_of_succ_le h.fits, h.filled⟩

theorem freeNumber_le (h : Numbering activities t room b) (stem : String) :
    freeNumber b.nodes stem b.nodes.length (b.lastNumber stem) ≤
      largestNumber activities t stem + b.nodes.length + 1 := by
  refine le_of_taken stem fun m hlow hhigh => ?_
  rcases Nat.lt_or_ge (b.lastNumber stem) m with hm | hm
  · exact taken_before_freeNumber hm hhigh
  · exact h.filled stem m hlow hm

theorem entered (h : Numbering activities t (room + 1) b) {name : String}
    (fresh : name ∉ b.nodes.keys) (node : Node) :
    Numbering activities t room { b with nodes := b.nodes.insert name node } := by
  refine ⟨h.same, ?_, fun stem n hlow hhigh =>
    Table.mem_keys_insert.mpr (.inr (h.filled stem n hlow hhigh))⟩
  have fits := h.fits
  rw [Table.insert_of_not_mem fresh, List.length_append, List.length_singleton]
  omega

theorem numbered (h : Numbering activities t (room + 1) b) (stem : String) (node : Node) :
    Numbering activities t room
      { b with
        sequence := b.sequence.insert stem
          (freeNumber b.nodes stem b.nodes.length (b.lastNumber stem))
        nodes := b.nodes.insert
          (numberedName stem (freeNumber b.nodes stem b.nodes.length (b.lastNumber stem)))
            node } := by
  generalize hfree : freeNumber b.nodes stem b.nodes.length (b.lastNumber stem) = free
  have fresh : numberedName stem free ∉ b.nodes.keys := hfree ▸ freeNumber_fresh b.nodes stem _
  have entered := h.entered fresh node
  refine ⟨entered.same, entered.fits, fun other n hlow hhigh => ?_⟩
  by_cases hother : other = stem
  · subst hother
    change n ≤ { b with sequence := b.sequence.insert other free }.lastNumber other at hhigh
    rw [lastNumber_insert_self] at hhigh
    -- A smaller number was passed over by the search or given out before; the number itself is the
    -- new name.
    rcases Nat.lt_or_ge n free with hn | hn
    · refine Table.mem_keys_insert.mpr (.inr ?_)
      rcases Nat.lt_or_ge (b.lastNumber other) n with hlast | hlast
      · exact taken_before_freeNumber hlast (hfree ▸ hn)
      · exact h.filled other n hlow hlast
    · obtain rfl := Nat.le_antisymm hhigh hn
      exact Table.mem_keys_insert.mpr (.inl rfl)
  · refine entered.filled other n hlow ?_
    change n ≤ { b with sequence := b.sequence.insert stem free }.lastNumber other at hhigh
    rwa [lastNumber_insert_of_ne b hother] at hhigh

theorem carriedOn (h : Numbering activities t room b) {stem : String} {n : Nat}
    (le : n ≤ largestNumber activities t stem) :
    Numbering activities t room { b with sequence := b.sequence.insert stem n } := by
  refine ⟨h.same, h.fits, fun other m hlow hhigh => ?_⟩
  by_cases hother : other = stem
  · subst hother
    rw [lastNumber_insert_self] at hhigh
    omega
  · rw [lastNumber_insert_of_ne b hother] at hhigh
    exact h.filled other m hlow hhigh

theorem updateNode (h : Numbering activities t room b) (name : String) (f : Node → Node) :
    Ends (updateNode name f) b (fun _ b' => Numbering activities t room b')
      (Excused activities t) :=
  ends_modify.mpr (h.of_same rfl (Table.keys_update _ _ _) rfl)

theorem findActivity (h : Numbering activities t room b) (ref : String) :
    Ends (findActivity ref) b (fun activity b' => b' = b ∧ activities.find ref = .ok activity)
      (Excused activities t) := by
  simp only [Builder.findActivity, ends_bind, ends_get]
  rw [h.same]
  split
  · rename_i found
    exact ends_pure.mpr ⟨rfl, found⟩
  · rename_i e missing
    refine ends_throw.mpr (excused ?_)
    unfold Activities.find at missing
    split at missing
    · cases missing
    · obtain rfl := Except.error.inj missing
      rfl

theorem nextName (h : Numbering activities t (room + 1) b) (activity : Activity) :
    Ends (nextName activity) b
      (fun name b' => ∀ node, Numbering activities t room
        { b' with nodes := b'.nodes.insert name node })
      (Excused activities t) := by
  have within : largestNumber activities t activity.sequencePrefix + b.nodes.length + 1 ≤
      largestNumber activities t activity.sequencePrefix + nodeLimit t.rules := by
    have fits := h.fits
    omega
  simp only [Builder.nextName, setNumber, ends_bind, ends_get]
  split
  · simp only [ends_bind, ends_modify, ends_pure]
    exact h.numbered activity.sequencePrefix
  · rename_i writable
    simp only [ends_bind, ends_modify, ends_throw]
    exact fun _ => .numbering
      (Nat.le_trans (Nat.le_of_not_lt writable)
        (Nat.le_trans (h.freeNumber_le activity.sequencePrefix) within))

variable {rule : Rule} {action : Action}

theorem register (h : Numbering activities t (room + if action.name.isSome then 1 else 0) b)
    (ruled : rule ∈ t.rules) (taken : action ∈ rule.actions) :
    Ends (register action) b (fun _ b' => Numbering activities t room b')
      (Excused activities t) := by
  simp only [Builder.register, ends_bind]
  refine (h.findActivity action.activity).mono ?_
  rintro activity _ ⟨rfl, known⟩
  cases named : action.name with
  | none =>
    rw [named] at h
    exact ends_pure.mpr h
  | some own =>
    rw [named] at h
    simp only [ends_bind, ends_get]
    split
    · exact ends_throw.mpr (excused rfl)
    · rename_i fresh
      rw [Table.contains_iff_mem_keys] at fresh
      have entered := h.entered fresh { activity, action := some action }
      simp only [ends_bind, setNode, ends_modify]
      cases read : explicitDigits? activity.sequencePrefix own with
      | none => exact ends_pure.mpr entered
      | some digits =>
        dsimp only
        split
        · split
          · exact ends_modify.mpr (entered.carriedOn
              (le_largestNumber ruled taken named known read))
          · exact ends_pure.mpr entered
        · rename_i long
          exact ends_throw.mpr fun _ => .name ruled taken named known read (Nat.lt_of_not_le long)

theorem newNoop (h : Numbering activities t (room + 1) b) :
    Ends newNoop b (fun _ b' => Numbering activities t room b') (Excused activities t) := by
  simp only [newNoop_eq, setNode, ends_bind, ends_modify, ends_pure]
  refine (h.findActivity noopRef).mono ?_
  rintro activity _ ⟨rfl, -⟩
  exact (h.nextName activity).mono fun name b' entered => entered { activity, linked := true }

theorem startNode (h : Numbering activities t (room + 1) b) :
    Ends startNode b (fun _ b' => Numbering activities t room b') (Excused activities t) := by
  simp only [Builder.startNode, ends_bind, ends_get]
  split
  · exact ends_pure.mpr h.weaken
  · split
    · exact ends_throw.mpr (excused rfl)
    · simp only [ends_bind, ends_modify, ends_pure]
      exact h.newNoop.mono fun name b' numbering => numbering.of_same rfl rfl rfl

theorem resolveBranch (h : Numbering activities t (room + 1) b) (prerequisite : String) :
    Ends (resolveBranch prerequisite) b (fun _ b' => Numbering activities t room b')
      (Excused activities t) := by
  unfold Builder.resolveBranch
  split
  · exact h.startNode
  · simp only [ends_bind, ends_get]
    split
    · exact ends_throw.mpr (excused rfl)
    · split
      · exact ends_throw.mpr (excused rfl)
      · split
        · exact ends_pure.mpr h.weaken
        · split
          · exact ends_pure.mpr h.weaken
          · simp only [ends_bind, ends_pure]
            exact h.newNoop.mono fun name b' numbering => numbering.updateNode _ _

theorem nodeOf (h : Numbering activities t (room + if action.name.isNone then 1 else 0) b) :
    Ends (nodeOf action) b (fun _ b' => Numbering activities t room b') (Excused activities t) := by
  unfold Builder.nodeOf
  cases named : action.name with
  | some own =>
    rw [named] at h
    exact ends_pure.mpr h
  | none =>
    rw [named] at h
    simp only [setNode, ends_bind, ends_modify, ends_pure]
    refine (h.findActivity action.activity).mono ?_
    rintro activity _ ⟨rfl, -⟩
    exact (nextName h activity).mono fun name b' entered =>
      entered { activity, action := some action }

theorem linkAction (h : Numbering activities t (room + if action.name.isNone then 1 else 0) b)
    (previous expr : Option String) :
    Ends (linkAction previous expr action) b (fun _ b' => Numbering activities t room b')
      (Excused activities t) := by
  simp only [Builder.linkAction, ends_bind]
  refine h.nodeOf.mono fun name b' numbering => ?_
  cases previous with
  | some source =>
    simp only [ends_bind, ends_pure]
    exact (numbering.updateNode _ _).mono fun _ b' numbering => numbering.updateNode _ _
  | none =>
    simp only [ends_bind, ends_get]
    split
    · exact ends_throw.mpr (excused rfl)
    · simp only [ends_modify, ends_bind, ends_pure]
      have rooted : Numbering activities t room { b' with root := some name } :=
        numbering.of_same rfl rfl rfl
      exact rooted.updateNode _ _

theorem linkActions {actions : List Action}
    (h : Numbering activities t (room + actions.countP (·.name.isNone)) b)
    (previous expr : Option String) :
    Ends (linkActions previous expr actions) b (fun _ b' => Numbering activities t room b')
      (Excused activities t) := by
  induction actions generalizing b previous expr with
  | nil => exact ends_pure.mpr h
  | cons action rest ih =>
    rw [List.countP_cons, ← Nat.add_assoc] at h
    simp only [Builder.linkActions, ends_bind]
    exact (h.linkAction previous expr).mono fun name b' numbering => ih numbering (some name) none

theorem linkRule (h : Numbering activities t (room + (rule.actions.countP (·.name.isNone) + 1)) b) :
    Ends (linkRule rule) b (fun _ b' => Numbering activities t room b') (Excused activities t) := by
  rw [← Nat.add_assoc] at h
  unfold Builder.linkRule
  split
  · exact h.weaken.linkActions none none
  · simp only [ends_bind]
    exact (h.resolveBranch _).mono fun source b' numbering => numbering.linkActions (some source) _

theorem registerActions {actions : List Action} (ruled : rule ∈ t.rules)
    (taken : ∀ action ∈ actions, action ∈ rule.actions)
    (h : Numbering activities t (room + actions.countP (·.name.isSome)) b) :
    Ends (forIn actions PUnit.unit fun action _ => do
      Builder.register action; return ForInStep.yield PUnit.unit) b
      (fun _ b' => Numbering activities t room b') (Excused activities t) := by
  induction actions generalizing b with
  | nil => exact ends_forIn_nil.mpr h
  | cons action rest ih =>
    obtain ⟨first, later⟩ := List.forall_mem_cons.mp taken
    rw [List.countP_cons, ← Nat.add_assoc] at h
    exact ends_forIn_cons.mpr
      ((h.register ruled first).mono fun _ b' numbering => ih later numbering)

theorem registerRules {rules : List Rule} (ruled : ∀ rule ∈ rules, rule ∈ t.rules)
    (h : Numbering activities t (room + (rules.flatMap (·.actions)).countP (·.name.isSome)) b) :
    Ends (forIn rules PUnit.unit fun rule _ => do
        forIn rule.actions PUnit.unit fun action _ => do
          Builder.register action
          return ForInStep.yield PUnit.unit
        return ForInStep.yield PUnit.unit) b
      (fun _ b' => Numbering activities t room b') (Excused activities t) := by
  induction rules generalizing b with
  | nil => exact ends_forIn_nil.mpr h
  | cons rule rest ih =>
    obtain ⟨first, later⟩ := List.forall_mem_cons.mp ruled
    rw [List.flatMap_cons, List.countP_append, Nat.add_comm (rule.actions.countP _),
      ← Nat.add_assoc] at h
    refine ends_forIn_cons.mpr ?_
    exact (registerActions first (fun _ => id) h).mono fun _ b' numbering => ih later numbering

theorem linkRules {rules : List Rule}
    (h : Numbering activities t
      (room + ((rules.flatMap (·.actions)).countP (·.name.isNone) + rules.length)) b) :
    Ends (forIn rules PUnit.unit fun rule _ => do
      Builder.linkRule rule; return ForInStep.yield PUnit.unit) b
      (fun _ b' => Numbering activities t room b') (Excused activities t) := by
  induction rules generalizing b with
  | nil => exact ends_forIn_nil.mpr h
  | cons rule rest ih =>
    have split : room + ((rule :: rest).flatMap (·.actions)).countP (·.name.isNone) +
      (rule :: rest).length =
        room + ((rest.flatMap (·.actions)).countP (·.name.isNone) + rest.length) +
          (rule.actions.countP (·.name.isNone) + 1) := by
      rw [List.flatMap_cons, List.countP_append, List.length_cons]
      omega
    rw [← Nat.add_assoc, split] at h
    exact ends_forIn_cons.mpr (h.linkRule.mono fun _ b' numbering => ih numbering)

end Numbering

theorem nodeLimit_eq (rules : List Rule) :
    (rules.flatMap (·.actions)).countP (·.name.isNone) + rules.length +
        (rules.flatMap (·.actions)).countP (·.name.isSome) = nodeLimit rules := by
  have each := List.length_eq_countP_add_countP (fun action : Action => action.name.isSome)
    (l := rules.flatMap (·.actions))
  have unnamed : (fun action : Action => decide ¬ action.name.isSome = true) = fun action =>
      action.name.isNone := by
    funext action
    cases action.name <;> rfl
  rw [unnamed] at each
  rw [nodeLimit, each]
  omega

theorem Numbering.empty (activities : Activities) (t : Transaction) (built : Bool) :
    Numbering activities t (nodeLimit t.rules) { transaction := t, activities, built } := by
  refine ⟨rfl, Nat.le_of_eq (Nat.zero_add _), fun stem n hlow hhigh => ?_⟩
  change n ≤ 0 at hhigh
  omega

theorem ends_build (activities : Activities) (t : Transaction) :
    Ends build { transaction := t, activities } (fun _ _ => True) (Excused activities t) := by
  have h := Numbering.empty activities t true
  rw [← nodeLimit_eq, ← Nat.zero_add (List.countP _ _ + List.length _)] at h
  simp only [build, ends_bind, ends_get, ends_modify, ends_pure, Bool.false_eq_true, ↓reduceIte]
  exact (h.registerRules fun _ => id).mono fun _ b' numbering =>
    numbering.linkRules.mono fun _ _ _ => trivial

end LedgerFlow.Builder

namespace LedgerFlow

/-- Linking a transaction fails for its rules, or for an integer that is too long. -/
theorem Graph.ofTransaction_excused {activities : Activities} {t : Transaction} {e : Error}
    (h : Graph.ofTransaction activities t = .error e) : Builder.Excused activities t e :=
  (Builder.ends_build activities t).of_error h

end LedgerFlow
