import LedgerFlow.Graph.Builder
import Mathlib.Data.List.Basic

/-!
Steps of building that succeed, and what can be said of a step that may fail.
-/
namespace LedgerFlow.Builder
variable {α β : Type}

def outcome (step : Build α) (b : Builder) : Except Error α × Builder := step.run b

/-- Run from the first state, the step succeeds with this result and leaves the second state. -/
def Runs (step : Build α) (b : Builder) (a : α) (b' : Builder) : Prop :=
  outcome step b = (.ok a, b')

@[simp] theorem runs_pure {a a' : α} {b b' : Builder} :
    Runs (pure a) b a' b' ↔ a = a' ∧ b = b' := by
  change (Except.ok a, b) = (Except.ok a', b') ↔ _
  simp

theorem outcome_bind (x : Build α) (f : α → Build β) (b : Builder) :
    outcome (x >>= f) b =
      match outcome x b with
      | (.ok a, b') => outcome (f a) b'
      | (.error e, b') => (.error e, b') := by
  change (ExceptT.bindCont f (outcome x b).1 : StateM Builder (Except Error β)) (outcome x b).2 = _
  rcases outcome x b with ⟨_ | _, _⟩ <;> rfl

@[simp] theorem runs_bind {x : Build α} {f : α → Build β} {b b'' : Builder} {c : β} :
    Runs (x >>= f) b c b'' ↔ ∃ a b', Runs x b a b' ∧ Runs (f a) b' c b'' := by
  unfold Runs
  rw [outcome_bind]
  rcases outcome x b with ⟨_ | _, _⟩ <;> simp

theorem Runs.unique {x : Build α} {a a' : α} {b b' b'' : Builder} (run : Runs x b a b')
    (run' : Runs x b a' b'') : a = a' ∧ b' = b'' := by
  unfold Runs at run run'
  rw [run] at run'
  obtain ⟨h, rfl⟩ := Prod.mk.inj run'
  exact ⟨Except.ok.inj h, rfl⟩

@[simp] theorem runs_get {a b b' : Builder} : Runs get b a b' ↔ b = a ∧ b = b' := by
  change (Except.ok b, b) = (Except.ok a, b') ↔ _
  simp

@[simp] theorem runs_modify {f : Builder → Builder} {b b' : Builder} {u : Unit} :
    Runs (modify f) b u b' ↔ f b = b' := by
  change (Except.ok (), f b) = (Except.ok (), b') ↔ _
  simp

@[simp] theorem not_runs_throw {e : Error} {b b' : Builder} {a : α} : ¬ Runs (throw e) b a b' := by
  change ¬ (Except.error e, b) = (Except.ok a, b')
  simp

@[simp] theorem runs_forIn_nil {step : α → Build Unit} {b b' : Builder} {u : PUnit} :
    Runs (forIn [] PUnit.unit fun a _ => do step a; return ForInStep.yield PUnit.unit) b u b' ↔
      b = b' := by
  rw [List.forIn_nil, runs_pure]
  simp

@[simp] theorem runs_forIn_cons {step : α → Build Unit} {a : α} {as : List α} {b b'' : Builder}
    {u : PUnit} :
    Runs (forIn (a :: as) PUnit.unit fun a _ => do step a; return ForInStep.yield PUnit.unit) b u
      b'' ↔ ∃ b', Runs (step a) b () b' ∧
        Runs (forIn as PUnit.unit fun a _ => do step a; return ForInStep.yield PUnit.unit) b'
          u b'' := by
  rw [List.forIn_cons]
  simp only [runs_bind, runs_pure]
  constructor
  · rintro ⟨_, _, ⟨_, b', run, rfl, rfl⟩, rest⟩
    exact ⟨b', run, rest⟩
  · rintro ⟨b', run, rest⟩
    exact ⟨_, b', ⟨(), b', run, rfl, rfl⟩, rest⟩

abbrev forEach (as : List α) (step : α → Build Unit) : Build PUnit :=
  forIn as PUnit.unit fun a _ => do step a; return ForInStep.yield PUnit.unit

theorem forEach_nil (step : α → Build Unit) : forEach [] step = pure PUnit.unit := List.forIn_nil

theorem forEach_cons (step : α → Build Unit) (a : α) (as : List α) :
    forEach (a :: as) step = (do step a; forEach as step) := by
  rw [forEach, List.forIn_cons]
  simp only [bind_assoc, pure_bind]

theorem forEach_append (step : α → Build Unit) (as as' : List α) :
    forEach (as ++ as') step = (do forEach as step; forEach as' step) := by
  induction as with
  | nil => rw [List.nil_append, forEach_nil, pure_bind]
  | cons a as ih => rw [List.cons_append, forEach_cons, forEach_cons, ih, bind_assoc]

theorem forEach_flatMap (step : α → Build Unit) (gather : β → List α) (bs : List β) :
    forEach (bs.flatMap gather) step = forEach bs fun x => forEach (gather x) step := by
  induction bs with
  | nil => rfl
  | cons x bs ih => rw [List.flatMap_cons, forEach_append, forEach_cons, ih]

def Fails (step : Build α) (b : Builder) (e : Error) : Prop := (outcome step b).1 = .error e

section Fails
variable {b : Builder} {e : Error}

@[simp] theorem not_fails_pure {a : α} : ¬ Fails (pure a) b e := by
  change ¬ Except.ok a = Except.error e
  simp

@[simp] theorem not_fails_get : ¬ Fails get b e := by
  change ¬ Except.ok b = Except.error e
  simp

@[simp] theorem fails_bind {x : Build α} {f : α → Build β} :
    Fails (x >>= f) b e ↔ Fails x b e ∨ ∃ a b', Runs x b a b' ∧ Fails (f a) b' e := by
  unfold Fails Runs
  rw [outcome_bind]
  rcases outcome x b with ⟨_ | _, _⟩ <;> simp

theorem runs_or_fails (x : Build α) (b : Builder) : (∃ a b', Runs x b a b') ∨ ∃ e, Fails x b e := by
  unfold Fails Runs
  rcases outcome x b with ⟨e | a, b'⟩
  · exact .inr ⟨e, rfl⟩
  · exact .inl ⟨a, b', rfl⟩

theorem fails_forEach {step : α → Build Unit} {as : List α} :
    Fails (forEach as step) b e ↔
      ∃ before a after b', as = before ++ a :: after ∧ Runs (forEach before step) b PUnit.unit b' ∧
        Fails (step a) b' e := by
  induction as generalizing b with
  | nil => simp
  | cons a as ih =>
    rw [forEach_cons, fails_bind]
    constructor
    · rintro (failed | ⟨_, b₁, run, failed⟩)
      · exact ⟨[], a, as, b, rfl, runs_forIn_nil.mpr rfl, failed⟩
      · obtain ⟨before, a', after, b', rfl, rest, failed⟩ := ih.mp failed
        exact ⟨a :: before, a', after, b', rfl, runs_forIn_cons.mpr ⟨b₁, run, rest⟩, failed⟩
    · rintro ⟨before, a', after, b', split, run, failed⟩
      cases before with
      | nil =>
        obtain ⟨rfl, -⟩ := List.cons.inj split
        obtain rfl := runs_forIn_nil.mp run
        exact .inl failed
      | cons _ before =>
        obtain ⟨rfl, rfl⟩ := List.cons.inj split
        obtain ⟨b₁, head, rest⟩ := runs_forIn_cons.mp run
        exact .inr ⟨(), b₁, head, ih.mpr ⟨before, a', after, b', rfl, rest, failed⟩⟩

end Fails

/-- Run from this state, the step leaves a result and a state of this kind, or it fails for an error
of this kind. -/
def Ends (step : Build α) (b : Builder) (after : α → Builder → Prop)
    (fails : Error → Prop) : Prop :=
  match outcome step b with
  | (.ok a, b') => after a b'
  | (.error e, _) => fails e

section Ends
variable {b : Builder} {after : β → Builder → Prop} {fails : Error → Prop}

@[simp] theorem ends_pure {a : β} : Ends (pure a) b after fails ↔ after a b := Iff.rfl

@[simp] theorem ends_bind {x : Build α} {f : α → Build β} :
    Ends (x >>= f) b after fails ↔ Ends x b (fun a b' => Ends (f a) b' after fails) fails := by
  unfold Ends
  rw [outcome_bind]
  rcases outcome x b with ⟨_ | _, _⟩ <;> rfl

@[simp] theorem ends_get {after : Builder → Builder → Prop} : Ends get b after fails ↔ after b b :=
  Iff.rfl

@[simp] theorem ends_modify {f : Builder → Builder} {after : Unit → Builder → Prop} :
    Ends (modify f) b after fails ↔ after () (f b) := Iff.rfl

@[simp] theorem ends_throw {e : Error} : Ends (throw e) b after fails ↔ fails e := Iff.rfl

theorem Ends.of_error {x : Build β} {e : Error} (h : Ends x b after fails)
    (failed : Fails x b e) : fails e := by
  unfold Ends at h
  unfold Fails at failed
  rcases hx : outcome x b with ⟨e' | a, b'⟩
  · rw [hx] at h failed
    exact Except.error.inj failed ▸ h
  · rw [hx] at failed
    cases failed

theorem Ends.imp {x : Build β} {after' : β → Builder → Prop} {fails' : Error → Prop}
    (h : Ends x b after fails) (weaker : ∀ a b', after a b' → after' a b')
    (excuse : ∀ e, fails e → fails' e) : Ends x b after' fails' := by
  unfold Ends at h ⊢
  rcases hx : outcome x b with ⟨e | a, b'⟩
  · rw [hx] at h
    exact excuse e h
  · rw [hx] at h
    exact weaker a b' h

theorem Ends.mono {x : Build β} {after' : β → Builder → Prop} (h : Ends x b after fails)
    (weaker : ∀ a b', after a b' → after' a b') : Ends x b after' fails :=
  h.imp weaker fun _ => id

theorem Ends.of_runs {x : Build β} {a : β} {b' : Builder} (h : Ends x b after fails)
    (run : Runs x b a b') : after a b' := by
  unfold Ends at h
  rwa [run] at h

theorem Ends.exists_fails {x : Build β} (h : Ends x b (fun _ _ => False) fails) :
    ∃ e, Fails x b e ∧ fails e := by
  rcases runs_or_fails x b with ⟨_, _, run⟩ | ⟨e, failed⟩
  · exact (h.of_runs run).elim
  · exact ⟨e, failed, h.of_error failed⟩

@[simp] theorem ends_forIn_nil {step : α → Build Unit} {after : PUnit → Builder → Prop} :
    Ends (forIn [] PUnit.unit fun a _ => do step a; return ForInStep.yield PUnit.unit) b
      after fails ↔ after PUnit.unit b := by
  rw [List.forIn_nil, ends_pure]

@[simp] theorem ends_forIn_cons {step : α → Build Unit} {a : α} {as : List α}
    {after : PUnit → Builder → Prop} :
    Ends (forIn (a :: as) PUnit.unit fun a _ => do step a; return ForInStep.yield PUnit.unit) b
      after fails ↔ Ends (step a) b (fun _ b' =>
        Ends (forIn as PUnit.unit fun a _ => do step a; return ForInStep.yield PUnit.unit) b' after
          fails) fails := by
  rw [List.forIn_cons]
  simp only [ends_bind, ends_pure]

-- Elaborating against a goal unfolds what it can, and the bound on numbers is too large to be
-- unfolded.
attribute [irreducible] Ends

end Ends

end LedgerFlow.Builder
