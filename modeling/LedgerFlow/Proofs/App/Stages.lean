import LedgerFlow.Proofs.App.Annotation
import LedgerFlow.Proofs.App.HandlerSchemas
import LedgerFlow.Proofs.Graph.Linking
import LedgerFlow.Proofs.Graph.Numbering
import LedgerFlow.Proofs.Schema.Refusal

/-!
What the stages of a compilation fail for beside the contract. Most of them turn whatever they find
wrong into a failure about the contract; the linking of a transaction can come upon an integer that
is too long, and the schema library can fail on the schema of a component, on what an action
declares, and on a sample beside that.
-/
namespace LedgerFlow
open Schema

/-- A failure that is not about the contract has such a cause. -/
def ForeignWithin {α : Type} (cause : Error → Prop) (x : Except Error α) : Prop :=
  ∀ e, x = .error e → e.isForeign = true → cause e

namespace ForeignWithin
variable {α β : Type} {cause : Error → Prop}

theorem ok (a : α) : ForeignWithin cause (.ok a) := nofun

theorem error {e : Error} (h : e.isForeign = false) :
    ForeignWithin cause (.error e : Except Error α) := by
  rintro _ ⟨⟩ foreign
  rw [h] at foreign
  cases foreign

theorem mono {more : Error → Prop} {x : Except Error α} (h : ForeignWithin cause x)
    (sub : ∀ e, cause e → more e) : ForeignWithin more x :=
  fun e failed foreign => sub e (h e failed foreign)

theorem bind {x : Except Error α} {f : α → Except Error β} (hx : ForeignWithin cause x)
    (hf : ∀ a, x = .ok a → ForeignWithin cause (f a)) : ForeignWithin cause (x >>= f) := by
  intro e h
  rcases bind_eq_error_iff.mp h with first | ⟨a, ha, second⟩
  · exact hx e first
  · exact hf a ha e second

theorem map {x : Except Error α} (hx : ForeignWithin cause x) (f : α → β) :
    ForeignWithin cause (x.map f) :=
  fun e h => hx e (map_eq_error_iff.mp h)

theorem bind_traced {x : Traced α} {f : α → Traced β} (hx : ForeignWithin cause x.result)
    (hf : ∀ a, x.result = .ok a → ForeignWithin cause (f a).result) :
    ForeignWithin cause (x >>= f).result := by
  rw [Traced.result_bind]
  exact hx.bind hf

end ForeignWithin

-- Where the cause is left open, the stage needs none.
variable {cause : Error → Prop}

namespace Schema
variable {documents : Table Json}

/-! References and their expansion. -/

theorem resolve_foreignWithin (ref : Json) : ForeignWithin cause (resolve documents ref) := by
  unfold resolve
  split
  · split
    · exact .ok _
    · exact .error rfl
  · exact .error rfl

theorem Registry.expandAll_foreignWithin (r : Registry) :
    ForeignWithin cause r.expandAll.2.result := by
  intro e h
  cases searched : checkCycles r.documents with
  | error e' =>
    rw [Registry.expandAll_of_checkCycles_error searched] at h
    obtain rfl := Except.error.inj h
    cases checkCycles_refFailure searched <;> nofun
  | ok _ =>
    rcases Registry.expandAll_error_of_checkCycles searched h with
      ⟨keys, rfl⟩ | ⟨_, _, _, ref, -, -, unresolved⟩
    · nofun
    · exact resolve_foreignWithin ref e unresolved

theorem expandWith_foreignWithin {f : Json → Except Error Json}
    (hf : ∀ ref, ForeignWithin cause (f ref)) (v : Json) :
    ForeignWithin cause (expandWith f v) := by
  intro e h
  obtain ⟨ref, -, failed⟩ := exists_meets_of_expandWith_error h
  exact hf ref e failed

theorem follow_foreignWithin (left : Nat) (path : List String) (ref : Json) :
    ForeignWithin cause (follow documents left path ref) := by
  induction left generalizing path ref with
  | zero => exact (resolve_foreignWithin ref).bind fun _ _ => .error rfl
  | succ left ih =>
    refine (resolve_foreignWithin ref).bind fun ⟨key, document⟩ _ => ?_
    dsimp only
    split
    · exact .error rfl
    · exact expandWith_foreignWithin (ih _) document

theorem expandDocument_foreignWithin (document : Json) :
    ForeignWithin cause (expandDocument documents document) :=
  expandWith_foreignWithin (follow_foreignWithin _ _) document

/-! Schemas that are checked. -/

def LibraryCause (P : Failure → Prop) (e : Error) : Prop :=
  ∃ failure, e = .validation failure ∧ P failure

theorem LibraryCause.mono {P Q : Failure → Prop} (sub : ∀ failure, P failure → Q failure)
    {e : Error} (h : LibraryCause P e) : LibraryCause Q e := by
  obtain ⟨failure, rfl, holds⟩ := h
  exact ⟨failure, rfl, sub failure holds⟩

theorem mapError_validation_foreignWithin {α : Type} (x : Except Failure α) :
    ForeignWithin (LibraryCause fun failure => x = .error failure) (x.mapError .validation) := by
  intro e h _
  cases x with
  | ok a => cases h
  | error failure => exact ⟨failure, (Except.error.inj h).symm, rfl⟩

section
variable [Library]

inductive ComponentFails (entries : List (String × Component)) : Failure → Prop
  | intro {name : String} {c : Component} {failure : Failure} (listed : (name, c) ∈ entries)
      (failed : check (componentSchema c) (some name) = .error (.validation failure)) :
      ComponentFails entries failure

theorem check_foreignWithin (schema : Json) (name : Option String) :
    ForeignWithin (LibraryCause fun failure => check schema name = .error (.validation failure))
      (check schema name) := by
  have told : ForeignWithin (LibraryCause fun _ => True) (check schema name) := by
    unfold check
    refine ((mapError_validation_foreignWithin _).mono fun _ => .mono fun _ _ => trivial).bind
      fun found _ => ?_
    cases found with
    | none => exact .ok _
    | some fault =>
      refine ((mapError_validation_foreignWithin _).mono fun _ => .mono fun _ _ => trivial).bind
        fun all _ => ?_
      cases all <;> exact .error rfl
  intro e h foreign
  obtain ⟨failure, rfl, -⟩ := told e h foreign
  exact ⟨failure, rfl, h⟩

theorem checkComponent_foreignWithin (name : String) (c : Component) :
    ForeignWithin (LibraryCause fun failure =>
      check (componentSchema c) (some name) = .error (.validation failure))
        (checkComponent name c) := by
  unfold checkComponent
  split
  · exact (check_foreignWithin _ _).bind fun _ _ => .ok _
  · exact .error rfl

theorem componentDocuments_foreignWithin (entries : List (String × Component)) :
    ForeignWithin (LibraryCause (ComponentFails entries)) (componentDocuments entries) := by
  induction entries with
  | nil => exact .ok _
  | cons entry rest ih =>
    obtain ⟨name, c⟩ := entry
    refine ForeignWithin.bind ((checkComponent_foreignWithin name c).mono ?_) fun _ _ =>
      (ih.mono ?_).bind fun _ _ => .ok _
    · exact fun _ => .mono fun _ failed => .intro List.mem_cons_self failed
    · exact fun _ => .mono fun _ ⟨listed, failed⟩ => .intro (List.mem_cons_of_mem _ listed) failed

theorem Registry.ofComponents_foreignWithin (components : Option Components) (maxPasses : Int) :
    ForeignWithin (LibraryCause (ComponentFails ((components.map (·.schemas)).getD [])))
      (Registry.ofComponents components maxPasses) :=
  (componentDocuments_foreignWithin _).bind fun _ _ => .ok _

end

end Schema

/-! The schemas of handlers. -/

theorem returnSchema_foreignWithin (documents : Table Json) (t : Transaction) :
    ForeignWithin cause (returnSchema documents t) := by
  unfold returnSchema
  split
  · exact .ok _
  · split
    · exact (resolve_foreignWithin _).bind fun _ _ => .ok _
    · exact (expandDocument_foreignWithin _).bind fun _ _ => .ok _

theorem parameterSchemas_foreignWithin (documents : Table Json) (parameters : List Parameter) :
    ForeignWithin cause (parameterSchemas documents parameters) := by
  induction parameters with
  | nil => exact .ok _
  | cons p rest ih =>
      exact (expandDocument_foreignWithin _).bind fun _ _ => ih.bind fun _ _ => .ok _

theorem handlerSchemas_foreignWithin (documents : Table Json) (t : Transaction) :
    ForeignWithin cause (handlerSchemas documents t) := by
  rw [handlerSchemas_eq]
  refine (returnSchema_foreignWithin documents t).bind fun reply _ =>
    ForeignWithin.bind ?_ fun parameters _ =>
    ForeignWithin.bind ?_ fun transient _ => .ok _
  · unfold parameterEntry
    split
    · exact .ok _
    · exact (parameterSchemas_foreignWithin documents _).map _
  · unfold transientEntry
    split
    · exact .ok _
    · exact (expandDocument_foreignWithin _).map _

theorem transactionSchemas_foreignWithin (documents : Table Json)
    (transactions : List Transaction) :
    ForeignWithin cause (transactionSchemas documents transactions) := by
  induction transactions with
  | nil => exact .ok _
  | cons t rest ih => exact (handlerSchemas_foreignWithin
      documents t).bind fun _ _ => ih.bind fun _ _ => .ok _

theorem contractSchemas_foreignWithin (settings : Settings) (documents : Table Json)
    (transactions : List Transaction) :
    ForeignWithin cause (contractSchemas settings documents transactions) := by
  unfold contractSchemas
  split
  · exact (transactionSchemas_foreignWithin documents transactions).map _
  · exact .ok _

/-! The schemas of steps. -/

section
variable [Library]

inductive StepFails (documents : Table Json) (action : Action) : Failure → Prop
  | declared {input : ActionInput} {key : String} {written schema : Json} {failure : Failure}
      (takes : action.input = some input) (listed : (key, written) ∈ input.schema)
      (expands : expandDocument documents written = .ok schema)
      (failed : checkDeclared schema (action.label ++ "." ++ key) = .error (.validation failure)) :
      StepFails documents action failure
  | sample {input : ActionInput} {key : String} {written schema sample : Json} {failure : Failure}
      (takes : action.input = some input) (listed : (key, written) ∈ input.schema)
      (expands : expandDocument documents written = .ok schema)
      (given : input.sample.get? key = some sample)
      (failed : validate schema sample = .error (.validation failure)) :
      StepFails documents action failure
  | ledger {written : List (String × Json)} {value : Json} {failure : Failure}
      (declares : action.ledger = some written)
      (expands : expandDocument documents (.object written) = .ok value)
      (failed : checkDeclared value (action.label ++ ".ledger") = .error (.validation failure)) :
      StepFails documents action failure

theorem checkDeclared_foreignWithin (schema : Json) (label : String) :
    ForeignWithin (LibraryCause fun failure => checkDeclared schema label =
      .error (.validation failure)) (checkDeclared schema label) := by
  cases schema with
  | object _ => exact check_foreignWithin _ _
  | bool _ => exact check_foreignWithin _ _
  | _ => exact .error rfl

theorem validate_foreignWithin (schema v : Json) :
    ForeignWithin (LibraryCause fun failure => validate schema v = .error (.validation failure))
      (validate schema v) := by
  intro e h foreign
  obtain ⟨failure, rfl, -⟩ := mapError_validation_foreignWithin _ e h foreign
  exact ⟨failure, rfl, h⟩

section
variable (documents : Table Json) (action : Action)

theorem declaredSchema_foreignWithin {input : ActionInput} (takes : action.input = some input)
    {entry : String × Json} (listed : entry ∈ input.schema) :
    ForeignWithin (LibraryCause (StepFails documents action))
      (declaredSchema documents action input entry) := by
  refine (expandDocument_foreignWithin entry.2).bind fun schema expands => ?_
  refine ForeignWithin.bind
    ((checkDeclared_foreignWithin schema _).mono fun _ => .mono fun _ failed =>
    .declared takes listed expands failed) fun _ _ => ForeignWithin.bind ?_ fun _ _ => .ok _
  unfold sampleOutcome
  split
  · rename_i sample given
    refine ForeignWithin.map ((validate_foreignWithin schema sample).mono fun _ =>
      .mono fun _ failed => ?_) _
    exact .sample takes listed expands given failed
  · exact .ok _

theorem inputSchemas_foreignWithin :
    ForeignWithin (LibraryCause (StepFails documents action))
      (inputSchemas documents action).result := by
  unfold inputSchemas
  split
  · exact .ok _
  · rename_i input takes
    refine ForeignWithin.bind_traced (fun e h => ?_) fun _ _ => .ok _
    rw [result_declaredSchemas, mapM_eq_error_iff] at h
    obtain ⟨before, entry, after, all, -, failed⟩ := h
    have listed : entry ∈ input.schema := all ▸ List.mem_append_right before List.mem_cons_self
    exact declaredSchema_foreignWithin documents action takes listed e failed

theorem ledgerSchema_foreignWithin (activity : Activity) :
    ForeignWithin (LibraryCause (StepFails documents action))
      (ledgerSchema documents action activity) := by
  unfold ledgerSchema
  split
  · exact .ok _
  split
  · exact .ok _
  split
  · exact .ok _
  split
  · exact .ok _
  · exact .ok _
  · rename_i written _ declares
    refine (expandDocument_foreignWithin _).bind fun value expands => ?_
    refine ForeignWithin.bind
      ((checkDeclared_foreignWithin value _).mono fun _ => .mono fun _ failed => ?_)
      fun _ _ => .ok _
    exact .ledger declares expands failed

theorem stepSchemas_foreignWithin (activity : Activity) :
    ForeignWithin (LibraryCause (StepFails documents action))
      (stepSchemas documents action activity).result :=
  ForeignWithin.bind_traced (inputSchemas_foreignWithin documents action) fun _ _ =>
    ForeignWithin.bind_traced (ledgerSchema_foreignWithin documents action activity) fun _ _ =>
      .ok _

end

/-! Flows. -/

inductive ActionsFail (context : Context) (actions : List Action) : Failure → Prop
  | intro {action : Action} {failure : Failure} (included : context.settings.includeSchemas = true)
      (mem : action ∈ actions) (fails : StepFails context.documents action failure) :
      ActionsFail context actions failure

section
variable {context : Context} {actions : List Action}

theorem Task.ofNode_foreignWithin (name : String) {node : Node}
    (mem : ∀ action ∈ node.action, action ∈ actions) :
    ForeignWithin (LibraryCause (ActionsFail context actions))
      (Task.ofNode context name node).result := by
  unfold Task.ofNode
  dsimp only
  split
  · exact .ok _
  · split
    · exact .ok _
    · rename_i action own
      split
      · rename_i included
        refine ForeignWithin.bind_traced
          ((stepSchemas_foreignWithin context.documents action _).mono ?_) fun _ _ => .ok _
        exact fun _ => .mono fun _ fails => .intro included (mem action own) fails
      · exact .ok _

theorem tasksOf_foreignWithin {graph : Graph}
    (mem : ∀ name node, graph.nodes.get? name = some node → ∀ action ∈ node.action,
      action ∈ actions)
    (names : List String) :
    ForeignWithin (LibraryCause (ActionsFail context actions))
      (tasksOf context graph names).result := by
  induction names with
  | nil => exact .ok _
  | cons name rest ih =>
    unfold tasksOf
    split
    · exact ih
    · rename_i node found
      refine ForeignWithin.bind_traced (Task.ofNode_foreignWithin name (mem name node found))
        fun _ _ => ?_
      exact ForeignWithin.bind_traced ih fun _ _ => .ok _

/-- What the compilation of a transaction comes upon: an integer in its linking, or a failure of the
library. -/
def TransactionCause (context : Context) (t : Transaction) (e : Error) : Prop :=
  Builder.Oversized context.activities t e ∨
    LibraryCause (ActionsFail context (t.rules.flatMap (·.actions))) e

theorem compileTransaction_foreignWithin (c : Contract) (schemas : Option HandlerSchemas)
    (t : Transaction) :
    ForeignWithin (TransactionCause context t) (compileTransaction context c schemas t).result := by
  have linked : ForeignWithin (Builder.Oversized context.activities t)
      (Graph.ofTransaction context.activities t) :=
    fun _ => Graph.ofTransaction_excused
  refine ForeignWithin.bind_traced (linked.mono fun _ => .inl) fun graph built => ?_
  refine ForeignWithin.bind_traced (ForeignWithin.mono ?_ fun _ => .inr) fun _ _ => ?_
  · refine ForeignWithin.bind_traced (tasksOf_foreignWithin ?_ _) fun _ _ => .ok _
    exact fun name node found action own => Graph.mem_actions_of_get? built found own
  · exact ForeignWithin.bind_traced (.ok ()) fun _ _ => .ok _

theorem compileTransactions_foreignWithin (c : Contract) (schemas : Option (Table HandlerSchemas))
    (transactions : List Transaction) :
    ForeignWithin (fun e => ∃ t ∈ transactions, TransactionCause context t e)
      (compileTransactions context c schemas transactions).result := by
  induction transactions with
  | nil => exact .ok _
  | cons t rest ih =>
    unfold compileTransactions
    refine ForeignWithin.bind_traced ?_ fun first _ => ?_
    · rw [Traced.result_onError]
      exact (compileTransaction_foreignWithin c _ t).mono fun e caused =>
        ⟨t, List.mem_cons_self, caused⟩
    · refine ForeignWithin.bind_traced (ih.mono ?_) fun _ _ => .ok _
      rintro e ⟨t, ht, caused⟩
      exact ⟨t, List.mem_cons_of_mem _ ht, caused⟩

end

end

end LedgerFlow
