import LedgerFlow.Proofs.App.HandlerSchemas
import LedgerFlow.Proofs.Flow.Tree
import LedgerFlow.Proofs.Schema.Definitions

/-!
What goes into an application with schemas: a description, the registry of its components, which is
expanded once and then exported into, and the share of each transaction, made from the schemas of
its handler.
-/
namespace LedgerFlow
open Schema Spec Spec.Decoder

def Spec.allComponents (spec : Spec) : Components := spec.components.getD {}

theorem Spec.ofComponents_allComponents (spec : Spec) (maxPasses : Int) :
    Registry.ofComponents (some spec.allComponents) maxPasses =
      Registry.ofComponents spec.components maxPasses := by
  unfold Spec.allComponents
  cases spec.components <;> rfl

theorem Spec.keys_allComponents (spec : Spec) :
    spec.allComponents.schemas.keys = componentNames spec.components := by
  unfold Spec.allComponents
  cases spec.components <;> rfl

theorem Spec.nodup_allComponents {payload : Payload} (distinct : payload.Distinct) {spec : Spec}
    (parsed : Spec.parse payload = .ok spec) : spec.allComponents.schemas.keys.Nodup := by
  rw [Spec.keys_allComponents]
  exact Spec.nodup_components distinct parsed

theorem Settings.one_le_maxRefPasses {given : Table Json} {environment : List (String × String)}
    {settings : Settings} (h : Settings.decode given environment = .ok settings) :
    1 ≤ settings.maxRefPasses := by
  obtain ⟨_, level, upToPasses, -, rfl⟩ := Decoded.seq_ok_iff.mp h
  obtain ⟨_, passes, upToTrigger, hpasses, rfl⟩ := Decoded.seq_ok_iff.mp upToPasses
  obtain ⟨_, _, upToModel, -, rfl⟩ := Decoded.seq_ok_iff.mp upToTrigger
  obtain ⟨_, _, upToStyle, -, rfl⟩ := Decoded.seq_ok_iff.mp upToModel
  obtain ⟨_, _, included, -, rfl⟩ := Decoded.seq_ok_iff.mp upToStyle
  obtain ⟨_, -, rfl⟩ := Decoded.map_ok_iff.mp included
  change 1 ≤ passes
  rcases of_defaulting hpasses with ⟨v, -, hpasses⟩ | rfl
  · obtain ⟨-, obeyed⟩ := Decoded.obeying_ok_iff.mp hpasses
    by_contra below
    rw [if_pos (by omega)] at obeyed
    cases obeyed
  · decide

inductive Compiled (payload : Payload) (choice : Option String) (activities : Activities)
    (settings : Settings) :
    App → Prop
  | intro {spec : Spec} {name : String} {c : Contract} {registry : Registry} {replaced : Nat}
      {shares : List Share} (parsed : Spec.parse payload = .ok spec)
      (selected : spec.select choice = .ok (name, c))
      (accepted : Registry.ofComponents (some spec.allComponents) settings.maxRefPasses =
        .ok registry)
      (expanded : registry.expandAll.2.result = .ok replaced) (shared : List.Forall₂ (fun t share =>
        Share.ofTransaction (registry.context activities settings) c t = .ok share)
          c.transactions shares) :
      Compiled payload choice activities settings
        (App.ofShares spec name c registry settings shares)

theorem compiled_of_compile {payload : Payload} {choice : Option String} {activities : Activities}
    {settings : Settings} {app : App}
    (h : (compile payload choice activities settings).result = .ok app) :
    Compiled payload choice activities settings app := by
  unfold compile at h
  obtain ⟨spec, parsed, h⟩ := Traced.bind_result_ok_iff.mp h
  obtain ⟨⟨name, c⟩, selected, h⟩ := Traced.bind_result_ok_iff.mp h
  obtain ⟨registry, accepted, h⟩ := Traced.bind_result_ok_iff.mp h
  obtain ⟨⟨replaced, expanded⟩, shares, shared, rfl⟩ :=
    (App.ofContract_ok_iff_shares (Spec.distinct_of_parse parsed selected)).mp h
  exact .intro parsed selected ((spec.ofComponents_allComponents _).trans accepted) expanded shared

/-- What the share of a transaction shows of the schemas of its handler and of its steps. -/
structure Share.Shows (share : Share) (context : Context) (c : Contract) (t : Transaction)
    (schemas : HandlerSchemas) : Prop where
  handler : share.handler.schemas = some (carriedSchemas schemas)
  metadata : share.flow.metadata = (flowMetadata t c (some schemas)).1
  exports : share.exports = (flowMetadata t c (some schemas)).2
  tasks : ∀ task ∈ share.flow.tasks, ∀ own, task.schemas = some own →
    ∃ action activity, (stepSchemas context.documents action activity).result = .ok own

section
variable {context : Context} {c : Contract} {t : Transaction}

theorem Task.stepSchemas_of_ofNode {name : String} {node : Node} {task : Task}
    (h : (Task.ofNode context name node).result = .ok task) {own : StepSchemas}
    (carries : task.schemas = some own) :
    ∃ action activity, (stepSchemas context.documents action activity).result = .ok own := by
  unfold Task.ofNode at h
  split at h
  · obtain rfl := Except.ok.inj h
    cases carries
  · split at h
    · obtain rfl := Except.ok.inj h
      cases carries
    · split at h
      · obtain ⟨schemas, hschemas, h⟩ := Traced.bind_result_ok_iff.mp h
        obtain rfl := Except.ok.inj h
        obtain rfl := Option.some.inj carries
        exact ⟨_, _, hschemas⟩
      · obtain rfl := Except.ok.inj h
        cases carries

theorem exists_ofNode_of_tasksOf {g : Graph} {names : List String} {tasks : List Task}
    (h : (tasksOf context g names).result = .ok tasks) :
    ∀ task ∈ tasks, ∃ name node, (Task.ofNode context name node).result = .ok task := by
  induction names generalizing tasks with
  | nil =>
    obtain rfl := Except.ok.inj h
    exact nofun
  | cons name names ih =>
    rw [tasksOf] at h
    split at h
    · exact ih h
    · obtain ⟨task, htask, h⟩ := Traced.bind_result_ok_iff.mp h
      obtain ⟨rest, hrest, h⟩ := Traced.bind_result_ok_iff.mp h
      obtain rfl := Except.ok.inj h
      exact List.forall_mem_cons.mpr ⟨⟨_, _, htask⟩, ih hrest⟩

theorem of_compileTransaction {schemas : Option HandlerSchemas} {flow : Flow}
    {exports : List Export}
    (h : (compileTransaction context c schemas t).result = .ok (flow, exports)) :
    (flow.id = t.resourceId ∧ flow.name = t.name) ∧ flow.metadata = (flowMetadata t c schemas).1 ∧
      exports = (flowMetadata t c schemas).2 ∧ ∃ g names, (tasksOf context g names).result =
        .ok flow.tasks := by
  unfold compileTransaction at h
  obtain ⟨g, -, h⟩ := Traced.bind_result_ok_iff.mp h
  obtain ⟨⟨flow', exports'⟩, hflow, h⟩ := Traced.bind_result_ok_iff.mp h
  obtain ⟨rfl, rfl⟩ := Prod.mk.inj (Except.ok.inj h)
  unfold Flow.ofGraph at hflow
  obtain ⟨tasks, htasks, hflow⟩ := Traced.bind_result_ok_iff.mp hflow
  obtain ⟨rfl, rfl⟩ := Prod.mk.inj (Except.ok.inj hflow)
  exact ⟨⟨rfl, rfl⟩, rfl, rfl, g, _, htasks⟩

theorem Share.exists_shows (included : context.settings.includeSchemas = true) {share : Share}
    (h : Share.ofTransaction context c t = .ok share) :
    ∃ schemas, handlerSchemas context.documents t = .ok schemas ∧
      share.Shows context c t schemas := by
  obtain ⟨own, hown, hflow, hhandler⟩ := Share.ofTransaction_ok_iff.mp h
  rw [ownSchemas, if_pos included] at hown
  obtain ⟨schemas, hschemas, rfl⟩ := map_eq_ok_iff.mp hown
  obtain ⟨-, metadata, exports, g, names, htasks⟩ := of_compileTransaction hflow
  refine ⟨schemas, hschemas, ⟨?_, metadata, exports, ?_⟩⟩
  · rw [← hhandler]
    rfl
  · intro task htask own carries
    obtain ⟨_, _, hnode⟩ := exists_ofNode_of_tasksOf htasks task htask
    exact Task.stepSchemas_of_ofNode hnode carries

end

theorem Payload.distinct_warehouse : Payload.warehouse.Distinct := by
  simp [Payload.Distinct, warehouse, Json.distinct_object, Json.distinct_array, Json.distinct_text,
    Table.keys]

end LedgerFlow
