import LedgerFlow.Proofs.App.Parts

/-!
Schemas are annotations. Whenever an application comes out with schemas it also comes out without
them, and it is then the same up to the places that carry schemas.
-/
namespace LedgerFlow
open Schema

namespace Json

def without (name : String) : Json → Json
  | .object fields => .object (fields.filter (·.1 ≠ name))
  | v => v

def adjust (name : String) (f : Json → Json) : Json → Json
  | .object fields => .object (Table.update fields name f)
  | v => v

def each (f : Json → Json) : Json → Json
  | .array items => .array (items.map f)
  | v => v

def isNamed (names : List String) (v : Json) : Bool :=
  ((v.get? "name").bind (·.text?)).any names.contains

def dropNamed (names : List String) : Json → Json
  | .array items => .array (items.filter fun item => !item.isNamed names)
  | v => v

end Json

def annotationInputs : List String := ["cid", "txID", "txTime"]

/-! What is left of a descriptor when the schemas are erased, from the outside to the inside. -/

namespace Json

def eraseMetadata (metadata : Json) : Json :=
  (metadata.adjust "input" fun inputs =>
    (inputs.dropNamed annotationInputs).each (without "schema")).adjust "output"
    (each (without "schema"))

def eraseFlow (flow : Json) : Json :=
  flow.adjust "data" fun data =>
    (data.adjust "metadata" eraseMetadata).adjust "tasks"
      (each (adjust "activity" (without "schemas")))

def eraseTrigger (trigger : Json) : Json := trigger.adjust "handlers" (each (without "schemas"))

/-- The descriptor of an application without schemas, and without the inputs that come with them. -/
def eraseSchemas (app : Json) : Json :=
  ((app.without "schemas").adjust "triggers" (each eraseTrigger)).adjust "resources"
    (each eraseFlow)

theorem filter_optionalField (key name : String) (v : Option Json) :
    (optionalField name v).filter (·.1 ≠ key) = if name = key then []
      else optionalField name v := by
  cases v <;> by_cases h : name = key <;> simp [optionalField, h]

end Json

/-! The same erasure on the parts of an application before they become JSON. -/

def FlowAttribute.bare (a : FlowAttribute) : FlowAttribute := { a with schema := none }

def FlowMetadata.bare (m : FlowMetadata) : FlowMetadata :=
  { input := (m.input.filter fun a => !annotationInputs.contains a.name).map FlowAttribute.bare
    output := m.output.map FlowAttribute.bare }

def Task.bare (t : Task) : Task := { t with schemas := none }

def Flow.bare (f : Flow) : Flow :=
  { f with metadata := f.metadata.bare, tasks := f.tasks.map Task.bare }

def Handler.bare (h : Handler) : Handler := { h with schemas := none }

def Trigger.bare (t : Trigger) : Trigger := { t with handlers := t.handlers.map Handler.bare }

def App.bare (a : App) : App :=
  { a with trigger := a.trigger.bare, flows := a.flows.map Flow.bare, schemas := none }

private theorem map_toJson_bare {α : Type} {bare : α → α} {toJson : α → Json} {erase : Json → Json}
    (h : ∀ a, toJson (bare a) = erase (toJson a)) (l : List α) :
    (l.map bare).map toJson = (l.map toJson).map erase := by
  rw [List.map_map, List.map_map]
  exact List.map_congr_left fun a _ => h a

theorem FlowAttribute.toJson_bare (a : FlowAttribute) :
    a.bare.toJson = a.toJson.without "schema" := by
  rw [toJson, toJson, Json.without, List.filter_append, List.filter_append,
    Json.filter_optionalField, Json.filter_optionalField]
  rfl

theorem FlowMetadata.toJson_bare (m : FlowMetadata) : m.bare.toJson = m.toJson.eraseMetadata := by
  have inputs : m.bare.input.map FlowAttribute.toJson =
      ((m.input.map FlowAttribute.toJson).filter fun item => !item.isNamed annotationInputs).map
        (Json.without "schema") := by
    rw [bare, map_toJson_bare FlowAttribute.toJson_bare, List.filter_map]
    rfl
  rw [toJson, inputs, bare, map_toJson_bare FlowAttribute.toJson_bare]
  rfl

theorem Task.toJson_bare (t : Task) :
    t.bare.toJson = t.toJson.adjust "activity" (Json.without "schemas") := by
  have around (activity : Json) (f : Json → Json) :
      Table.update ([("id", .text t.id), ("name", .text t.id)] ++
        Json.optionalField "description" (t.description.map .text) ++ [("activity", activity)])
          "activity" f =
      [("id", .text t.id), ("name", .text t.id)] ++
        Json.optionalField "description" (t.description.map .text) ++
          [("activity", f activity)] := by
    cases t.description <;> rfl
  rw [toJson, toJson, Json.adjust, around, Json.without]
  simp only [List.filter_append, Json.filter_optionalField]
  rfl

theorem Flow.toJson_bare (f : Flow) : f.bare.toJson = f.toJson.eraseFlow := by
  rw [toJson, bare, FlowMetadata.toJson_bare, map_toJson_bare Task.toJson_bare]
  rfl

theorem Handler.toJson_bare (h : Handler) : h.bare.toJson = h.toJson.without "schemas" := by
  rw [toJson, toJson, Json.without, List.filter_append, Json.filter_optionalField]
  rfl

theorem Trigger.toJson_bare (t : Trigger) : t.bare.toJson = t.toJson.eraseTrigger := by
  rw [toJson, bare, map_toJson_bare Handler.toJson_bare]
  rfl

theorem App.toJson_bare (a : App) : a.bare.toJson = a.toJson.eraseSchemas := by
  rw [toJson, bare, map_toJson_bare Flow.toJson_bare, Trigger.toJson_bare, toJson,
    Json.eraseSchemas, Json.without, List.filter_append, Json.filter_optionalField]
  rfl

/-! Compiling with schemas and without them, part by part. -/

def Settings.withoutSchemas (s : Settings) : Settings := { s with includeSchemas := false }

def Context.withoutSchemas (context : Context) : Context :=
  { context with settings := context.settings.withoutSchemas }

variable {context : Context}

theorem Task.ofNode_withoutSchemas {name : String} {node : Node} {task : Task}
    (h : (Task.ofNode context name node).result = .ok task) :
    (Task.ofNode context.withoutSchemas name node).result = .ok task.bare := by
  unfold Task.ofNode at h ⊢
  split at h
  · obtain rfl := Except.ok.inj h
    rename_i returns
    rw [if_pos returns]
    rfl
  · rename_i returns
    rw [if_neg returns]
    split at h
    · obtain rfl := Except.ok.inj h
      rfl
    · split at h
      · obtain ⟨schemas, -, h⟩ := Traced.bind_result_ok_iff.mp h
        obtain rfl := Except.ok.inj h
        rfl
      · obtain rfl := Except.ok.inj h
        rfl

theorem tasksOf_withoutSchemas {g : Graph} {names : List String} {tasks : List Task}
    (h : (tasksOf context g names).result = .ok tasks) :
    (tasksOf context.withoutSchemas g names).result = .ok (tasks.map Task.bare) := by
  induction names generalizing tasks with
  | nil =>
    obtain rfl := Except.ok.inj h
    rfl
  | cons name names ih =>
    rw [tasksOf] at h ⊢
    cases found : g.nodes.get? name with
    | none =>
      rw [found] at h
      exact ih h
    | some node =>
      rw [found] at h
      obtain ⟨task, htask, h⟩ := Traced.bind_result_ok_iff.mp h
      obtain ⟨rest, hrest, h⟩ := Traced.bind_result_ok_iff.mp h
      obtain rfl := Except.ok.inj h
      exact Traced.bind_result_ok_iff.mpr ⟨_, Task.ofNode_withoutSchemas htask,
        Traced.bind_result_ok_iff.mpr ⟨_, ih hrest, rfl⟩⟩

theorem flowMetadata_none (t : Transaction) (c : Contract) (schemas : Option HandlerSchemas) :
    flowMetadata t c none = ((flowMetadata t c schemas).1.bare, []) := by
  unfold flowMetadata
  cases schemas <;> cases t.parameters.isEmpty <;> cases t.transient.isEmpty <;> rfl

theorem Flow.ofGraph_withoutSchemas {t : Transaction} {c : Contract} {g : Graph}
    {schemas : Option HandlerSchemas} {flow : Flow} {exports : List Export}
    (h : (Flow.ofGraph context t c g schemas).result = .ok (flow, exports)) :
    (Flow.ofGraph context.withoutSchemas t c g none).result = .ok (flow.bare, []) := by
  unfold Flow.ofGraph at h ⊢
  obtain ⟨tasks, htasks, h⟩ := Traced.bind_result_ok_iff.mp h
  obtain ⟨rfl, -⟩ := Prod.mk.inj (Except.ok.inj h)
  rw [flowMetadata_none t c schemas]
  exact Traced.bind_result_ok_iff.mpr ⟨_, tasksOf_withoutSchemas htasks, rfl⟩

theorem compileTransaction_withoutSchemas {t : Transaction} {c : Contract}
    {schemas : Option HandlerSchemas} {flow : Flow} {exports : List Export}
    (h : (compileTransaction context c schemas t).result = .ok (flow, exports)) :
    (compileTransaction context.withoutSchemas c none t).result = .ok (flow.bare, []) := by
  unfold compileTransaction at h ⊢
  obtain ⟨g, hg, h⟩ := Traced.bind_result_ok_iff.mp h
  obtain ⟨⟨flow', exports'⟩, hflow, h⟩ := Traced.bind_result_ok_iff.mp h
  obtain ⟨rfl, -⟩ := Prod.mk.inj (Except.ok.inj h)
  exact Traced.bind_result_ok_iff.mpr ⟨g, hg,
    Traced.bind_result_ok_iff.mpr ⟨_, Flow.ofGraph_withoutSchemas hflow, rfl⟩⟩

theorem compileTransactions_withoutSchemas {c : Contract} {schemas : Option (Table HandlerSchemas)}
    {transactions : List Transaction} {flows : List Flow} {exports : List Export}
    (h : (compileTransactions context c schemas transactions).result = .ok (flows, exports)) :
    (compileTransactions context.withoutSchemas c none transactions).result =
      .ok (flows.map Flow.bare, []) := by
  induction transactions generalizing flows exports with
  | nil =>
    obtain ⟨rfl, -⟩ := Prod.mk.inj (Except.ok.inj h)
    rfl
  | cons t rest ih =>
    rw [compileTransactions] at h ⊢
    obtain ⟨⟨flow, own⟩, hflow, h⟩ := Traced.bind_result_ok_iff.mp h
    obtain ⟨⟨later, more⟩, hlater, h⟩ := Traced.bind_result_ok_iff.mp h
    obtain ⟨rfl, -⟩ := Prod.mk.inj (Except.ok.inj h)
    rw [Traced.result_onError] at hflow
    refine Traced.bind_result_ok_iff.mpr ⟨(flow.bare, []), ?_,
      Traced.bind_result_ok_iff.mpr ⟨_, ih hlater, rfl⟩⟩
    rw [Traced.result_onError]
    exact compileTransaction_withoutSchemas hflow

theorem Trigger.ofContract_withoutSchemas (settings : Settings) (c : Contract)
    (schemas : Option (Table HandlerSchemas)) :
    Trigger.ofContract settings.withoutSchemas c none =
      (Trigger.ofContract settings c schemas).bare := by
  rw [Trigger.ofContract, Trigger.ofContract, bare, List.map_map]
  rfl

theorem App.ofContract_withoutSchemas {spec : Spec} {name : String} {c : Contract}
    {registry : Registry} {activities : Activities} {settings : Settings} {app : App}
    (h : (App.ofContract spec name c registry activities settings).result = .ok app) :
    (App.ofContract spec name c registry activities settings.withoutSchemas).result =
      .ok app.bare := by
  obtain ⟨replaced, hexpand, schemas, -, ⟨flows, exports⟩, hflows, rfl⟩ :=
    App.ofContract_ok_iff.mp h
  refine App.ofContract_ok_iff.mpr ⟨replaced, hexpand, none, rfl, (flows.map Flow.bare, []),
    compileTransactions_withoutSchemas hflows, ?_⟩
  rw [App.ofParts, Trigger.ofContract_withoutSchemas settings c schemas]
  rfl

/-- An application that comes out with schemas also comes out without them, and then its descriptor
is the one with schemas after they are erased. -/
theorem compile_withoutSchemas {payload : Payload} {contractName : Option String}
    {activities : Activities} {settings : Settings} {app : App}
    (compiled : (compile payload contractName activities settings).result = .ok app) :
    ∃ plain, (compile payload contractName activities settings.withoutSchemas).result = .ok plain ∧
      plain.toJson = app.toJson.eraseSchemas := by
  unfold compile at compiled ⊢
  obtain ⟨spec, hspec, h⟩ := Traced.bind_result_ok_iff.mp compiled
  obtain ⟨⟨name, c⟩, hselect, h⟩ := Traced.bind_result_ok_iff.mp h
  obtain ⟨registry, hregistry, h⟩ := Traced.bind_result_ok_iff.mp h
  refine ⟨app.bare, ?_, app.toJson_bare⟩
  exact Traced.bind_result_ok_iff.mpr
    ⟨spec, hspec, Traced.bind_result_ok_iff.mpr ⟨(name, c), hselect,
    Traced.bind_result_ok_iff.mpr ⟨registry, hregistry, App.ofContract_withoutSchemas h⟩⟩⟩

theorem compile_withoutSchemas_warehouse : ∃ app plain,
    (compile .warehouse none .builtin {}).result = .ok app ∧
      app.flows.map (fun flow =>
          (flow.metadata.input.map (·.name), flow.tasks.map fun task =>
            (task.id, task.schemas.isSome))) =
        [(["cid", "txID", "txTime"], [("get_1", true)]),
          (["parameters", "cid", "txID", "txTime"], [("noop_1", false), ("put_1", true)])] ∧
      (compile .warehouse none .builtin (Settings.withoutSchemas {})).result = .ok plain ∧
      plain.toJson = app.toJson.eraseSchemas := by
  obtain ⟨app, happ, flows⟩ := App.exists_ofContract_warehouse
  have compiled := compile_warehouse happ
  obtain ⟨plain, hplain, erased⟩ := compile_withoutSchemas compiled
  exact ⟨app, plain, compiled, flows, hplain, erased⟩

end LedgerFlow
