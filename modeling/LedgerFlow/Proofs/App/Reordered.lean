import LedgerFlow.Proofs.App.Compilation
import LedgerFlow.Proofs.Schema.Reordered

/-!
Components in another order. All that a compilation asks of the expanded documents is what stands
under a key, so with the same documents in another order every transaction gets the same share; only
the definitions come in another order.
-/
namespace LedgerFlow
open Schema

namespace Schema.SameLookup
variable {documents documents' : Table Json}

theorem parameterSchemas_eq (same : SameLookup documents documents') (parameters : List Parameter) :
    parameterSchemas documents parameters = parameterSchemas documents' parameters := by
  induction parameters with
  | nil => rfl
  | cons p rest ih => rw [parameterSchemas, parameterSchemas, same.expandDocument_eq, ih]

theorem handlerSchemas_eq (same : SameLookup documents documents') (t : Transaction) :
    handlerSchemas documents t = handlerSchemas documents' t := by
  unfold handlerSchemas returnSchema
  rw [same.resolve_eq, same.expandDocument_eq, same.parameterSchemas_eq]

theorem declaredSchemas_eq (same : SameLookup documents documents') (action : Action)
    (input : ActionInput) (declared : List (String × Json)) :
    declaredSchemas documents action input declared =
      declaredSchemas documents' action input declared := by
  induction declared with
  | nil => rfl
  | cons entry rest ih => rw [declaredSchemas, declaredSchemas, same.expandDocument_eq, ih]

theorem stepSchemas_eq (same : SameLookup documents documents') (action : Action)
    (activity : Activity) :
    stepSchemas documents action activity = stepSchemas documents' action activity := by
  unfold stepSchemas inputSchemas ledgerSchema
  simp only [same.expandDocument_eq, same.declaredSchemas_eq]

end Schema.SameLookup

structure Context.Alike (context context' : Context) : Prop where
  documents : SameLookup context.documents context'.documents
  activities : context.activities = context'.activities
  settings : context.settings = context'.settings

namespace Context.Alike
variable {context context' : Context}

theorem ownSchemas_eq (alike : context.Alike context') (t : Transaction) :
    ownSchemas context t = ownSchemas context' t := by
  unfold ownSchemas
  rw [alike.settings, alike.documents.handlerSchemas_eq]

theorem ofNode_eq (alike : context.Alike context') (name : String) (node : Node) :
    Task.ofNode context name node = Task.ofNode context' name node := by
  unfold Task.ofNode
  simp only [alike.settings, alike.documents.stepSchemas_eq]

theorem tasksOf_eq (alike : context.Alike context') (g : Graph) (names : List String) :
    tasksOf context g names = tasksOf context' g names := by
  induction names with
  | nil => rfl
  | cons name rest ih =>
    rw [tasksOf, tasksOf]
    simp only [alike.ofNode_eq, ih]

theorem compileTransaction_eq (alike : context.Alike context') (c : Contract)
    (schemas : Option HandlerSchemas) (t : Transaction) :
    compileTransaction context c schemas t = compileTransaction context' c schemas t := by
  unfold compileTransaction Flow.ofGraph
  simp only [alike.activities, alike.tasksOf_eq]

theorem share_eq (alike : context.Alike context') (c : Contract) (t : Transaction) :
    Share.ofTransaction context c t = Share.ofTransaction context' c t := by
  unfold Share.ofTransaction
  simp only [alike.ownSchemas_eq, alike.compileTransaction_eq, alike.settings]

end Context.Alike

def Spec.reordered (spec : Spec) (entries : Table Component) : Spec :=
  { spec with components := some { schemas := entries } }

theorem shares_unique {make : Transaction → Except Error Share} {transactions : List Transaction}
    {shares shares' : List Share}
    (h : List.Forall₂ (fun t share => make t = .ok share) transactions shares)
    (h' : List.Forall₂ (fun t share => make t = .ok share) transactions shares') :
    shares = shares' := by
  induction h generalizing shares' with
  | nil =>
    cases h'
    rfl
  | cons head _ ih =>
    cases h' with
    | cons head' tail' => rw [Except.ok.inj (head.symm.trans head'), ih tail']

/-- The same definitions, in any order, or none on both sides. -/
inductive SameDefinitions : Option (Table FlowSchema) → Option (Table FlowSchema) → Prop
  | none : SameDefinitions .none .none
  | some {table table' : Table FlowSchema} (same : ∀ key, table.get? key = table'.get? key) :
      SameDefinitions (.some table) (.some table')

theorem Schema.Registry.derived_exporting (r : Registry) (exports : List Export) :
    (r.exporting exports).derived =
      exports.foldl (fun t e => t.insert e.key e.schema) r.derived := by
  unfold Registry.exporting
  induction exports generalizing r with
  | nil => rfl
  | cons e exports ih => exact ih _

section
variable {spec : Spec} {entries : Table Component} {maxPasses : Int} {registry registry' : Registry}

theorem documents_perm (perm : entries.Perm spec.allComponents.schemas)
    (accepted : Registry.ofComponents (some spec.allComponents) maxPasses = .ok registry)
    (accepted' : Registry.ofComponents (some (spec.reordered entries).allComponents) maxPasses =
      .ok registry') :
    registry.documents.Perm registry'.documents := by
  rw [Registry.ofComponents_eq accepted, Registry.ofComponents_eq accepted']
  exact (perm.map _).symm

theorem get?_definitions_exporting (distinct : (componentNames (some spec.allComponents)).Nodup)
    (accepted : Registry.ofComponents (some spec.allComponents) maxPasses = .ok registry)
    (accepted' : Registry.ofComponents (some (spec.reordered entries).allComponents) maxPasses =
      .ok registry')
    (expanded : registry.expandAll.1.documents.Perm registry'.expandAll.1.documents)
    (slashes : ∀ name ∈ spec.allComponents.schemas.keys, '/' ∉ name.toList) (exports : List Export)
    (key : String) :
    (registry.expandAll.1.exporting exports).definitions.get? key =
      (registry'.expandAll.1.exporting exports).definitions.get? key := by
  apply Registry.get?_definitions_of_perm
  · rwa [Registry.documents_exporting, Registry.documents_exporting]
  · rw [Registry.derived_exporting, Registry.derived_exporting, Registry.derived_expandAll,
      Registry.derived_expandAll, Registry.ofComponents_eq accepted, Registry.ofComponents_eq
        accepted']
  · have bare : registry.documents.keys.map refName = componentNames (some spec.allComponents) := by
      rw [Registry.keys_ofComponents accepted, List.map_map]
      exact (List.map_congr_left fun name hname => refName_of_no_slash (slashes name hname)).trans
        (List.map_id _)
    rwa [Registry.documents_exporting, Registry.keys_expandAll, bare]

end

/-- With its components in another order, a description that still compiles gives the same
trigger and the same flows, and under each key the same definition, if no name of a component
holds a slash. -/
theorem compile_reordered {payload payload' : Payload} (distinct : payload.Distinct)
    {choice : Option String} {activities : Activities} {given : Table Json}
    {environment : List (String × String)} {settings : Settings}
    (decoded : Settings.decode given environment = .ok settings) {spec : Spec}
    {entries : Table Component} (perm : entries.Perm spec.allComponents.schemas)
    (parsed : Spec.parse payload = .ok spec)
    (parsed' : Spec.parse payload' = .ok (spec.reordered entries)) {app app' : App}
    (compiled : (compile payload choice activities settings).result = .ok app)
    (compiled' : (compile payload' choice activities settings).result = .ok app') :
    app.trigger = app'.trigger ∧ app.flows = app'.flows ∧
      ((∀ name ∈ spec.allComponents.schemas.keys, '/' ∉ name.toList) →
        SameDefinitions app.schemas app'.schemas) := by
  have passes := Settings.one_le_maxRefPasses decoded
  have names : (componentNames (some spec.allComponents)).Nodup :=
    Spec.nodup_allComponents distinct parsed
  obtain @⟨_, name, c, registry, replaced, shares, own, selected, accepted, expanded, shared⟩ :=
    compiled_of_compile compiled
  obtain @⟨_, name', c', registry', replaced', shares', own', selected', accepted', expanded',
      shared'⟩ :=
    compiled_of_compile compiled'
  obtain rfl := Except.ok.inj (parsed.symm.trans own)
  obtain rfl := Except.ok.inj (parsed'.symm.trans own')
  obtain ⟨rfl, rfl⟩ := Prod.mk.inj (Except.ok.inj (selected.symm.trans selected'))
  have nodup := Registry.nodup_keys_ofComponents accepted names
  have documents := Registry.perm_expandAll nodup (documents_perm perm accepted accepted')
    (Registry.maxPasses_ofComponents accepted ▸ passes)
      (Registry.maxPasses_ofComponents accepted' ▸ passes)
    (Registry.ofComponents_plainTops accepted) expanded expanded'
  have alike : (registry.context activities settings).Alike
      (registry'.context activities settings) :=
    ⟨.of_perm (Registry.keys_expandAll registry ▸ nodup) documents, rfl, rfl⟩
  obtain rfl : shares = shares' := by
    refine shares_unique shared ?_
    simpa only [alike.share_eq] using shared'
  refine ⟨rfl, rfl, fun slashes => ?_⟩
  unfold App.ofShares
  cases settings.includeSchemas with
  | false => exact .none
  | true =>
    refine .some fun key => ?_
    rw [Table.get?_mapValues, Table.get?_mapValues,
      get?_definitions_exporting names accepted accepted' documents slashes]

/-! A description with two components, one of which refers to the other, in both orders. -/

def Payload.shelf (components : List (String × Json)) : Payload := .value (.object
  [("info", .object []), ("components", .object [("schemas", .object components)]),
   ("contracts", .object [("shelf", .object
     [("transactions", .array [.object
       [("name", .text "store"),
        ("parameters", .array [.object
          [("name", .text "box"), ("schema",
            .object [("$ref", .text "#/components/schemas/Box")])]])]])])])])

def writtenShelf : List (String × Json) :=
  [("Box", .object [("properties",
    .object [("item", .object [("$ref", .text "#/components/schemas/Item")])])]),
   ("Item", .object [("properties", .object [("size", .object [("type", .text "integer")])])])]

def Contract.shelf : Contract where
  transactions :=
    [{ name := "store", parameters :=
      [{ name := "box", schema := [("$ref", .text "#/components/schemas/Box")] }] }]

def Spec.shelf : Spec where
  info := {}
  contracts := [("shelf", .shelf)]
  components := some Schema.shelf

theorem exists_compile_shelf :
    ∃ app, (compile (.shelf writtenShelf) none .builtin {}).result = .ok app := by
  have compiles : ∃ app, (App.ofContract .shelf "shelf" .shelf .shelf .builtin {}).result =
    .ok app ∧
      app.flows.length = 1 := by
    apply exists_ok_of_observed
    rw [App.result_ofContract, Registry.context,
      Registry.expandAll_of_checkCycles checkCycles_shelf]
    decide +kernel
  obtain ⟨app, h, -⟩ := compiles
  exact ⟨app, compile_of_ofContract rfl rfl rfl h⟩

def Schema.Registry.turnedShelf : Registry where
  documents := Registry.shelf.documents.reverse

theorem checkCycles_turnedShelf : checkCycles Registry.turnedShelf.documents = .ok () := by
  have deps : dependencies Registry.turnedShelf.documents =
      [("#/components/schemas/Item", []),
        ("#/components/schemas/Box", ["#/components/schemas/Item"])] := rfl
  have length : Registry.turnedShelf.documents.length = 2 := rfl
  have known : checkTargets Registry.turnedShelf.documents ["#/components/schemas/Item"] =
    .ok () := rfl
  unfold checkCycles
  rw [deps, length]
  simp [known, Table.keys, visitAll, visit, Dependencies.of, Table.get?]
  rfl

theorem exists_compile_turnedShelf :
    ∃ app, (compile (.shelf writtenShelf.reverse) none .builtin {}).result = .ok app := by
  have compiles : ∃ app, (App.ofContract (Spec.shelf.reordered Schema.shelf.schemas.reverse)
    "shelf" .shelf .turnedShelf .builtin {}).result = .ok app ∧ app.flows.length = 1 := by
    apply exists_ok_of_observed
    rw [App.result_ofContract, Registry.context,
      Registry.expandAll_of_checkCycles checkCycles_turnedShelf]
    decide +kernel
  obtain ⟨app, h, -⟩ := compiles
  exact ⟨app, compile_of_ofContract rfl rfl rfl h⟩

theorem compile_reordered_shelf : (Payload.shelf writtenShelf).Distinct ∧
    ∃ app app', (compile (.shelf writtenShelf) none .builtin {}).result = .ok app ∧
      (compile (.shelf writtenShelf.reverse) none .builtin {}).result = .ok app' ∧
      app.trigger = app'.trigger ∧ app.flows = app'.flows ∧
        SameDefinitions app.schemas app'.schemas := by
  have distinct : (Payload.shelf writtenShelf).Distinct := by
    simp [Payload.Distinct, Payload.shelf, writtenShelf, Json.distinct_object, Json.distinct_array,
      Json.distinct_text, Table.keys]
  have decoded : Settings.decode [] [] = .ok {} := rfl
  obtain ⟨app, compiled⟩ := exists_compile_shelf
  obtain ⟨app', compiled'⟩ := exists_compile_turnedShelf
  have parsed : Spec.parse (.shelf writtenShelf) = .ok .shelf := rfl
  have parsed' : Spec.parse (.shelf writtenShelf.reverse) =
      .ok (Spec.shelf.reordered Schema.shelf.schemas.reverse) := rfl
  obtain ⟨trigger, flows, definitions⟩ :=
    compile_reordered distinct decoded (List.reverse_perm _) parsed parsed' compiled compiled'
  exact ⟨distinct, app, app', compiled, compiled', trigger, flows, definitions (by decide)⟩

end LedgerFlow
