import LedgerFlow.Argument.Declared
import LedgerFlow.Proofs.App.Correspondence
import LedgerFlow.Proofs.Text.Split

/-!
The attributes of a client identity. A contract lists further ones in a text; what its trigger is
given reads as the same list, and the flows describe the standard attributes and those of the list,
each once.
-/
namespace LedgerFlow
open Schema Text

/-! One list, read from the contract and from the trigger. -/

theorem Argument.parseIdentity_cid (c : Contract) :
    Argument.parseIdentity c.cid = c.cidAttributes := by
  rw [Contract.cidAttributes, ← map_trim_splitAll (by decide), List.filterMap_map]
  rfl

def identitySetting (trigger : Json) : Option String :=
  ((trigger.get? "settings").bind (·.get? "cid")).bind (·.text?)

theorem identitySetting_toJson (t : Trigger) : identitySetting t.toJson = t.cid := by
  have settings : identitySetting t.toJson =
      ((Table.get? (Json.optionalField "cid" (t.cid.map .text)) "cid").bind (·.text?)) := rfl
  rw [settings]
  cases t.cid <;> rfl

/-! The names in the schema of an identity. -/

section
variable {α : Type} [BEq α] [LawfulBEq α]

theorem nodup_foldl_add_new {names : List α} (distinct : names.Nodup) (further : List α) :
    (further.foldl (fun names name => if names.contains name then names else names ++ [name])
      names).Nodup := by
  induction further generalizing names with
  | nil => exact distinct
  | cons name rest ih =>
    rw [List.foldl_cons]
    refine ih ?_
    split
    · exact distinct
    · rename_i new
      rw [List.contains_iff_mem] at new
      exact List.nodup_append'.mpr
        ⟨distinct, List.nodup_singleton name, List.disjoint_singleton.mpr new⟩

theorem foldl_add_new (names further : List α) :
    further.foldl (fun names name => if names.contains name then names else names ++ [name]) names =
      names ++ (further.filter fun name => !names.contains name).eraseDups := by
  induction further generalizing names with
  | nil => simp
  | cons name rest ih =>
    rw [List.foldl_cons, ih, List.filter_cons]
    cases known : names.contains name with
    | true => simp
    | false =>
      have later : (rest.filter fun other => !(names ++ [name]).contains other) =
          (rest.filter fun other => !names.contains other).filter fun other => !other == name := by
        rw [List.filter_filter]
        refine List.filter_congr fun other _ => ?_
        rw [List.contains_append, Bool.not_or, Bool.and_comm]
        simp
      rw [if_neg Bool.false_ne_true, later, Bool.not_false, if_pos rfl, List.eraseDups_cons,
        List.append_assoc, List.singleton_append]

end

theorem identityNames_eq (further : List String) : identityNames further =
    standardIdentity ++ (further.filter fun name => !standardIdentity.contains name).eraseDups :=
  foldl_add_new standardIdentity further

theorem nodup_identityNames (further : List String) : (identityNames further).Nodup :=
  nodup_foldl_add_new (by decide) further

/-! The identity among the inputs of a flow. -/

def identityInput (names : List String) : FlowAttribute where
  name := "cid"
  type := "object"
  schema := some (.ofSchema (.object (names.map fun name => (name, ofType "string"))))

variable {context : Context} {c : Contract} {t : Transaction}

theorem identityInput_of_flowMetadata (schemas : HandlerSchemas) :
    (flowMetadata t c (some schemas)).1.input.filter (·.name == "cid") =
      [identityInput (identityNames c.cidAttributes)] := by
  unfold flowMetadata
  cases t.parameters.isEmpty <;> cases t.transient.isEmpty <;> rfl

theorem exists_handlerSchemas {documents : Table Json} {transactions : List Transaction}
    {schemas : Option (Table HandlerSchemas)} {settings : Settings}
    (included : settings.includeSchemas = true)
    (h : contractSchemas settings documents transactions = .ok schemas) (ht : t ∈ transactions) :
    ∃ own, schemas.bind (·.get? t.name) = some own := by
  rw [contractSchemas, if_pos included] at h
  obtain ⟨pairs, hpairs, rfl⟩ := map_eq_ok_iff.mp h
  have known : t.name ∈ Table.keys (Table.ofPairs pairs) := by
    rw [Table.mem_keys_ofPairs, (transactionSchemas_ok hpairs).1]
    exact List.mem_map_of_mem ht
  exact Table.exists_get?_of_mem_keys known

/-- The setting of a trigger reads as the attributes of the contract, and is absent just when the
contract has no text for them. The flows that come with schemas describe the standard attributes and
then those of the list that are no standard ones, each once and where it first comes. -/
theorem Contract.identity_readAlike (c : Contract) :
    (∀ (settings : Settings) (schemas : Option (Table HandlerSchemas)),
      (identitySetting (Trigger.ofContract settings c schemas).toJson = none ↔ c.cid = "") ∧
        Argument.parseIdentity ((identitySetting
          (Trigger.ofContract settings c schemas).toJson).getD "") = c.cidAttributes) ∧
    ∀ (spec : Spec) (name : String) (registry : Registry) (activities : Activities)
      (settings : Settings) (app : App),
      settings.includeSchemas = true →
      (App.ofContract spec name c registry activities settings).result = .ok app →
        ∀ flow ∈ app.flows, ∃ names, names.Nodup ∧
          names = standardIdentity ++
            (c.cidAttributes.filter fun name => !standardIdentity.contains name).eraseDups ∧
          flow.metadata.input.filter (·.name == "cid") = [identityInput names] := by
  refine ⟨fun settings schemas => ?_,
    fun spec name registry activities settings app included h flow hflow => ?_⟩
  · rw [identitySetting_toJson, Trigger.ofContract]
    by_cases none : c.cid = ""
    · rw [if_pos none, ← Argument.parseIdentity_cid, none]
      exact ⟨⟨fun _ => rfl, fun _ => rfl⟩, rfl⟩
    · rw [if_neg none]
      exact ⟨⟨nofun, fun empty => absurd empty none⟩, Argument.parseIdentity_cid c⟩
  · obtain ⟨_, -, schemas, hschemas, compiled, hcompiled, rfl⟩ := App.ofContract_ok_iff.mp h
    obtain ⟨t, ht, exports, hflow⟩ :=
      exists_mem_of_forall₂ (of_compileTransactions hcompiled).flip hflow
    obtain ⟨own, hown⟩ := exists_handlerSchemas included hschemas ht
    obtain ⟨-, metadata, -⟩ := of_compileTransaction hflow
    refine ⟨_, nodup_identityNames c.cidAttributes, identityNames_eq _, ?_⟩
    rw [metadata, hown, identityInput_of_flowMetadata]

def Contract.depot : Contract where
  cid := "\u2003email,, cn ,role,email\u00A0"
  transactions := [{ name := "ping" }]

theorem App.exists_ofContract_depot : ∃ app,
    (App.ofContract { info := {} } "depot" .depot { documents := [] } .builtin {}).result =
      .ok app ∧ app.flows.length = 1 := by
  have none : checkCycles ({ documents := [] } : Registry).documents = .ok () :=
    checkCycles_of_collectRefs_eq_nil (fun _ h => absurd h List.not_mem_nil) fun _ _ found =>
      nomatch found
  have expanded : ({ documents := [] } : Registry).expandAll =
      ({ documents := [] }, ⟨[passRecord 1 0], .ok 0⟩) := by
    rw [Registry.expandAll_of_checkCycles none]
    rfl
  apply exists_ok_of_observed
  rw [App.result_ofContract, Registry.context, expanded]
  decide +kernel

theorem Contract.identity_readAlike_depot : ∃ app,
    (App.ofContract { info := {} } "depot" .depot { documents := [] } .builtin {}).result =
      .ok app ∧
      Argument.parseIdentity ((identitySetting (Trigger.ofContract {} .depot none).toJson).getD
        "") = ["email", "cn", "role", "email"] ∧
      app.flows.length = 1 ∧ ∀ flow ∈ app.flows, flow.metadata.input.filter (·.name == "cid") =
        [identityInput ["id", "mspid", "cn", "email", "role"]] := by
  have attributes : Contract.depot.cidAttributes = ["email", "cn", "role", "email"] := by
    decide +kernel
  obtain ⟨read, flows⟩ := Contract.identity_readAlike .depot
  obtain ⟨app, compiled, one⟩ := App.exists_ofContract_depot
  refine ⟨app, compiled, (read {} none).2.trans attributes, one, fun flow hflow => ?_⟩
  obtain ⟨names, -, rfl, input⟩ := flows _ _ _ _ {} app rfl compiled flow hflow
  rw [input, attributes]
  congr 1

end LedgerFlow
