import LedgerFlow.Proofs.Json.Distinct
import LedgerFlow.Proofs.Result
import LedgerFlow.Proofs.Table
import LedgerFlow.Spec.Payload

/-!
What a description that is accepted keeps apart: the transactions of a contract become different
flows, so they have different names, and components have different names because fields do.
-/
namespace LedgerFlow
open Spec Spec.Decoder

namespace Spec.Decoded
variable {α β : Type}

theorem map_ok_iff {f : α → β} {x : Decoded α} {b : β} :
    f <$> x = .ok b ↔ ∃ a, x = .ok a ∧ f a = b := by
  change Decoded.map f x = .ok b ↔ _
  cases x <;> simp [Decoded.map]

theorem seq_ok_iff {f : Decoded (α → β)} {x : Decoded α} {b : β} :
    f <*> x = .ok b ↔ ∃ g a, f = .ok g ∧ x = .ok a ∧ g a = b := by
  change both f x = .ok b ↔ _
  cases f <;> cases x <;> simp [both]

theorem under_ok_iff {step : Json.Step} {x : Decoded α} {a : α} :
    x.under step = .ok a ↔ x = .ok a := by
  cases x <;> simp [under]

theorem obeying_ok_iff {rule : α → Option Fault} {x : Decoded α} {a : α} :
    x.obeying rule = .ok a ↔ x = .ok a ∧ rule a = none := by
  cases x with
  | failed problems => simp [obeying]
  | ok b =>
    rw [obeying]
    cases h : rule b with
    | none =>
      rw [Decoded.ok.injEq]
      exact ⟨fun e => ⟨e, e ▸ h⟩, fun e => e.1⟩
    | some f =>
      simp only [fault, reduceCtorEq, Decoded.ok.injEq, false_iff, not_and]
      rintro rfl
      simp [h]

theorem toExcept_ok_iff {onFailure : List Problem → Error} {x : Decoded α} {a : α} :
    x.toExcept onFailure = .ok a ↔ x = .ok a := by
  cases x <;> simp [toExcept]

end Spec.Decoded

namespace Spec.Decoder
variable {α : Type}

theorem of_record {name : String} {decode : Table Json → Decoded α} {v : Json} {a : α}
    (h : record name decode v = .ok a) : ∃ fields, v = .object fields ∧ decode fields = .ok a := by
  cases v <;> first | exact ⟨_, rfl, h⟩ | cases h

theorem of_defaulting {fields : Table Json} {name : String} {decode : Decoder α} {default a : α}
    (h : defaulting fields name decode default = .ok a) :
    (∃ v, fields.get? name = some v ∧ decode v = .ok a) ∨ a = default := by
  unfold defaulting at h
  split at h
  · exact .inl ⟨_, by assumption, Decoded.under_ok_iff.mp h⟩
  · exact .inr (Decoded.ok.inj h).symm

theorem of_entries {decode : Decoder α} {fields : List (String × Json)} {t : Table α}
    (h : entries decode fields = .ok t) : ∀ entry ∈ t, ∃ v, decode v = .ok entry.2 := by
  induction fields generalizing t with
  | nil =>
    obtain rfl := Decoded.ok.inj h
    simp
  | cons field fields ih =>
    obtain ⟨f, rest, hf, hrest, rfl⟩ := Decoded.seq_ok_iff.mp h
    obtain ⟨a, ha, rfl⟩ := Decoded.map_ok_iff.mp hf
    exact List.forall_mem_cons.mpr ⟨⟨field.2, Decoded.under_ok_iff.mp ha⟩, ih hrest⟩

theorem of_table {decode : Decoder α} {v : Json} {t : Table α} (h : table decode v = .ok t) :
    ∀ entry ∈ t, ∃ v, decode v = .ok entry.2 := by
  cases v <;> first | exact of_entries h | cases h

theorem keys_of_entries {decode : Decoder α} {fields : Table Json} {t : Table α}
    (h : entries decode fields = .ok t) : t.keys = fields.keys := by
  induction fields generalizing t with
  | nil =>
    obtain rfl := Decoded.ok.inj h
    rfl
  | cons field fields ih =>
    obtain ⟨f, rest, hf, hrest, rfl⟩ := Decoded.seq_ok_iff.mp h
    obtain ⟨a, -, rfl⟩ := Decoded.map_ok_iff.mp hf
    exact congrArg (field.1 :: ·) (ih hrest)

theorem of_optional {decode : Decoder α} {v : Json} {a : α} (h : optional decode v = .ok (some a)) :
    decode v = .ok a := by
  unfold optional at h
  split at h
  · cases h
  · obtain ⟨b, hb, heq⟩ := Decoded.map_ok_iff.mp h
    obtain rfl := Option.some.inj heq
    exact hb

end Spec.Decoder

theorem sharedFlow?_eq_none_iff {seen : Table String} {transactions : List Transaction} :
    sharedFlow? seen transactions = none ↔
      (transactions.map (·.resourceId)).Nodup ∧ ∀ t ∈ transactions, seen.get? t.resourceId =
        none := by
  induction transactions generalizing seen with
  | nil => simp [sharedFlow?]
  | cons t rest ih =>
    rw [sharedFlow?]
    cases h : seen.get? t.resourceId with
    | some other => simp [h]
    | none =>
      have fresh (u : Transaction) : (seen.insert t.resourceId t.name).get? u.resourceId = none ↔
          u.resourceId ≠ t.resourceId ∧ seen.get? u.resourceId = none := by
        by_cases hu : u.resourceId = t.resourceId
        · simp [hu, Table.get?_insert_self]
        · simp [hu, Table.get?_insert_of_ne hu]
      simp only [ih, fresh, List.map_cons, List.nodup_cons, List.mem_map, not_exists, not_and,
        List.forall_mem_cons, h, true_and]
      constructor
      · rintro ⟨nodup, apart⟩
        exact ⟨⟨fun u hu => (apart u hu).1, nodup⟩, fun u hu => (apart u hu).2⟩
      · rintro ⟨⟨apart, nodup⟩, unseen⟩
        exact ⟨nodup, fun u hu => ⟨apart u hu, unseen u hu⟩⟩

theorem nodup_names_of_flows {transactions : List Transaction}
    (flows : (transactions.map (·.resourceId)).Nodup) : (transactions.map (·.name)).Nodup := by
  have byName : transactions.map (·.resourceId) =
      (transactions.map (·.name)).map fun name => "flow:" ++ Text.snakeCase name := by
    rw [List.map_map]
    rfl
  rw [byName] at flows
  exact flows.of_map

theorem Spec.mem_contracts_of_select {spec : Spec} {choice : Option String} {name : String}
    {c : Contract} (h : spec.select choice = .ok (name, c)) : (name, c) ∈ spec.contracts := by
  unfold Spec.select at h
  split at h
  · cases h
  · split at h
    · rename_i found
      obtain ⟨rfl, rfl⟩ := Prod.mk.inj (Except.ok.inj h)
      exact Table.mem_of_get? found
    · cases h
  · rename_i only
    rw [only, ← Except.ok.inj h]
    exact List.mem_singleton_self _
  · cases h

theorem Spec.of_parse {payload : Payload} {spec : Spec} (parsed : Spec.parse payload = .ok spec) :
    ∃ fields, payload.read = .ok (.object fields) ∧
      defaulting fields "contracts" (table Contract.decode) [] = .ok spec.contracts ∧
      defaulting fields "components" (optional Components.decode) none = .ok spec.components := by
  obtain ⟨v, hread, h⟩ := bind_eq_ok_iff.mp parsed
  split at h
  · obtain ⟨fields, rfl, hspec⟩ := of_record (Decoded.toExcept_ok_iff.mp h)
    obtain ⟨_, components, upToContracts, hcomponents, rfl⟩ := Decoded.seq_ok_iff.mp hspec
    obtain ⟨_, contracts, upToImports, hcontracts, rfl⟩ := Decoded.seq_ok_iff.mp upToContracts
    obtain ⟨_, imports, hinfo, -, rfl⟩ := Decoded.seq_ok_iff.mp upToImports
    obtain ⟨info, -, rfl⟩ := Decoded.map_ok_iff.mp hinfo
    exact ⟨fields, hread, hcontracts, hcomponents⟩
  · cases h

theorem Spec.distinct_flows_of_parse {payload : Payload} {spec : Spec} {choice : Option String}
    {name : String} {c : Contract} (parsed : Spec.parse payload = .ok spec)
    (selected : spec.select choice = .ok (name, c)) :
    (c.transactions.map (·.resourceId)).Nodup := by
  obtain ⟨fields, -, hcontracts, -⟩ := Spec.of_parse parsed
  have hmem := Spec.mem_contracts_of_select selected
  rcases of_defaulting hcontracts with ⟨_, -, hcontracts⟩ | none_there
  · obtain ⟨_, hc⟩ := of_table hcontracts _ hmem
    exact (sharedFlow?_eq_none_iff.mp (Decoded.obeying_ok_iff.mp hc).2).1
  · rw [none_there] at hmem
    cases hmem

theorem Spec.distinct_of_parse {payload : Payload} {spec : Spec} {choice : Option String}
    {name : String} {c : Contract} (parsed : Spec.parse payload = .ok spec)
    (selected : spec.select choice = .ok (name, c)) : (c.transactions.map (·.name)).Nodup :=
  nodup_names_of_flows (Spec.distinct_flows_of_parse parsed selected)

/-- No object in a payload that is already a value has two fields of one name; texts and bytes are
read so anyhow. -/
def Payload.Distinct : Payload → Prop
  | .value v => v.Distinct
  | _ => True

theorem distinct_of_readJson {malformed : Json.Fault → String → Nat → Error}
    {read : String → Except Json.Refusal Json} (reads : ∀ v s, read s = .ok v → v.Distinct)
    {s : String} {v : Json} (h : readJson malformed read s = .ok v) : v.Distinct := by
  unfold readJson at h
  split at h
  · rename_i hread
    obtain rfl := Except.ok.inj h
    exact reads _ _ hread
  · cases h
  · cases h

theorem Payload.distinct_of_read {payload : Payload} (distinct : payload.Distinct) {v : Json}
    (h : payload.read = .ok v) : v.Distinct := by
  unfold Payload.read at h
  split at h
  · exact distinct_of_readJson (fun _ _ => Json.distinct_of_ofText) h
  · obtain rfl := Except.ok.inj h
    exact distinct
  · cases h
  · exact distinct_of_readJson (fun _ _ => Json.distinct_of_ofText) h
  · unfold readJsonBytes at h
    split at h
    · exact distinct_of_readJson (fun _ _ => Json.distinct_of_readChars) h
    · cases h
  · cases h
  · cases h
  · split at h
    · exact distinct_of_readJson (fun _ _ => Json.distinct_of_ofText) h
    · cases h

theorem Spec.nodup_components {payload : Payload} (distinct : payload.Distinct) {spec : Spec}
    (parsed : Spec.parse payload = .ok spec) :
    (Table.keys ((spec.components.map (·.schemas)).getD [])).Nodup := by
  obtain ⟨fields, hread, -, hcomponents⟩ := Spec.of_parse parsed
  have distinct := payload.distinct_of_read distinct hread
  cases declared : spec.components with
  | none => exact List.nodup_nil
  | some components =>
    rw [declared] at hcomponents
    rcases of_defaulting hcomponents with ⟨v, found, h⟩ | h
    · have distinct := Json.Throughout.get? distinct found
      obtain ⟨inner, rfl, hrecord⟩ := of_record (of_optional h)
      obtain ⟨schemas, hschemas, rfl⟩ := Decoded.map_ok_iff.mp hrecord
      rcases of_defaulting hschemas with ⟨w, found, h⟩ | rfl
      · have distinct := Json.Throughout.get? distinct found
        cases w with
        | object entries =>
          rw [Option.map_some, Option.getD_some, keys_of_entries h]
          exact (Json.distinct_object.mp distinct).1
        | _ => cases h
      · exact List.nodup_nil
    · cases h

end LedgerFlow
