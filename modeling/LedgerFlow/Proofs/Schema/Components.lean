import LedgerFlow.Proofs.Result
import LedgerFlow.Proofs.Table
import LedgerFlow.Proofs.Text.Split
import LedgerFlow.Schema.Components

/-!
The registry of a contract description: a document for each component, in order, under a key that
only this component has. A component whose name holds no slash keeps the name as the bare name of
its document.
-/
namespace LedgerFlow.Schema

def componentNames (components : Option Components) : List String :=
  Table.keys ((components.map (·.schemas)).getD [])

theorem checkComponent_ok {name : String} {c : Component} {document : Json}
    (h : checkComponent name c = .ok document) :
    document = componentSchema c ∧ check document (some name) = .ok () := by
  unfold checkComponent at h
  split at h
  · obtain ⟨_, checked, h⟩ := bind_eq_ok_iff.mp h
    obtain rfl := Except.ok.inj h
    exact ⟨rfl, checked⟩
  · cases h

theorem componentDocuments_eq {components : List (String × Component)} {documents : Table Json}
    (h : componentDocuments components = .ok documents) :
    documents = components.map fun (name, c) => (refPrefix ++ name, componentSchema c) := by
  induction components generalizing documents with
  | nil => exact (Except.ok.inj h).symm
  | cons component rest ih =>
    obtain ⟨name, c⟩ := component
    obtain ⟨document, first, h⟩ := bind_eq_ok_iff.mp h
    obtain ⟨later, hlater, h⟩ := bind_eq_ok_iff.mp h
    obtain rfl := Except.ok.inj h
    rw [(checkComponent_ok first).1, ih hlater, List.map_cons]

section
variable {components : Option Components} {maxPasses : Int} {r : Registry}

theorem Registry.ofComponents_eq (h : Registry.ofComponents components maxPasses = .ok r) :
    r = { documents := ((components.map (·.schemas)).getD []).map fun (name, c) =>
            (refPrefix ++ name, componentSchema c)
          maxPasses } := by
  obtain ⟨documents, hdocuments, h⟩ := bind_eq_ok_iff.mp h
  obtain rfl := Except.ok.inj h
  rw [componentDocuments_eq hdocuments]

theorem Registry.maxPasses_ofComponents (h : Registry.ofComponents components maxPasses = .ok r) :
    r.maxPasses = maxPasses := by
  rw [Registry.ofComponents_eq h]

theorem Registry.keys_ofComponents (h : Registry.ofComponents components maxPasses = .ok r) :
    r.documents.keys = (componentNames components).map (refPrefix ++ ·) := by
  rw [Registry.ofComponents_eq h, componentNames, Table.keys, Table.keys, List.map_map,
    List.map_map]
  rfl

theorem Registry.nodup_keys_ofComponents (h : Registry.ofComponents components maxPasses = .ok r)
    (distinct : (componentNames components).Nodup) : r.documents.keys.Nodup := by
  rw [Registry.keys_ofComponents h]
  apply distinct.map
  intro name other same
  exact Text.append_left_cancel same

end

theorem toList_refPrefix : refPrefix.toList = "#/components/schemas".toList ++ ['/'] := by decide

theorem refName_refPrefix_append (name : String) :
    refName (refPrefix ++ name) = String.ofList (Text.afterLast '/' name.toList) := by
  rw [refName, String.toList_append, toList_refPrefix, List.append_assoc, List.singleton_append,
    Text.afterLast_append_sep]

theorem refName_of_no_slash {name : String} (h : '/' ∉ name.toList) :
    refName (refPrefix ++ name) = name := by
  rw [refName_refPrefix_append, Text.afterLast_of_not_mem h, String.ofList_toList]

end LedgerFlow.Schema
