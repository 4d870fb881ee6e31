import LedgerFlow.Argument.Declared
import LedgerFlow.Proofs.Argument.Delimited
import LedgerFlow.Proofs.Result
import LedgerFlow.Trigger

/-!
What a list of arguments declares: the arguments in the list, without the blanks around their names.
One whose name is blank refuses the whole list.
-/
namespace LedgerFlow
open Text

namespace Argument

theorem trimmed_of_mem_primitiveTypes {type : String} (h : type ∈ primitiveTypes) :
    type ≠ "" ∧ trimmed type = type := by
  revert type
  decide

theorem fieldText_of_get? {v : Json} {name s : String} (h : v.get? name = some (.text s)) :
    fieldText v name = if s = "" then none else some s := by
  have filled : (Json.text s).isFilled = (s != "") := rfl
  rw [fieldText, h, Option.filter_some, filled]
  by_cases empty : s = ""
  · rw [if_pos empty, empty]
    rfl
  · rw [if_neg empty, if_pos (bne_iff_ne.mpr empty)]
    rfl

theorem Item.attribute_described {a : Attribute} (typed : a.type ∈ primitiveTypes) :
    (Item.described a.toJson).attribute =
      if trimmed a.name = "" then .error (.argumentWithoutName a.toJson)
      else .ok { a with name := trimmed a.name } := by
  obtain ⟨name, type⟩ := a
  obtain ⟨filled, type_eq⟩ := trimmed_of_mem_primitiveTypes typed
  have nameText : trimmed ((fieldText (Attribute.toJson ⟨name, type⟩) "name").getD "") =
      trimmed name := by
    rw [fieldText_of_get? (s := name) rfl]
    by_cases empty : name = ""
    · rw [if_pos empty, empty]
      rfl
    · rw [if_neg empty]
      rfl
  have typeText : trimmed ((fieldText (Attribute.toJson ⟨name, type⟩) "type").getD "string") =
      type := by
    rw [fieldText_of_get? (s := type) rfl, if_neg filled]
    exact type_eq
  unfold Attribute.toJson at nameText typeText ⊢
  simp only [Item.attribute, nameText, typeText]

theorem parseItems_described {attributes : List Attribute}
    (typed : ∀ a ∈ attributes, a.type ∈ primitiveTypes)
    (named : ∀ a ∈ attributes, trimmed a.name ≠ "") :
    parseItems (attributes.map fun a => .described a.toJson) =
      .ok (attributes.map fun a => { a with name := trimmed a.name }) := by
  induction attributes with
  | nil => rfl
  | cons a rest ih =>
    obtain ⟨type, types⟩ := List.forall_mem_cons.mp typed
    obtain ⟨name, names⟩ := List.forall_mem_cons.mp named
    rw [List.map_cons, parseItems, Item.attribute_described type, if_neg name, ih types names]
    rfl

theorem named_of_parseItems {attributes declared : List Attribute}
    (typed : ∀ a ∈ attributes, a.type ∈ primitiveTypes)
    (h : parseItems (attributes.map fun a => .described a.toJson) = .ok declared) :
    ∀ a ∈ attributes, trimmed a.name ≠ "" := by
  induction attributes generalizing declared with
  | nil => simp
  | cons a rest ih =>
    obtain ⟨type, types⟩ := List.forall_mem_cons.mp typed
    obtain ⟨_, here, h⟩ := bind_eq_ok_iff.mp h
    obtain ⟨_, later, -⟩ := bind_eq_ok_iff.mp h
    rw [Item.attribute_described type] at here
    refine List.forall_mem_cons.mpr ⟨?_, ih types later⟩
    intro blank
    rw [if_pos blank] at here
    cases here

theorem mem_argumentAttributes {t : Transaction} :
    ∀ a ∈ argumentAttributes t, a.type ∈ primitiveTypes := by
  intro a ha
  obtain ⟨p, -, rfl⟩ := List.mem_map.mp ha
  exact argumentType_mem p

variable {settings : Settings} {t : Transaction} {schemas : Option HandlerSchemas}

theorem ofHandlerSettings_delimited (style : settings.argumentStyle = .delimited) :
    ofHandlerSettings (Handler.ofTransaction settings t schemas).settings =
      .ok (parseDelimited (delimitedArguments t)) := by
  rw [Handler.settings, Handler.ofTransaction, style]
  rfl

theorem ofHandlerSettings_attributes (style : settings.argumentStyle = .attributes) :
    ofHandlerSettings (Handler.ofTransaction settings t schemas).settings =
      parseItems ((argumentAttributes t).map fun a => .described a.toJson) := by
  have items : ofHandlerSettings (Handler.ofTransaction settings t schemas).settings =
      parseItems (((argumentAttributes t).map Attribute.toJson).map .described) := by
    rw [Handler.settings, Handler.ofTransaction, style]
    rfl
  rw [items, List.map_map]
  rfl

end Argument

end LedgerFlow
