import LedgerFlow.Argument.Decode
import LedgerFlow.Proofs.Argument.Listed
import LedgerFlow.Proofs.Number.Integer
import LedgerFlow.Proofs.Table

/-!
Arguments come back. Handlers declare the parameters of a transaction, and texts of values give the
values again; and a text of arguments that is written anew declares the same.
-/
namespace LedgerFlow
open Text Number

def Attribute.parameter (a : Attribute) : Parameter where
  name := a.name
  schema := [("type", .text a.type)]

theorem argumentType_parameter {a : Attribute} (typed : a.type ∈ primitiveTypes) :
    argumentType a.parameter = a.type := by
  have type : a.parameter.type? = some a.type :=
    if_neg (Argument.trimmed_of_mem_primitiveTypes typed).1
  rw [argumentType, type, Option.filter_some, if_pos (List.contains_iff_mem.mpr typed),
    Option.getD_some]

namespace Argument

/-- The values of a type that have a text, each with the text. An integer has at most as many digits
as are read. -/
inductive Written : String → String → Json → Prop
  | integer {n : Int} (short : (decimalDigits n.natAbs).length ≤ digitLimit) :
      Written "integer" (String.ofList (decimalText n)) (.int n)
  | number {n : Int} (short : (decimalDigits n.natAbs).length ≤ digitLimit) :
      Written "number" (String.ofList (decimalText n)) (.int n)
  | boolean (b : Bool) : Written "boolean" (if b then "true" else "false") (.bool b)
  | string {s : String} (noBlanks : trimmed s = s) : Written "string" s (.text s)

theorem decodeInteger_decimalText {name : Option String} {n : Int}
    (short : (decimalDigits n.natAbs).length ≤ digitLimit) :
    decodeInteger name (String.ofList (decimalText n)) = pure (.int n) := by
  have text : trim (String.ofList (decimalText n)).toList = decimalText n := by
    rw [String.toList_ofList]
    exact trim_of_no_blank fun c hc => isBlank_of_mem_decimalText hc
  rw [decodeInteger, text, integer?_decimalText short]

theorem Written.decodeValue {type text : String} {v : Json} (h : Written type text v)
    (name : Option String) : decodeValue type name text = pure v := by
  cases h with
  | integer short => exact decodeInteger_decimalText short
  | @number n short =>
    have noPoint : '.' ∉ trim (String.ofList (decimalText n)).toList := by
      intro h
      have inside := trim_subset _ h
      rw [String.toList_ofList] at inside
      exact not_mem_decimalText_point n inside
    change decodeNumber name _ = _
    rw [decodeNumber, if_neg (fun h => noPoint (List.contains_iff_mem.mp h)),
      decodeInteger_decimalText short]
  | boolean b => cases b <;> rfl
  | string noBlanks =>
    change pure (Json.text (trimmed text)) = _
    rw [noBlanks]

theorem decodeEach_written {attributes : List Attribute} {written : List (String × Json)}
    (h : List.Forall₂ (fun a w => Written a.type w.1 w.2) attributes written)
    (values : Table Json) :
    decodeEach (attributes.zip (written.map (·.1))) values =
      pure (((attributes.map (·.name)).zip (written.map (·.2))).foldl
        (fun t entry => t.insert entry.1 entry.2) values) := by
  induction h generalizing values with
  | nil => rfl
  | @cons a w attributes written here _ ih =>
    rw [List.map_cons, List.zip_cons_cons, decodeEach, here.decodeValue]
    exact ih (values.insert a.name w.2)

theorem decodeAll_written {attributes : List Attribute} {written : List (String × Json)}
    (h : List.Forall₂ (fun a w => Written a.type w.1 w.2) attributes written) :
    decodeAll attributes (written.map (·.1)) =
      pure (.ofPairs ((attributes.map (·.name)).zip (written.map (·.2)))) := by
  have count : (written.map (·.1)).length = attributes.length := by
    rw [List.length_map, h.length_eq]
  rw [decodeAll, if_pos count, decodeEach_written h, Table.ofPairs]

theorem parseDelimited_delimitedArguments {parameters : List Parameter}
    (plain : ∀ p ∈ parameters, PlainName p.name) :
    parseDelimited (join "," (parameters.map delimitedArgument)) =
      parameters.map fun p => { name := p.name, type := argumentType p } := by
  rw [parseDelimited_join, List.flatMap_map]
  induction parameters with
  | nil => rfl
  | cons p rest ih =>
    obtain ⟨here, later⟩ := List.forall_mem_cons.mp plain
    rw [List.flatMap_cons, parseDelimited_delimitedArgument here, ih later]
    rfl

theorem ofHandlerSettings_of_plain {t : Transaction} (plain : ∀ p ∈ t.parameters, PlainName p.name)
    (settings : Settings) (schemas : Option HandlerSchemas) :
    ofHandlerSettings (Handler.ofTransaction settings t schemas).settings =
      .ok (t.parameters.map fun p => { name := p.name, type := argumentType p }) := by
  cases style : settings.argumentStyle with
  | delimited =>
    rw [ofHandlerSettings_delimited style, delimitedArguments,
      parseDelimited_delimitedArguments plain]
  | attributes =>
    have named : ∀ a ∈ argumentAttributes t, trimmed a.name ≠ "" := by
      intro a ha
      obtain ⟨p, hp, rfl⟩ := List.mem_map.mp ha
      rw [(plain p hp).trimmed]
      exact (plain p hp).filled
    rw [ofHandlerSettings_attributes style, parseItems_described mem_argumentAttributes named,
      argumentAttributes, List.map_map]
    congr 1
    refine List.map_congr_left fun p hp => ?_
    rw [Function.comp_apply, (plain p hp).trimmed]

theorem parseDelimited_rewritten (text : String) :
    parseDelimited (join "," ((parseDelimited text).map fun a => delimitedArgument a.parameter)) =
      parseDelimited text := by
  have plain : ∀ p ∈ (parseDelimited text).map Attribute.parameter, PlainName p.name := by
    intro p hp
    obtain ⟨a, ha, rfl⟩ := List.mem_map.mp hp
    exact (plain_of_mem_parseDelimited ha).1
  have anew := parseDelimited_delimitedArguments plain
  rw [List.map_map, List.map_map] at anew
  have same (a : Attribute) (ha : a ∈ parseDelimited text) :
      ({ name := a.parameter.name, type := argumentType a.parameter } : Attribute) = id a := by
    rw [argumentType_parameter (plain_of_mem_parseDelimited ha).2]
    rfl
  exact anew.trans ((List.map_congr_left same).trans (List.map_id _))

/-- In either style a handler declares the parameters with plain names as they are, texts of values
give the values by name without a warning, and any text of arguments declares the same when it is
written anew. -/
theorem arguments_roundTrip {t : Transaction} (plain : ∀ p ∈ t.parameters, PlainName p.name)
    (settings : Settings) (schemas : Option HandlerSchemas) :
    ofHandlerSettings (Handler.ofTransaction settings t schemas).settings =
        .ok (t.parameters.map fun p => { name := p.name, type := argumentType p }) ∧
      (∀ written : List (String × Json),
        List.Forall₂ (fun p w => Written (argumentType p) w.1 w.2) t.parameters written →
          ∃ values : Table Json,
            decodeAll (t.parameters.map fun p => { name := p.name, type := argumentType p })
              (written.map (·.1)) = pure values ∧
              values = .ofPairs ((t.parameters.map (·.name)).zip (written.map (·.2))) ∧
              ((t.parameters.map (·.name)).Nodup →
                values = (t.parameters.map (·.name)).zip (written.map (·.2)))) ∧
      ∀ text : String,
        parseDelimited (join "," ((parseDelimited text).map fun a =>
          delimitedArgument a.parameter)) = parseDelimited text := by
  refine ⟨ofHandlerSettings_of_plain plain settings schemas, fun written h => ?_,
    parseDelimited_rewritten⟩
  have names : (t.parameters.map fun p =>
    ({ name := p.name, type := argumentType p } : Attribute)).map (·.name) =
      t.parameters.map (·.name) := by
    rw [List.map_map]
    rfl
  have aligned : List.Forall₂ (fun (a : Attribute) w => Written a.type w.1 w.2)
      (t.parameters.map fun p => { name := p.name, type := argumentType p }) written :=
    List.forall₂_map_left_iff.mpr h
  have decoded := decodeAll_written aligned
  rw [names] at decoded
  refine ⟨_, decoded, rfl, fun distinct => Table.ofPairs_of_nodup ?_⟩
  have count : (t.parameters.map (·.name)).length = (written.map (·.2)).length := by
    rw [List.length_map, List.length_map, h.length_eq]
  rw [Table.keys, List.map_fst_zip count.le]
  exact distinct

def placeOrder : Transaction where
  name := "placeOrder"
  parameters :=
    [{ name := "id", schema := [("type", .text "string")] },
      { name := "count", schema := [("type", .text "integer")] },
      { name := "active", schema := [("type", .text "boolean")] },
      { name := "price", schema := [("type", .text "number")] },
      { name := "tags", schema := [("type", .text "array")] }]

theorem arguments_roundTrip_placeOrder :
    ofHandlerSettings (Handler.ofTransaction {} placeOrder none).settings =
        .ok [⟨"id", "string"⟩, ⟨"count", "integer"⟩, ⟨"active", "boolean"⟩, ⟨"price", "number"⟩,
          ⟨"tags", "string"⟩] ∧
      decodeAll
          [⟨"id", "string"⟩, ⟨"count", "integer"⟩, ⟨"active", "boolean"⟩, ⟨"price", "number"⟩,
           ⟨"tags", "string"⟩]
          ["o 1", "-7", "true", "12", "[]"] =
        pure [("id", .text "o 1"), ("count", .int (-7)), ("active", .bool true), ("price", .int 12),
          ("tags", .text "[]")] := by
  have plain : ∀ p ∈ placeOrder.parameters, PlainName p.name := by decide
  have count : Written "integer" "-7" (.int (-7)) := by
    have text : String.ofList (decimalText (-7)) = "-7" := by decide +kernel
    rw [← text]
    exact .integer (by decide)
  have price : Written "number" "12" (.int 12) := by
    have text : String.ofList (decimalText 12) = "12" := by decide +kernel
    rw [← text]
    exact .number (by decide)
  obtain ⟨declared, decoded, -⟩ := arguments_roundTrip plain {} none
  obtain ⟨values, hvalues, -, table⟩ := decoded
    [("o 1", .text "o 1"), ("-7", .int (-7)), ("true", .bool true), ("12", .int 12),
     ("[]", .text "[]")]
    (.cons (.string (by decide))
      (.cons count (.cons (.boolean true) (.cons price (.cons (.string (by decide)) .nil)))))
  have distinct : (placeOrder.parameters.map (·.name)).Nodup := by decide
  rw [table distinct] at hvalues
  exact ⟨declared, hvalues⟩

end Argument

end LedgerFlow
