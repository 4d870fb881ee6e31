import LedgerFlow.Argument.Decode
import LedgerFlow.Proofs.Argument.Listed
import LedgerFlow.Proofs.Table
import LedgerFlow.Spec.Decode

/-!
Which transactions can be invoked with one text for each of their parameters. Names of parameters
are told apart as they are written, while arguments go by what is left of the names: without the
blanks around them and, in a text of arguments, cut at commas and up to a colon.
-/
namespace LedgerFlow
open Text Argument

/-- What is left of a name in a text of arguments: its pieces between commas, up to a colon and
without the blanks around them, as far as they are not blank. -/
def Argument.pieces (name : String) : List String :=
  (splitAll ',' name.toList).filterMap fun piece =>
    if (trim (splitFirst ':' piece).1).isEmpty then none
      else some (String.ofList (trim (splitFirst ':' piece).1))

def Transaction.argumentNames (t : Transaction) : ArgumentStyle → List String
  | .delimited => t.parameters.flatMap fun p => pieces p.name
  | .attributes => t.parameters.map fun p => trimmed p.name

/-- Each parameter becomes one argument, and these have different names. -/
structure Transaction.Declarable (t : Transaction) (style : ArgumentStyle) : Prop where
  named : "" ∉ t.argumentNames style
  count : (t.argumentNames style).length = t.parameters.length
  distinct : (t.argumentNames style).Nodup

instance (t : Transaction) (style : ArgumentStyle) : Decidable (t.Declarable style) :=
  decidable_of_iff ("" ∉ t.argumentNames style ∧
    (t.argumentNames style).length = t.parameters.length ∧
      (t.argumentNames style).Nodup)
    ⟨fun ⟨named, count, distinct⟩ => ⟨named, count, distinct⟩,
      fun h => ⟨h.named, h.count, h.distinct⟩⟩

/-- The handler of a transaction declares an argument for each parameter, under different names, and
one text for each of them gives a value for each. -/
def Transaction.Invocable (t : Transaction) (settings : Settings)
    (schemas : Option HandlerSchemas) : Prop :=
  ∃ attributes, ofHandlerSettings (Handler.ofTransaction settings t schemas).settings =
    .ok attributes ∧
    attributes.length = t.parameters.length ∧ (attributes.map (·.name)).Nodup ∧
    ∀ texts : List String, texts.length = t.parameters.length →
      ∃ values, (decodeAll attributes texts).result = .ok values ∧
        values.keys = attributes.map (·.name)

namespace Argument

theorem names_parseDelimited (text : String) :
    (parseDelimited text).map (·.name) = pieces text := by
  rw [parseDelimited_eq, List.map_filterMap, pieces]
  refine List.filterMap_congr fun entry _ => ?_
  rw [parseEntry_eq]
  split <;> rfl

theorem pieces_delimitedArgument (p : Parameter) :
    pieces (delimitedArgument p) = pieces p.name := by
  have spec := typeDefault?_spec p
  unfold delimitedArgument
  cases h : typeDefault? p.type? with
  | none => rfl
  | some literal =>
    rw [h] at spec
    have text : (p.name ++ ":" ++ literal).toList = p.name.toList ++ ':' :: literal.toList := by
      simp [String.toList_append]
    have noComma : ',' ∉ ':' :: literal.toList :=
      List.not_mem_cons_of_ne_of_not_mem (by decide) spec.1
    obtain ⟨parts, last, cut, longer⟩ := splitAll_append_right noComma p.name.toList
    simp only [pieces, text, longer, cut, List.filterMap_append, List.filterMap_cons,
      splitFirst_fst_append_sep]

theorem not_mem_pieces (name : String) : "" ∉ pieces name := by
  intro h
  obtain ⟨piece, -, h⟩ := List.mem_filterMap.mp h
  split at h
  · cases h
  · rename_i filled
    have empty : trim (splitFirst ':' piece).1 = [] :=
      String.ofList_eq_empty_iff.mp (Option.some.inj h)
    exact filled (List.isEmpty_iff.mpr empty)

theorem exists_decodeValue {type : String} (typed : type ∈ primitiveTypes) (name : Option String)
    (data : String) : ∃ v, (decodeValue type name data).result = .ok v := by
  have integer : ∃ v, (decodeInteger name data).result = .ok v := by
    unfold decodeInteger
    split <;> exact ⟨_, rfl⟩
  simp only [primitiveTypes, List.mem_cons, List.not_mem_nil, or_false] at typed
  rcases typed with rfl | rfl | rfl | rfl
  · exact ⟨_, rfl⟩
  · exact integer
  · change ∃ v, (decodeNumber name data).result = .ok v
    unfold decodeNumber
    dsimp only
    split
    · split <;> exact ⟨_, rfl⟩
    · exact integer
  · change ∃ v, (decodeBoolean name data).result = .ok v
    unfold decodeBoolean
    dsimp only
    split
    · exact ⟨_, rfl⟩
    · split <;> exact ⟨_, rfl⟩

theorem exists_decodeEach {given : List (Attribute × String)}
    (typed : ∀ g ∈ given, g.1.type ∈ primitiveTypes) {values : Table Json}
    (distinct : (values.keys ++ given.map (·.1.name)).Nodup) :
    ∃ decoded, (decodeEach given values).result = .ok decoded ∧
      Table.keys decoded = values.keys ++ given.map (·.1.name) := by
  induction given generalizing values with
  | nil => exact ⟨values, rfl, (List.append_nil _).symm⟩
  | cons g rest ih =>
    obtain ⟨type, types⟩ := List.forall_mem_cons.mp typed
    obtain ⟨v, hv⟩ := exists_decodeValue type (some g.1.name) g.2
    -- A name that is not in the table yet goes to its end, and so do all that follow.
    have fresh : g.1.name ∉ values.keys := by
      intro mem
      exact (List.nodup_append'.mp distinct).2.2 mem List.mem_cons_self
    have keys : (values.insert g.1.name v).keys = values.keys ++ [g.1.name] := by
      rw [Table.insert_of_not_mem fresh, Table.keys_append]
      rfl
    rw [List.map_cons, List.append_cons, ← keys] at distinct ⊢
    obtain ⟨decoded, hdecoded, hkeys⟩ := ih types distinct
    exact ⟨decoded, Traced.bind_result_ok_iff.mpr ⟨v, hv, hdecoded⟩, hkeys⟩

theorem exists_decodeAll {attributes : List Attribute}
    (typed : ∀ a ∈ attributes, a.type ∈ primitiveTypes) (distinct : (attributes.map (·.name)).Nodup)
    {texts : List String} (count : texts.length = attributes.length) :
    ∃ values, (decodeAll attributes texts).result = .ok values ∧
      values.keys = attributes.map (·.name) := by
  have names : (attributes.zip texts).map (·.1.name) = attributes.map (·.name) :=
    calc
      (attributes.zip texts).map (·.1.name) = ((attributes.zip texts).map Prod.fst).map (·.name) :=
        List.map_map.symm
      _ = attributes.map (·.name) := by rw [List.map_fst_zip count.ge]
  rw [decodeAll, if_pos count, ← names]
  rw [← names] at distinct
  exact exists_decodeEach (fun g hg => typed g.1 (List.of_mem_zip hg).1) distinct

end Argument

namespace Transaction
variable {t : Transaction} {settings : Settings} {schemas : Option HandlerSchemas}

theorem names_delimitedArguments (t : Transaction) :
    (parseDelimited (delimitedArguments t)).map (·.name) = t.argumentNames .delimited := by
  rw [delimitedArguments, parseDelimited_join, List.flatMap_map, List.map_flatMap, argumentNames]
  refine List.flatMap_congr fun p _ => ?_
  rw [names_parseDelimited, pieces_delimitedArgument]

theorem mem_argumentNames_attributes {name : String} :
    name ∈ t.argumentNames .attributes ↔ ∃ a ∈ argumentAttributes t, trimmed a.name = name := by
  simp [argumentNames, argumentAttributes]

theorem of_ofHandlerSettings {attributes : List Attribute}
    (h : ofHandlerSettings (Handler.ofTransaction settings t schemas).settings = .ok attributes) :
    attributes.map (·.name) = t.argumentNames settings.argumentStyle ∧
      "" ∉ t.argumentNames settings.argumentStyle ∧ ∀ a ∈ attributes, a.type ∈ primitiveTypes := by
  cases style : settings.argumentStyle with
  | delimited =>
    rw [ofHandlerSettings_delimited style] at h
    obtain rfl := Except.ok.inj h
    refine ⟨names_delimitedArguments t, ?_, fun a ha => (plain_of_mem_parseDelimited ha).2⟩
    intro blank
    obtain ⟨p, -, hp⟩ := List.mem_flatMap.mp blank
    exact not_mem_pieces p.name hp
  | attributes =>
    rw [ofHandlerSettings_attributes style] at h
    have named := named_of_parseItems mem_argumentAttributes h
    rw [parseItems_described mem_argumentAttributes named] at h
    obtain rfl := Except.ok.inj h
    refine ⟨?_, ?_, ?_⟩
    · rw [List.map_map, argumentAttributes, List.map_map, argumentNames]
      rfl
    · intro blank
      obtain ⟨a, ha, empty⟩ := mem_argumentNames_attributes.mp blank
      exact named a ha empty
    · intro a ha
      obtain ⟨b, hb, rfl⟩ := List.mem_map.mp ha
      exact mem_argumentAttributes b hb

theorem exists_ofHandlerSettings (named : "" ∉ t.argumentNames settings.argumentStyle) :
    ∃ attributes, ofHandlerSettings (Handler.ofTransaction settings t schemas).settings =
      .ok attributes := by
  cases style : settings.argumentStyle with
  | delimited => exact ⟨_, ofHandlerSettings_delimited style⟩
  | attributes =>
    rw [style] at named
    have each : ∀ a ∈ argumentAttributes t, trimmed a.name ≠ "" :=
      fun a ha blank => named (mem_argumentNames_attributes.mpr ⟨a, ha, blank⟩)
    rw [ofHandlerSettings_attributes style, parseItems_described mem_argumentAttributes each]
    exact ⟨_, rfl⟩

/-- A transaction can be invoked with one text for each parameter just when what is left of the
names of its parameters is one name for each, none of them blank and no two the same. -/
theorem invocable_iff_declarable (t : Transaction) (settings : Settings)
    (schemas : Option HandlerSchemas) :
    t.Invocable settings schemas ↔ t.Declarable settings.argumentStyle := by
  constructor
  · rintro ⟨attributes, declared, count, distinct, -⟩
    obtain ⟨names, named, -⟩ := of_ofHandlerSettings declared
    refine ⟨named, ?_, names ▸ distinct⟩
    rw [← names, List.length_map, count]
  · rintro ⟨named, count, distinct⟩
    obtain ⟨attributes, declared⟩ : ∃ attributes,
        ofHandlerSettings (Handler.ofTransaction settings t schemas).settings = .ok attributes :=
      exists_ofHandlerSettings named
    obtain ⟨names, -, typed⟩ := of_ofHandlerSettings declared
    rw [← names] at count distinct
    rw [List.length_map] at count
    exact ⟨attributes, declared, count, distinct,
      fun texts given => exists_decodeAll typed distinct (given.trans count.symm)⟩

/-- A description may give a parameter a name with a comma in it, which makes two arguments of it in
a text. -/
theorem exists_not_invocable : ∃ t,
    Transaction.decode (.object [("name", .text "move"),
      ("parameters", .array [.object
        [("name", .text "from,to"), ("schema", .object [("type", .text "string")])]])]) = .ok t ∧
      ofHandlerSettings (Handler.ofTransaction {} t none).settings =
        .ok [⟨"from", "string"⟩, ⟨"to", "string"⟩] ∧
      (decodeAll [⟨"from", "string"⟩, ⟨"to", "string"⟩] ["x"]).result =
        .error (.argumentCount [⟨"from", "string"⟩, ⟨"to", "string"⟩] 1) ∧
      ¬ t.Invocable {} none := by
  have declared : ofHandlerSettings (Handler.ofTransaction {}
      { name := "move", parameters :=
        [{ name := "from,to", schema := [("type", .text "string")] }] } none).settings =
      .ok [⟨"from", "string"⟩, ⟨"to", "string"⟩] := by rfl
  refine ⟨_, rfl, declared, rfl, ?_⟩
  rintro ⟨attributes, declared', count, -⟩
  obtain rfl := Except.ok.inj (declared.symm.trans declared')
  cases count

/-! A blank name cannot stand in a list, and names that differ in blanks only become one in either
style. -/

example : ¬ Declarable { name := "move", parameters := [{ name := " " }] } .attributes := by decide

example (style : ArgumentStyle) :
    ¬ Declarable { name := "move", parameters := [{ name := "to" }, { name := "to " }] } style := by
  cases style <;> decide

end Transaction

end LedgerFlow
