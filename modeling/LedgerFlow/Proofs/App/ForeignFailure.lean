import LedgerFlow.Proofs.App.Stages
import LedgerFlow.Proofs.Json.LongInteger

/-!
Failures that are not about the contract. What gets past the stages of a compilation are a log level
that there is not, bytes without text, integers that are too long (literals of the text, numbers in
the names of actions, and numbers of generated names), and failures of the schema library. A text
that is malformed in any other way is reported as such.
-/
namespace LedgerFlow
open Schema

def Payload.reading? : Payload → Option (String × Except Json.Refusal Json)
  | .value (.text s) => some (s, Json.ofText s)
  | .text s => some (s, Json.ofText s)
  | .bytes content => (Text.ofBytes? content).map fun s => (s, Json.readChars s.toList)
  | .file _ (.bytes content) => (Text.ofFileBytes? content).map fun s => (s, Json.ofText s)
  | _ => none

def Payload.Undecodable : Payload → Prop
  | .bytes content => Text.ofBytes? content = none
  | .file _ (.bytes content) => Text.ofFileBytes? content = none
  | _ => False

/-! What a payload and a choice come to. -/

section
variable {payload : Payload}

theorem Payload.of_reading {s : String} {outcome : Except Json.Refusal Json}
    (h : payload.reading? = some (s, outcome)) :
    payload.read = readJson .malformedSpec (fun _ => outcome) s ∧
      (outcome = Json.ofText s ∨ outcome = Json.readChars s.toList) := by
  unfold Payload.reading? at h
  split at h
  · obtain ⟨rfl, rfl⟩ := Prod.mk.inj (Option.some.inj h)
    exact ⟨rfl, .inl rfl⟩
  · obtain ⟨rfl, rfl⟩ := Prod.mk.inj (Option.some.inj h)
    exact ⟨rfl, .inl rfl⟩
  · obtain ⟨text, decoded, h⟩ := Option.map_eq_some_iff.mp h
    obtain ⟨rfl, rfl⟩ := Prod.mk.inj h
    rw [Payload.read, readJsonBytes, decoded]
    exact ⟨rfl, .inr rfl⟩
  · obtain ⟨text, decoded, h⟩ := Option.map_eq_some_iff.mp h
    obtain ⟨rfl, rfl⟩ := Prod.mk.inj h
    rw [Payload.read, decoded]
    exact ⟨rfl, .inl rfl⟩
  · cases h

theorem Payload.longRow_of_reading {s : String} {count : Nat}
    (h : payload.reading? = some (s, .error (.tooManyDigits count))) :
    Json.LongRow count s.toList := by
  rcases (Payload.of_reading h).2 with whole | behind
  · exact Json.longRow_of_ofText whole.symm
  · exact Json.longRow_of_readChars behind.symm

theorem Payload.read_of_undecodable (h : payload.Undecodable) :
    payload.read = .error .undecodableBytes := by
  unfold Payload.Undecodable at h
  split at h
  · rw [Payload.read, readJsonBytes, h]
  · rw [Payload.read, h]
  · exact h.elim

theorem Payload.undecodable_or_of_reading_none {cause : Error → Prop}
    (h : payload.reading? = none) :
    payload.Undecodable ∨ ForeignWithin cause payload.read := by
  cases payload with
  | value v =>
    cases v with
    | text s => cases h
    | object fields => exact .inr (.ok _)
    | _ => exact .inr (.error rfl)
  | text s => cases h
  | bytes content => exact .inl (Option.map_eq_none_iff.mp h)
  | file path contents =>
    cases contents with
    | missing => exact .inr (.error rfl)
    | directory => exact .inr (.error rfl)
    | bytes content => exact .inl (Option.map_eq_none_iff.mp h)

theorem Spec.select_foreignWithin {cause : Error → Prop} (spec : Spec) (choice : Option String) :
    ForeignWithin cause (spec.select choice) := by
  unfold Spec.select
  split
  · exact .error rfl
  · split
    · exact .ok _
    · exact .error rfl
  · exact .ok _
  · exact .error rfl

end

/-- Nothing in the value is beyond writing: no integer is too long, and no text holds the
replacement character, which stands for half of a surrogate pair. -/
structure Json.Writable (v : Json) : Prop where
  short : v.ShortIntegers
  whole : v.Throughout fun part => ∀ s, part = .text s ∨ s ∈ part.fieldsOf.keys →
    Text.replacement ∉ s.toList

section
variable [Library]

def compileLogged (payload : Payload) (contractName : Option String) (activities : Activities)
    (settings : Settings) : Traced App := do
  let _ ← (settings.level : Except Error Int)
  compile payload contractName activities settings

/-- What else than the contract can make a compilation fail. -/
inductive ForeignCause (payload : Payload) (choice : Option String) (activities : Activities)
    (settings : Settings) : Error → Prop
  | level (unknown : Log.levelNames.get? (Text.uppered settings.logLevel) = none) :
      ForeignCause payload choice activities settings
        (.unknownLevel (Text.uppered settings.logLevel))
  | bytes (undecodable : payload.Undecodable) :
      ForeignCause payload choice activities settings .undecodableBytes
  | literal {s : String} {count : Nat}
      (refused : payload.reading? = some (s, .error (.tooManyDigits count)))
      (row : Json.LongRow count s.toList) :
      ForeignCause payload choice activities settings (.integerTooLong count)
  | component {spec : Spec} {failure : Failure} (parsed : Spec.parse payload = .ok spec)
      (fails : ComponentFails ((spec.components.map (·.schemas)).getD []) failure) :
      ForeignCause payload choice activities settings (.validation failure)
  | transaction {spec : Spec} {name : String} {c : Contract} {registry : Registry} {t : Transaction}
      {e : Error} (parsed : Spec.parse payload = .ok spec)
      (selected : spec.select choice = .ok (name, c))
      (accepted : Registry.ofComponents spec.components settings.maxRefPasses = .ok registry)
      (mem : t ∈ c.transactions)
      (caused : TransactionCause (registry.context activities settings) t e) :
      ForeignCause payload choice activities settings e
  /-- Of a payload that holds what cannot be written, nothing is said. -/
  | unwritable {v : Json} {e : Error} (read : payload.read = .ok v) (held : ¬ v.Writable) :
      ForeignCause payload choice activities settings e

variable {payload : Payload} {choice : Option String} {activities : Activities}
    {settings : Settings}

theorem Payload.read_foreignWithin (payload : Payload) (choice : Option String)
    (activities : Activities) (settings : Settings) :
    ForeignWithin (ForeignCause payload choice activities settings) payload.read := by
  cases reading : payload.reading? with
  | none =>
    rcases payload.undecodable_or_of_reading_none reading with undecodable | within
    · rw [Payload.read_of_undecodable undecodable]
      rintro _ ⟨⟩ _
      exact .bytes undecodable
    · exact within
  | some text =>
    obtain ⟨s, outcome⟩ := text
    rw [(Payload.of_reading reading).1]
    match outcome with
    | .ok v => exact .ok _
    | .error (.fault fault remaining) => exact .error rfl
    | .error (.tooManyDigits count) =>
      rintro _ ⟨⟩ _
      exact .literal reading (Payload.longRow_of_reading reading)

theorem Spec.parse_foreignWithin (payload : Payload) (choice : Option String)
    (activities : Activities) (settings : Settings) :
    ForeignWithin (ForeignCause payload choice activities settings) (Spec.parse payload) := by
  refine (payload.read_foreignWithin choice activities settings).bind fun v _ => ?_
  split
  · cases Spec.decode v with
    | ok spec => exact .ok _
    | failed problems => exact .error rfl
  · exact .error rfl

theorem Settings.level_foreignWithin (payload : Payload) (choice : Option String)
    (activities : Activities) (settings : Settings) :
    ForeignWithin (ForeignCause payload choice activities settings) settings.level := by
  intro e h _
  unfold Settings.level Log.LevelChoice.capitalized Log.LevelChoice.number at h
  dsimp only at h
  split at h
  · cases h
  · rename_i unknown
    obtain rfl := Except.error.inj h
    exact .level unknown

theorem compileLogged_foreignWithin (payload : Payload) (choice : Option String)
    (activities : Activities) (settings : Settings) :
    ForeignWithin (ForeignCause payload choice activities settings)
      (compileLogged payload choice activities settings).result := by
  unfold compileLogged compile
  refine ForeignWithin.bind_traced (settings.level_foreignWithin payload choice activities)
    fun _ _ => ?_
  refine ForeignWithin.bind_traced (Spec.parse_foreignWithin payload choice activities settings)
    fun spec parsed => ?_
  refine ForeignWithin.bind_traced (spec.select_foreignWithin choice) fun ⟨name, c⟩ selected => ?_
  refine ForeignWithin.bind_traced ((Registry.ofComponents_foreignWithin spec.components _).mono ?_)
    fun registry accepted => ?_
  · rintro e ⟨failure, rfl, fails⟩
    exact .component parsed fails
  rw [App.result_ofContract]
  refine (Registry.expandAll_foreignWithin registry).bind fun _ _ => ?_
  refine (contractSchemas_foreignWithin settings _ c.transactions).bind fun schemas _ => ?_
  refine ForeignWithin.bind ((compileTransactions_foreignWithin c schemas c.transactions).mono ?_)
    fun _ _ => .ok _
  rintro e ⟨t, mem, caused⟩
  exact .transaction parsed selected accepted mem caused

theorem compileLogged_of_read {level : Int} (known : settings.level = .ok level) {e : Error}
    (h : payload.read = .error e) :
    (compileLogged payload choice activities settings).result = .error e := by
  have parsed : Spec.parse payload = .error e := by
    rw [Spec.parse, h]
    rfl
  unfold compileLogged compile
  rw [Traced.result_bind, Traced.result_bind]
  change (settings.level >>= fun _ => Spec.parse payload >>= _) = _
  rw [known, parsed]
  rfl

/-- A compilation fails for the contract, a log level that there is not, bytes without text, an
integer that is too long, or a failure of the schema library on what the contract declares. A
malformed text is reported with its fault; bytes without text and an integer that is too long stay
what they are. -/
theorem compileLogged_failures (payload : Payload) (choice : Option String)
    (activities : Activities) (settings : Settings) :
    (∀ e, (compileLogged payload choice activities settings).result = .error e →
      e.isForeign = true → ForeignCause payload choice activities settings e) ∧
    ∀ level, settings.level = .ok level →
      (∀ s fault remaining, payload.reading? = some (s, .error (.fault fault remaining)) →
        (compileLogged payload choice activities settings).result =
          .error (.malformedSpec fault s remaining)) ∧
      (∀ s count, payload.reading? = some (s, .error (.tooManyDigits count)) →
        (compileLogged payload choice activities settings).result =
          .error (.integerTooLong count)) ∧
      (payload.Undecodable →
        (compileLogged payload choice activities settings).result = .error .undecodableBytes) := by
  refine ⟨compileLogged_foreignWithin payload choice activities settings, fun level known =>
    ⟨?_, ?_, ?_⟩⟩
  · intro s fault remaining reading
    exact compileLogged_of_read known (Payload.of_reading reading).1
  · intro s count reading
    exact compileLogged_of_read known (Payload.of_reading reading).1
  · intro undecodable
    exact compileLogged_of_read known (Payload.read_of_undecodable undecodable)

end

theorem Settings.level_default : ({} : Settings).level = .ok 20 := by cbv

/-- A byte that starts no character and an integer of 4301 digits get past the stages. -/
theorem compileLogged_failures_foreign :
    (compileLogged (.bytes [0xFF]) none .builtin {}).result = .error .undecodableBytes ∧
      (compileLogged (.text (Json.onesText 4301)) none .builtin {}).result =
        .error (.integerTooLong 4301) ∧
      Error.undecodableBytes.isForeign = true ∧ (Error.integerTooLong 4301).isForeign = true := by
  have undecodable : (Payload.bytes [0xFF]).Undecodable := by
    unfold Payload.Undecodable
    decide +kernel
  have long : Number.digitLimit < 4300 + 1 := by decide
  have reading : (Payload.text (Json.onesText 4301)).reading? =
      some (Json.onesText 4301, .error (.tooManyDigits 4301)) := by
    rw [Payload.reading?, Json.ofText_ones long]
  exact ⟨compileLogged_of_read Settings.level_default (Payload.read_of_undecodable undecodable),
    compileLogged_of_read Settings.level_default (Payload.of_reading reading).1, rfl, rfl⟩

end LedgerFlow
