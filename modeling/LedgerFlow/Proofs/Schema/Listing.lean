import LedgerFlow.Proofs.Schema.Patterns

/-!
What the message about a malformed schema lists. It holds everything that is wrong with the schema
but what only a text that is no pattern brings about, so repairing the listed places makes the
schema acceptable if its patterns hold.
-/
namespace LedgerFlow.Schema
open Json (Step)

/-- The texts that must be patterns in a part of which this is asked are patterns. -/
def Demand.PatternsHold : Demand → Json → Prop
  | .shaped shape, v => (∀ text ∈ shape.patternTexts v, Pattern.isPattern text = true) ∧
      ∀ inner ∈ shape.subschemas v, Schema.PatternsHold inner
  | .dependency, v => v.isObject = true → Schema.PatternsHold v

theorem Demand.PatternsHold.unmet_eq {demand : Demand} {v : Json} (hold : demand.PatternsHold v) :
    demand.unmet true v = demand.unmet false v := by
  cases demand with
  | shaped shape =>
    have each := fun inner part => (hold.2 inner part).complaints_eq
    exact (shape_complaints_true hold.1 true).trans (shape_complaints_congr each)
  | dependency =>
    have whole : complaints true v = complaints false v := by
      cases v with
      | object fields => exact (hold rfl).complaints_eq
      | _ => rfl
    rw [unmet, unmet, whole]

/-- What is listed of a schema in Draft 7: everything but what is no pattern and should be one. -/
def listed (s : Json) : List Violation := (complaints false s).mergeSort pathLe

variable {s : Json} {x : Violation}

theorem mem_listed : x ∈ listed s ↔ x ∈ complaints false s := List.mem_mergeSort

theorem listed_eq_nil_iff : listed s = [] ↔ complaints false s = [] := by
  simp only [List.eq_nil_iff_forall_not_mem, mem_listed]

theorem wellFormed_iff_patternsHold : WellFormed s ↔ listed s = [] ∧ PatternsHold s := by
  rw [listed_eq_nil_iff]
  constructor
  · intro h
    exact ⟨h.patternsHold.complaints_eq ▸ h, h.patternsHold⟩
  · rintro ⟨none, hold⟩
    exact hold.complaints_eq.trans none

theorem listed_or_patterns (distinct : s.Distinct) (wrong : x ∈ complaints true s) : x ∈ listed s ∨
    ∃ demand part, (Demand.shaped .schema).at? x.path = some demand ∧ s.part? x.path = some part ∧
      ¬ demand.PatternsHold part := by
  obtain ⟨demand, part, asked, found, here⟩ :=
    (Demand.mem_unmet_iff distinct (.shaped .schema)).mp wrong
  by_cases hold : demand.PatternsHold part
  · refine .inl (mem_listed.mpr ?_)
    exact (Demand.mem_unmet_iff distinct (.shaped .schema)).mpr
      ⟨demand, part, asked, found, hold.unmet_eq ▸ here⟩
  · exact .inr ⟨demand, part, asked, found, hold⟩

/-! The check. -/

section
variable [Library] {name : Option String}

/-- The check fails, and its message lists these violations. -/
def Lists (s : Json) (name : Option String) (all : List Violation) : Prop :=
  ∃ e, check s name = .error e ∧ e.message =
    Error.schemaLabel name ++ " is not valid JSON Schema: " ++ Text.join "; " (all.map (·.text))

/-- What the check of a schema comes to by what its draft finds wrong with it. Where the list that is
made without a look at patterns is empty, the first fault is told alone. -/
structure Reports (s : Json) (name : Option String) (draft : Draft) : Prop where
  passes : check s name = .ok () ↔ draft.fault? s = .ok none
  fails : ∀ failure, draft.fault? s = .error failure → check s name = .error (.validation failure)
  lists : ∀ fault all, draft.fault? s = .ok (some fault) → problems s = .ok all →
    Lists s name (if all = [] then [fault] else all)
  listless : ∀ fault e, draft.fault? s = .ok (some fault) → problems s = .error e →
    check s name = .error e

theorem reports_of_draft {draft : Draft} (written : Library.draft s = .ok draft) :
    Reports s name draft where
  passes := by simp [check_eq_ok_iff_fault, written]
  fails failure failed := by
    rw [check, written]
    simp only [bind, Except.bind, Except.mapError, failed]
  lists fault all found told := by
    refine ⟨.malformedSchema name (if all = [] then [fault] else all), ?_, rfl⟩
    rw [check, written]
    simp only [bind, Except.bind, Except.mapError, found, told]
    cases all <;> rfl
  listless fault e found failed := by
    rw [check, written]
    simp only [bind, Except.bind, Except.mapError, found, failed]

/-- A schema that is in Draft 7 and holds no integer that is too long for a message. -/
structure Checkable (s : Json) : Prop where
  written : Library.draft s = .ok .seven
  short : s.ShortIntegers

/-- How the check of a schema in Draft 7 fails. -/
inductive Rejects (s : Json) (name : Option String) : Prop
  | listed (some : listed s ≠ []) (lists : Lists s name (listed s))
  /-- Only patterns are wrong, and the first thing that is wrong with them is told. -/
  | stray {x : Violation} (none : Schema.listed s = []) (wrong : x ∈ complaints true s)
      (lists : Lists s name [x])
  /-- A text that must be a pattern is refused, and not for its form. -/
  | refused {text : String} {refusal : Pattern.Refusal} (asked : PatternText s text)
      (refused : Pattern.refusal? text = some refusal) (other : refusal ≠ .malformed)
      (failed : check s name = .error (.validation (.pattern refusal)))

theorem problems_seven (written : Library.draft s = .ok .seven) : problems s = .ok (listed s) := by
  -- Where patterns are not looked at, nothing can fail.
  have within : FailsWithin (fun _ => False) (complaints false s) := failsWithin_complaints nofun
  have none : (complaints false s).findSome? Violation.failure? = none := by
    refine List.findSome?_eq_none_iff.mpr fun x hx => ?_
    cases failed : x.failure? with
    | none => rfl
    | some failure => exact (within x hx failure failed).elim
  have all : Draft.seven.faults s = .ok (complaints false s) := by
    simp only [Draft.seven, everything, none]
  rw [problems, written]
  simp only [bind, Except.bind, all]
  rfl

theorem rejects_of_ne_ok (written : Library.draft s = .ok .seven) (fails : check s name ≠ .ok ()) :
    Rejects s name := by
  have within : FailsWithin (fun failure => ∃ text refusal, PatternText s text ∧
      Pattern.refusal? text = some refusal ∧ refusal ≠ .malformed ∧ failure = .pattern refusal)
      (complaints true s) :=
    failsWithin_complaints fun _ text asked refusal refused other =>
      ⟨text, refusal, asked, refused, other, rfl⟩
  have reports : Reports s name .seven := reports_of_draft written
  cases found : Draft.seven.fault? s with
  | error failure =>
    obtain ⟨first, mem, failed⟩ := mem_of_first?_eq_error found
    obtain ⟨text, refusal, asked, refused, other, rfl⟩ := within first mem failure failed
    exact .refused asked refused other (reports.fails _ found)
  | ok fault? =>
    cases fault? with
    | none => exact absurd (reports.passes.mpr found) fails
    | some fault =>
      have told := reports.lists fault _ found (problems_seven written)
      by_cases none : listed s = []
      · rw [if_pos none] at told
        exact .stray none (mem_of_first?_eq_ok_some found) told
      · rw [if_neg none] at told
        exact .listed none told

theorem of_draft_error {failure : Failure} (failed : Library.draft s = .error failure) :
    check s name = .error (.validation failure) ∧ problems s = .error (.validation failure) := by
  rw [check, problems, failed]
  exact ⟨rfl, rfl⟩

end

/-! Repairs. -/

/-- The path comes to one of these places, or leads on from one. -/
def Along (places : List Violation) (path : List Step) : Prop :=
  ∃ x ∈ places, path <+: x.path ∨ x.path <+: path

/-- The second schema is the first one with exactly the listed places repaired. -/
structure Repaired (s t : Json) : Prop where
  /-- Away from the listed places nothing has changed. -/
  kept : ∀ path, ¬ Along (listed s) path → t.part? path = s.part? path
  /-- At the listed places nothing is wrong any more, neither with what they hold nor with what they
  lie in. -/
  mended : ∀ x ∈ complaints false t, ¬ Along (listed s) x.path

theorem Repaired.listed_eq_nil {t : Json} (h : Repaired s t) (distinct : s.Distinct)
    (distinct' : t.Distinct) : listed t = [] := by
  rw [listed_eq_nil_iff, List.eq_nil_iff_forall_not_mem]
  intro x wrong
  have away := h.mended x wrong
  -- The place has not changed, so what is wrong there was wrong before, and is listed.
  have before : x ∈ complaints false s :=
    (mem_complaints_congr distinct' distinct (h.kept x.path away)).mp wrong
  exact away ⟨x, mem_listed.mpr before, .inl (List.prefix_refl x.path)⟩

theorem repaired_of_field {fields fields' : List (String × Json)} {keyword : String}
    (place : ∃ x ∈ listed (.object fields), x.path = [.field keyword])
    (others : ∀ name, name ≠ keyword → Table.get? fields' name = Table.get? fields name)
    (fine : complaints false (.object fields') = []) :
    Repaired (.object fields) (.object fields') := by
  refine ⟨fun path away => ?_, fun x wrong => absurd wrong (fine ▸ List.not_mem_nil)⟩
  obtain ⟨x, hx, place⟩ := place
  cases path with
  | nil => exact absurd ⟨x, hx, .inl (List.nil_prefix)⟩ away
  | cons step path =>
    have same : (Json.object fields').step? step = (Json.object fields).step? step := by
      cases step with
      | field name =>
        refine others name fun h => away ⟨x, hx, .inr ?_⟩
        rw [place, h]
        exact List.prefix_append [Step.field keyword] path
      | item i => rfl
    rw [Json.part?, Json.part?, same]

/-- Where no draft is found, the check and the list fail alike; in any draft the message tells what is
listed, or else the first fault. A schema in Draft 7 is accepted if and only if nothing is listed and
its patterns hold. The message lists everything that is wrong but what a text that is no pattern
brings about, and that only where there is nothing else, and the check fails in another way only for
a text that cannot be looked at as a pattern. So a schema in which exactly the listed places have been
repaired is accepted if its patterns hold. -/
theorem check_lists [Library] (s : Json) (name : Option String) :
    (∀ failure, Library.draft s = .error failure → check s name = .error (.validation failure) ∧
      problems s = .error (.validation failure)) ∧
    (∀ draft, Library.draft s = .ok draft → Reports s name draft) ∧
    (Checkable s →
      problems s = .ok (listed s) ∧
      (check s name = .ok () ↔ listed s = [] ∧ PatternsHold s) ∧
      (check s name ≠ .ok () → Rejects s name) ∧
      (s.Distinct → ∀ x ∈ complaints true s, x ∈ listed s ∨ ∃ demand part,
        (Demand.shaped .schema).at? x.path = some demand ∧ s.part? x.path = some part ∧
          ¬ demand.PatternsHold part) ∧
      (s.Distinct → ∀ t : Json, Checkable t → t.Distinct → Repaired s t →
        problems t = .ok [] ∧ (check t name = .ok () ↔ PatternsHold t))) := by
  refine ⟨fun failure => of_draft_error, fun draft => reports_of_draft, fun checkable => ?_⟩
  refine ⟨problems_seven checkable.written, ?_, rejects_of_ne_ok checkable.written,
    fun distinct x => listed_or_patterns distinct, ?_⟩
  · rw [check_seven checkable.written, wellFormed_iff_patternsHold]
  · intro distinct t checkable' distinct' repaired
    have none := repaired.listed_eq_nil distinct distinct'
    refine ⟨none ▸ problems_seven checkable'.written, ?_⟩
    rw [check_seven checkable'.written, wellFormed_iff_patternsHold, and_iff_right none]

theorem check_lists_repaired :
    let s := Json.object [("type", .text "int"), ("pattern", .text "^a")]
    let t := Json.object [("type", .text "integer"), ("pattern", .text "^a")]
    problems s = .ok (listed s) ∧ listed s ≠ [] ∧ Rejects s none ∧ Repaired s t ∧
      check t none = .ok () := by
  intro s t
  have all : listed s = [⟨[.field "type"], .noAlternative (.text "int")⟩] :=
    List.mergeSort_singleton _
  have repaired : Repaired s t := repaired_of_field ⟨_, all ▸ List.mem_singleton_self _, rfl⟩
    (fun name other => by simp [Table.get?, other.symm]) rfl
  have distinct (type : String) :
      (Json.object [("type", .text type), ("pattern", .text "^a")]).Distinct := by
    simp [Json.distinct_object, Json.distinct_text, Table.keys]
  have checkable (type : String) :
      Checkable (Json.object [("type", .text type), ("pattern", .text "^a")]) := by
    refine ⟨rfl, Json.throughout_object.mpr ⟨fun n same => Json.noConfusion same, ?_⟩⟩
    simp [Json.throughout_text]
  have hold : PatternsHold t := WellFormed.patternsHold rfl
  obtain ⟨-, -, seven⟩ := check_lists s none
  obtain ⟨told, passes, rejects, -, repair⟩ := seven (checkable "int")
  have some : listed s ≠ [] := all ▸ List.cons_ne_nil _ _
  exact ⟨told, some, rejects fun accepted => some (passes.mp accepted).1, repaired,
    (repair (distinct "int") t (checkable "integer") (distinct "integer") repaired).2.mpr hold⟩

/-- A text that is no pattern is not listed, so that nothing is listed where it is all that is
wrong, and a schema with exactly the listed place repaired is not accepted. -/
theorem check_lists_stray :
    let bare := Json.object [("pattern", .text "(")]
    let s := Json.object [("type", .text "int"), ("pattern", .text "(")]
    let t := Json.object [("type", .text "integer"), ("pattern", .text "(")]
    (problems bare = .ok [] ∧ ∀ name, check bare name ≠ .ok ()) ∧
      (∃ all, problems s = .ok all ∧ ∃ x ∈ complaints true s, x ∉ all) ∧ Repaired s t ∧
      ∀ name, check t name ≠ .ok () := by
  intro bare s t
  have stray (v : Json) (first : Violation) (found : complaints true v = [first])
      (name : Option String) : check v name ≠ .ok () :=
    fun h => List.cons_ne_nil first [] (found.symm.trans (check_eq_ok_iff.mp h))
  have all : listed s = [⟨[.field "type"], .noAlternative (.text "int")⟩] :=
    List.mergeSort_singleton _
  refine ⟨⟨(problems_seven rfl).trans (congrArg _ List.mergeSort_nil), stray bare _ rfl⟩,
    ⟨_, problems_seven rfl, ⟨[.field "pattern"], .notPattern "("⟩, ?_, ?_⟩, ?_, stray t _ rfl⟩
  · exact List.mem_cons_self
  · simp [all]
  · exact repaired_of_field ⟨_, all ▸ List.mem_singleton_self _, rfl⟩
      (fun name other => by simp [Table.get?, other.symm]) rfl

end LedgerFlow.Schema
