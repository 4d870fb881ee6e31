import LedgerFlow.Proofs.Schema.WellFormed

/-!
Where the complaints about a schema come from. What is asked of a part of a schema depends on the
way to it alone, and whether it is complained of depends on the part alone.
-/
namespace LedgerFlow.Schema
open Json (Reading Step)

/-- What is asked of a part of a schema. -/
inductive Demand where
  | shaped (shape : Shape)
  /-- A schema or a list of names. -/
  | dependency

def Demand.unmet (patterns : Bool) (v : Json) : Demand → List Violation
  | .shaped shape => shape.complaints patterns (partReading patterns v)
  | .dependency => requireEither (complaints patterns v) (requireNames v) v

/-- What is asked of the part that a step leads to, if complaints about it are told one by one. -/
def Demand.below? : Demand → Step → Option Demand
  | .shaped .schema, .field keyword => (Table.get? keywordShapes keyword).map .shaped
  | .shaped .schemaList, .item _ => some (.shaped .schema)
  | .shaped .schemaTable, .field _ => some (.shaped .schema)
  | .shaped .patternTable, .field _ => some (.shaped .schema)
  | .shaped .dependencyTable, .field _ => some .dependency
  | .shaped .nameList, .item _ => some (.shaped .text)
  | _, _ => none

def Demand.at? (demand : Demand) : List Step → Option Demand
  | [] => some demand
  | step :: path => (demand.below? step).bind fun next => next.at? path

variable {patterns : Bool} {v : Json} {step : Step} {path : List Step} {cause : Cause}

/-! Complaints about the value itself. -/

/-- These complaints are about the value and none of its parts. -/
def Local (found : List Violation) : Prop := ∀ x ∈ found, x.path = []

theorem Local.not_mem {found : List Violation} (h : Local found) : ⟨step :: path, cause⟩ ∉ found :=
  fun mem => List.cons_ne_nil _ _ (h _ mem)

theorem local_nil : Local [] := nofun

theorem local_require (holds : Bool) (cause : Cause) : Local (require holds cause) := by
  cases holds <;> simp [Local, require, Violation.here]

theorem local_requireType (name : String) (v : Json) : Local (requireType name v) :=
  local_require _ _

theorem Local.append {found later : List Violation} (h : Local found)
    (h' : Local later) : Local (found ++ later) :=
  fun x hx => (List.mem_append.mp hx).elim (h x) (h' x)

theorem local_requirePattern (v : Json) : Local (requirePattern v) := by
  cases v <;> first | exact local_require _ _ | exact local_nil

theorem local_requireSome (v : Json) : Local (requireSome v) := by
  cases v <;> first | exact local_require _ _ | exact local_nil

theorem local_requireDistinct (v : Json) : Local (requireDistinct v) := by
  cases v <;> first | exact local_require _ _ | exact local_nil

theorem local_requirePositive (v : Json) : Local (requirePositive v) := by
  unfold requirePositive
  cases v.numeral? <;> first | exact local_require _ _ | exact local_nil

theorem local_requireNonNegative (v : Json) : Local (requireNonNegative v) := by
  unfold requireNonNegative
  cases v.numeral? <;> first | exact local_require _ _ | exact local_nil

/-! Complaints about parts. -/

theorem cons_mem_under_iff {other : Step} {found : List Violation} :
    ⟨step :: path, cause⟩ ∈ found.map (·.under other) ↔ step = other ∧ ⟨path, cause⟩ ∈ found := by
  constructor
  · intro h
    obtain ⟨x, hx, same⟩ := List.mem_map.mp h
    obtain ⟨steps, rfl⟩ := Violation.mk.inj same
    obtain ⟨rfl, rfl⟩ := List.cons.inj steps
    exact ⟨rfl, hx⟩
  · rintro ⟨rfl, h⟩
    exact List.mem_map_of_mem h

theorem cons_mem_items_iff {items : List Json} {found : Json → List Violation} :
    ⟨step :: path, cause⟩ ∈ (items.zipIdx.flatMap fun (item, i) =>
      (found item).map (·.under (.item i))) ↔
      ∃ i w, step = .item i ∧ items[i]? = some w ∧ ⟨path, cause⟩ ∈ found w := by
  simp only [List.mem_flatMap, cons_mem_under_iff, Prod.exists, List.mem_zipIdx_iff_getElem?]
  constructor
  · rintro ⟨w, i, hw, rfl, h⟩
    exact ⟨i, w, rfl, hw, h⟩
  · rintro ⟨i, w, rfl, hw, h⟩
    exact ⟨w, i, hw, rfl, h⟩

theorem cons_mem_fields_iff (distinct : v.Distinct) (found : Json → List Violation) :
    ⟨step :: path, cause⟩ ∈ (v.fieldsOf.flatMap fun (name, w) =>
      (found w).map (·.under (.field name))) ↔
      ∃ name w, step = .field name ∧ v.get? name = some w ∧ ⟨path, cause⟩ ∈ found w := by
  simp only [List.mem_flatMap, cons_mem_under_iff, Prod.exists, distinct.mem_fieldsOf_iff]
  constructor
  · rintro ⟨name, w, hw, rfl, h⟩
    exact ⟨name, w, rfl, hw, h⟩
  · rintro ⟨name, w, rfl, hw, h⟩
    exact ⟨name, w, hw, rfl, h⟩

theorem itemComplaints_eq (patterns : Bool) (v : Json) : itemComplaints (partReading patterns v) =
    v.itemsOf.zipIdx.flatMap fun (w, i) => (complaints patterns w).map (·.under (.item i)) := by
  rw [itemComplaints, partReading_items, List.zipIdx_map, List.flatMap_map]
  rfl

theorem fieldComplaints_eq (patterns : Bool) (v : Json) : fieldComplaints (partReading patterns v) =
    v.fieldsOf.flatMap fun (name, w) => (complaints patterns w).map (·.under (.field name)) := by
  rw [fieldComplaints, partReading_fields, List.flatMap_map]

theorem eachItem_eq (check : Json → List Violation) (v : Json) : eachItem check v =
    v.itemsOf.zipIdx.flatMap fun (w, i) => (check w).map (·.under (.item i)) := by
  cases v <;> rfl

theorem cons_mem_complaints_iff : ⟨step :: path, cause⟩ ∈ complaints patterns v ↔ ∃ keyword shape w,
    step = .field keyword ∧ Table.get? keywordShapes keyword = some shape ∧ v.get?
      keyword = some w ∧
      ⟨path, cause⟩ ∈ shape.complaints patterns (partReading patterns w) := by
  cases v with
  | object fields =>
    rw [complaints_object, nodeComplaints, List.mem_flatMap]
    constructor
    · rintro ⟨⟨keyword, shape⟩, keyed, h⟩
      dsimp only at h
      rw [Table.get?_mapValues] at h
      cases found : Table.get? fields keyword with
      | none => simp [found] at h
      | some w =>
        rw [found] at h
        obtain ⟨rfl, inner⟩ := cons_mem_under_iff.mp h
        exact ⟨keyword, shape, w, rfl, Table.get?_of_mem distinct_keywordShapes keyed, found, inner⟩
    · rintro ⟨keyword, shape, w, rfl, keyed, found, h⟩
      refine ⟨(keyword, shape), Table.mem_of_get? keyed, ?_⟩
      dsimp only
      rw [Table.get?_mapValues, show Table.get? fields keyword = some w from found]
      exact cons_mem_under_iff.mpr ⟨rfl, h⟩
  | bool b => exact iff_of_false (List.not_mem_nil) (by
      rintro ⟨_, _, _, -, -, found, -⟩; cases found)
  | _ =>
    refine iff_of_false (fun h => ?_) (by rintro ⟨_, _, _, -, -, found, -⟩; cases found)
    cases List.mem_singleton.mp h

/-! One step, and a whole path. -/

theorem Demand.local_unmet {demand : Demand} (last : ∀ step, demand.below? step = none) :
    Local (demand.unmet patterns v) := by
  cases demand with
  | dependency => exact local_require _ _
  | shaped shape =>
    unfold unmet
    cases shape with
    | anything => exact local_nil
    | text | flag | number | list | schemaOrList | types => exact local_require _ _
    | positive => exact (local_require _ _).append (local_requirePositive _)
    | count => exact (local_require _ _).append (local_requireNonNegative _)
    | pattern =>
      refine (local_require _ _).append ?_
      split
      · exact local_requirePattern _
      · exact local_nil
    | schema => cases last (.field "title")
    | schemaList | nameList => cases last (.item 0)
    | schemaTable | patternTable | dependencyTable => cases last (.field "")

theorem cons_mem_schemaList_iff :
    ⟨step :: path, cause⟩ ∈ schemaListComplaints (partReading patterns v) ↔
    ∃ i w, step = .item i ∧ v.itemsOf[i]? = some w ∧ ⟨path, cause⟩ ∈ complaints patterns w := by
  have own : Local (requireType "array" v ++ requireSome v) :=
    (local_requireType _ v).append (local_requireSome v)
  rw [schemaListComplaints, partReading_value, List.mem_append, or_iff_right own.not_mem,
    itemComplaints_eq]
  exact cons_mem_items_iff

theorem cons_mem_nameList_iff : ⟨step :: path, cause⟩ ∈ requireNames v ↔
    ∃ i w, step = .item i ∧ v.itemsOf[i]? = some w ∧ ⟨path, cause⟩ ∈ requireType "string" w := by
  rw [requireNames, List.mem_append, or_iff_left (local_requireDistinct v).not_mem, List.mem_append,
    or_iff_right (local_requireType _ v).not_mem, eachItem_eq]
  exact cons_mem_items_iff

theorem cons_mem_schemaTable_iff (distinct : v.Distinct) :
    ⟨step :: path, cause⟩ ∈ Shape.schemaTable.complaints patterns (partReading patterns v) ↔
      ∃ name w, step = .field name ∧ v.get? name = some w ∧
        ⟨path, cause⟩ ∈ complaints patterns w := by
  rw [Shape.complaints, List.mem_append, or_iff_right (local_requireType _ _).not_mem,
    fieldComplaints_eq]
  exact cons_mem_fields_iff distinct (complaints patterns)

theorem cons_mem_patternTable_iff (distinct : v.Distinct) :
    ⟨step :: path, cause⟩ ∈ Shape.patternTable.complaints patterns (partReading patterns v) ↔
      ∃ name w, step = .field name ∧ v.get? name = some w ∧
        ⟨path, cause⟩ ∈ complaints patterns w := by
  have names (entries : List (String × Json × List Violation)) :
      Local (if patterns then entries.flatMap fun entry => requirePattern (.text entry.1)
        else []) := by
    split
    · intro x hx
      obtain ⟨entry, -, hx⟩ := List.mem_flatMap.mp hx
      exact local_requirePattern _ x hx
    · exact local_nil
  rw [Shape.complaints, List.mem_append, or_iff_left (names _).not_mem]
  exact cons_mem_schemaTable_iff distinct

theorem cons_mem_dependencyTable_iff (distinct : v.Distinct) :
    ⟨step :: path, cause⟩ ∈ Shape.dependencyTable.complaints patterns (partReading patterns v) ↔
      ∃ name w, step = .field name ∧ v.get? name = some w ∧
        ⟨path, cause⟩ ∈ Demand.dependency.unmet patterns w := by
  rw [Shape.complaints, List.mem_append, or_iff_right (local_requireType _ _).not_mem,
    partReading_fields, List.flatMap_map]
  exact cons_mem_fields_iff distinct fun w => Demand.dependency.unmet patterns w

namespace Demand
variable {demand : Demand}

theorem exists_field_iff (next : Demand) (fields : ∀ name, demand.below? (.field name) = some next)
    (items : ∀ i, demand.below? (.item i) = none) :
    (∃ name w, step = .field name ∧ v.get? name = some w ∧ ⟨path, cause⟩ ∈ next.unmet patterns w) ↔
      ∃ next w, demand.below? step = some next ∧ v.step? step = some w ∧
        ⟨path, cause⟩ ∈ next.unmet patterns w := by
  constructor
  · rintro ⟨name, w, rfl, found, h⟩
    exact ⟨next, w, fields name, found, h⟩
  · rintro ⟨other, w, below, found, h⟩
    cases step with
    | field name =>
      obtain rfl := Option.some.inj ((fields name).symm.trans below)
      exact ⟨name, w, rfl, found, h⟩
    | item i => cases (items i).symm.trans below

theorem exists_item_iff (next : Demand) (items : ∀ i, demand.below? (.item i) = some next)
    (fields : ∀ name, demand.below? (.field name) = none) :
    (∃ i w, step = .item i ∧ v.itemsOf[i]? = some w ∧ ⟨path, cause⟩ ∈ next.unmet patterns w) ↔
      ∃ next w, demand.below? step = some next ∧ v.step? step = some w ∧
        ⟨path, cause⟩ ∈ next.unmet patterns w := by
  constructor
  · rintro ⟨i, w, rfl, found, h⟩
    exact ⟨next, w, items i, found, h⟩
  · rintro ⟨other, w, below, found, h⟩
    cases step with
    | field name => cases (fields name).symm.trans below
    | item i =>
      obtain rfl := Option.some.inj ((items i).symm.trans below)
      exact ⟨i, w, rfl, found, h⟩

theorem cons_mem_unmet_iff (distinct : v.Distinct) (demand : Demand) :
    ⟨step :: path, cause⟩ ∈ demand.unmet patterns v ↔
    ∃ next w, demand.below? step = some next ∧ v.step? step = some w ∧
      ⟨path, cause⟩ ∈ next.unmet patterns w := by
  -- Alternatives and plain values are complained of as a whole, so the way does not lead on from
  -- them.
  have last (h : ∀ step, demand.below? step = none) :
    ⟨step :: path, cause⟩ ∈ demand.unmet patterns v ↔
      ∃ next w, demand.below? step = some next ∧ v.step? step = some w ∧
        ⟨path, cause⟩ ∈ next.unmet patterns w := by
    refine iff_of_false (local_unmet h).not_mem ?_
    rintro ⟨next, w, below, -, -⟩
    cases (h step).symm.trans below
  cases demand with
  | dependency => exact last fun _ => rfl
  | shaped shape =>
    cases shape with
    | schema =>
      refine cons_mem_complaints_iff.trans ?_
      constructor
      · rintro ⟨keyword, shape, w, rfl, keyed, found, h⟩
        exact ⟨.shaped shape, w, congrArg (Option.map shaped) keyed, found, h⟩
      · rintro ⟨next, w, below, found, h⟩
        cases step with
        | field keyword =>
          obtain ⟨shape, keyed, rfl⟩ := Option.map_eq_some_iff.mp below
          exact ⟨keyword, shape, w, rfl, keyed, found, h⟩
        | item i => cases below
    | schemaList =>
      exact cons_mem_schemaList_iff.trans
        (exists_item_iff (.shaped .schema) (fun _ => rfl) fun _ => rfl)
    | nameList =>
      rw [unmet, Shape.complaints, partReading_value, cons_mem_nameList_iff]
      refine Iff.trans ?_ (exists_item_iff (.shaped .text) (fun _ => rfl) fun _ => rfl)
      simp only [unmet, Shape.complaints, partReading_value]
    | schemaTable =>
      exact (cons_mem_schemaTable_iff distinct).trans
        (exists_field_iff (.shaped .schema) (fun _ => rfl) fun _ => rfl)
    | patternTable =>
      exact (cons_mem_patternTable_iff distinct).trans
        (exists_field_iff (.shaped .schema) (fun _ => rfl) fun _ => rfl)
    | dependencyTable =>
      exact (cons_mem_dependencyTable_iff distinct).trans
        (exists_field_iff .dependency (fun _ => rfl) fun _ => rfl)
    | _ => exact last fun _ => rfl

/-- A complaint tells what is wrong with the part at its place, and nothing of any other part. -/
theorem mem_unmet_iff (distinct : v.Distinct) (demand : Demand) :
    ⟨path, cause⟩ ∈ demand.unmet patterns v ↔
    ∃ last w, demand.at? path = some last ∧ v.part? path = some w ∧
      .here cause ∈ last.unmet patterns w := by
  induction path generalizing demand v with
  | nil =>
    constructor
    · exact fun h => ⟨demand, v, rfl, rfl, h⟩
    · rintro ⟨last, w, asked, part, h⟩
      obtain rfl := Option.some.inj asked
      obtain rfl := Option.some.inj part
      exact h
  | cons step path ih =>
    rw [cons_mem_unmet_iff distinct]
    constructor
    · rintro ⟨next, u, below, found, h⟩
      obtain ⟨last, w, asked, part, h⟩ := (ih (distinct.step? found) next).mp h
      exact ⟨last, w, Option.bind_eq_some_iff.mpr ⟨next, below, asked⟩,
        Json.part?_cons_eq_some_iff.mpr ⟨u, found, part⟩, h⟩
    · rintro ⟨last, w, asked, part, h⟩
      obtain ⟨next, below, asked⟩ := Option.bind_eq_some_iff.mp asked
      obtain ⟨u, found, part⟩ := Json.part?_cons_eq_some_iff.mp part
      exact ⟨next, u, below, found, (ih (distinct.step? found) next).mpr ⟨last, w, asked, part, h⟩⟩

end Demand

theorem mem_complaints_congr {w : Json} (distinct : v.Distinct) (distinct' : w.Distinct)
    (same : v.part? path = w.part? path) :
    ⟨path, cause⟩ ∈ complaints patterns v ↔ ⟨path, cause⟩ ∈ complaints patterns w := by
  have split {u : Json} (distinct : u.Distinct) : ⟨path, cause⟩ ∈ complaints patterns u ↔
    ∃ last part,
      (Demand.shaped .schema).at? path = some last ∧ u.part? path = some part ∧
        .here cause ∈ last.unmet patterns part :=
    Demand.mem_unmet_iff distinct (.shaped .schema)
  rw [split distinct, split distinct', same]

end LedgerFlow.Schema
