import LedgerFlow.Proofs.Graph.Links
import LedgerFlow.Proofs.Json.RoundTrip

/-!
What stands for a condition without an expression. Whatever the description is, it cannot get out of
the literal that it is written as. So the expression compares a fixed text with the description and
nothing else, and fails unless the description is this text.
-/
namespace LedgerFlow
open Json (TextLiteral textLiteral_writeText)

/-- The expression compares these two texts, each of them in a literal. -/
def Graph.Compares (expr left right : String) : Prop :=
  ∃ l r, TextLiteral l left ∧ TextLiteral r right ∧ expr.toList = l ++ (" == ".toList ++ r)

def Rule.describedAs (rule : Rule) (condition : Condition) : String :=
  if condition.description ≠ "" then condition.description else rule.description.getD ""

namespace Graph

theorem Compares.inj {expr left right left' right' : String} (h : Compares expr left right)
    (h' : Compares expr left' right') : left = left' ∧ right = right' := by
  obtain ⟨l, r, isLeft, isRight, whole⟩ := h
  obtain ⟨l', r', isLeft', isRight', whole'⟩ := h'
  obtain ⟨lefts, rests⟩ := isLeft.append_inj isLeft' (whole.symm.trans whole')
  have rights : r ++ [] = r' ++ [] := congrArg (· ++ []) (List.append_cancel_left rests)
  exact ⟨lefts, (isRight.append_inj isRight' rights).1⟩

/-- What the expression for a description says. -/
structure IsPlaceholder (expr description : String) : Prop where
  /-- Behind the comparison there is one literal, which reads as the description. -/
  literal : ∃ l, expr.toList = "\"changeme\" == ".toList ++ l ∧ TextLiteral l description ∧
    Json.ofText (String.ofList l) = .ok (.text description)
  /-- No literal ends before the expression does. -/
  ends : ∀ l rest text, expr.toList = "\"changeme\" == ".toList ++ (l ++ rest) →
    TextLiteral l text → rest = [] ∧ text = description
  compares : ∀ left right, Compares expr left right ↔ left = "changeme" ∧ right = description
  holds : (∃ text, Compares expr text text) ↔ description = "changeme"

theorem toList_placeholder (description : String) :
    (placeholder description).toList = "\"changeme\" == ".toList ++
      Json.writeText false description := by
  rw [placeholder, String.toList_append]
  exact congrArg _ String.toList_ofList

theorem compares_placeholder (description : String) :
    Compares (placeholder description) "changeme" description := by
  refine ⟨_, _, textLiteral_writeText false "changeme", textLiteral_writeText false description, ?_⟩
  rw [toList_placeholder, ← List.append_assoc]
  rfl

theorem isPlaceholder_placeholder (description : String) :
    IsPlaceholder (placeholder description) description := by
  have compares (left right : String) :
      Compares (placeholder description) left right ↔ left = "changeme" ∧ right = description := by
    refine ⟨fun h => h.inj (compares_placeholder description), ?_⟩
    rintro ⟨rfl, rfl⟩
    exact compares_placeholder right
  constructor
  case literal =>
    refine ⟨_, toList_placeholder description, textLiteral_writeText false description, ?_⟩
    have readable : (Json.text description).Readable := Json.readable_leaf rfl nofun nofun
    have gapped : Json.Style.compact.Gapped := ⟨nofun, nofun⟩
    have written : (String.ofList (Json.writeText false description)).toList =
        Json.write .compact 0 (.text description) ++ [] := by
      rw [String.toList_ofList, List.append_nil]
      rfl
    have ended : ∀ c ∈ ([] : List Char), Json.isGap c = true := nofun
    exact Json.ofText_written gapped readable ended written
  case ends =>
    intro l rest text cut isLiteral
    rw [toList_placeholder] at cut
    have own : Json.writeText false description ++ [] = l ++ rest := by
      rw [List.append_nil]
      exact List.append_cancel_left cut
    obtain ⟨texts, rests⟩ := (textLiteral_writeText false description).append_inj isLiteral own
    exact ⟨rests.symm, texts.symm⟩
  case compares => exact compares
  case holds =>
    constructor
    · rintro ⟨text, same⟩
      obtain ⟨rfl, own⟩ := (compares text text).mp same
      exact own.symm
    · rintro rfl
      exact ⟨"changeme", compares_placeholder "changeme"⟩

theorem guardText_of_no_expr {condition : Condition} (noExpr : condition.expr = "") (rule : Rule) :
    Builder.guardText rule condition = placeholder (rule.describedAs condition) := by
  rw [Builder.guardText, if_neg (not_not_intro noExpr), Rule.describedAs]
  split <;> rfl

/-- A rule whose condition has no expression is entered by one link only, with the description
behind a comparison. -/
theorem ofTransaction_placeholders {activities : Activities} {transaction : Transaction} {g : Graph}
    (h : Graph.ofTransaction activities transaction = .ok g) :
    ∃ named : List (Rule × List String), named.map (·.1) = transaction.rules ∧
      (∀ entry ∈ named, List.Forall₂ (g.Performs activities) entry.1.actions entry.2) ∧
      ∀ entry ∈ named, ∀ condition, entry.1.condition = some condition → condition.expr = "" →
        ∀ first ∈ entry.2.head?, ∃ source expr, (source, { target := first, expr := some expr }) ∈
          linksIn g.nodes ∧
          (∀ link ∈ linksIn g.nodes, link.2.target = first →
            link = (source, { target := first, expr := some expr })) ∧
          IsPlaceholder expr (entry.1.describedAs condition) := by
  obtain ⟨b, named, finished, rfl, rfl⟩ := exists_finished h
  refine ⟨named.map fun entry => (entry.1, entry.2.map (·.1)), ?_, ?_, ?_⟩
  · rw [List.map_map]
    exact finished.all
  · intro entry hentry
    obtain ⟨task, htask, rfl⟩ := List.mem_map.mp hentry
    rw [← (finished.naming _ htask).actions, List.forall₂_map_left_iff, List.forall₂_map_right_iff,
      List.forall₂_same]
    exact fun own h => finished.performs (List.mem_flatMap.mpr ⟨_, htask, h⟩)
  · intro entry hentry condition conditioned noExpr first hfirst
    obtain ⟨task, htask, rfl⟩ := List.mem_map.mp hentry
    obtain ⟨source, guard, hmem⟩ := finished.exists_guard htask conditioned hfirst
    refine ⟨source, _, hmem, fun link hlink target => ?_, ?_⟩
    · have entered := (finished.guarded htask (Option.isSome_of_eq_some conditioned) hfirst).2 link
        hlink target
      rw [guard] at entered
      exact List.mem_singleton.mp entered
    · rw [guardText_of_no_expr noExpr]
      exact isPlaceholder_placeholder _

end Graph

def Transaction.described (description : String) : Transaction where
  name := "Described"
  rules := [{ condition := some { description }, actions := [{ activity := "#log" }] }]

namespace Graph

theorem ofTransaction_placeholders_quoted :
    ∃ g source first expr, ofTransaction .builtin (.described "\"\\\" == \"\n") = .ok g ∧
      (source, { target := first, expr := some expr }) ∈ linksIn g.nodes ∧
        IsPlaceholder expr "\"\\\" == \"\n" := by
  cases built : ofTransaction .builtin (.described "\"\\\" == \"\n") with
  | error e =>
    have linked : (ofTransaction .builtin (.described "\"\\\" == \"\n")).toOption.isSome =
      true := by decide +kernel
    rw [built] at linked
    cases linked
  | ok g =>
    obtain ⟨named, rules, performs, guarded⟩ := ofTransaction_placeholders built
    obtain ⟨⟨rule, names⟩, rfl, rfl⟩ := List.map_eq_singleton_iff.mp rules
    cases performs _ List.mem_cons_self with
    | cons =>
      obtain ⟨source, expr, mem, -, placeholder⟩ := guarded _ List.mem_cons_self _ rfl rfl _ rfl
      exact ⟨g, source, _, expr, rfl, mem, placeholder⟩

/-- This description makes a comparison that holds. -/
theorem ofTransaction_placeholders_changeme :
    (ofTransaction .builtin (.described "changeme")).toOption.map (fun g => linksIn g.nodes) =
      some [("noop_1", { target := "log_1", expr := some "\"changeme\" == \"changeme\"" })] ∧
    Compares "\"changeme\" == \"changeme\"" "changeme" "changeme" := by
  refine ⟨by decide +kernel, ?_⟩
  have written : placeholder "changeme" = "\"changeme\" == \"changeme\"" := by decide
  exact written ▸ compares_placeholder "changeme"

end Graph

end LedgerFlow
