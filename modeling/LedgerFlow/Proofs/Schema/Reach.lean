import LedgerFlow.Proofs.Schema.Failure
import Mathlib.Data.Finset.Card

/-!
How far following references goes. Each document that is entered leaves fewer to enter, so the calls
end; what is followed from a value says whether there is an expansion, and the way there shows a
cycle where one is told of.
-/
namespace LedgerFlow.Schema

/-- The second call makes the first one: a value needs its parts, and a reference the document that
it names, unless the way has been there. -/
inductive Calls (documents : Table Json) : List String × Json → List String × Json → Prop
  | part {path : List String} {v c : Json} (plain : isMarker v = false) (part : c ∈ v.children) :
      Calls documents (path, c) (path, v)
  | document {path : List String} {v document : Json} {key : String}
      (marks : v.get? refKey = some (.text key)) (found : documents.get? key = some document)
      (off : key ∉ path) :
      Calls documents (path ++ [key], document) (path, v)

/-- Following the references of a value goes through the documents under these keys, one after the
other, and comes upon this reference. -/
inductive ComesUpon (documents : Table Json) (v : Json) : List String → Json → Prop
  | here {ref : Json} (meets : Meets v ref) : ComesUpon documents v [] ref
  | through {path : List String} {key : String} {document ref : Json}
      (before : ComesUpon documents v path (.text key)) (found : documents.get? key = some document)
      (meets : Meets document ref) :
      ComesUpon documents v (path ++ [key]) ref

/-- The reference is the key of a document that the way has not been to. -/
def Followable (documents : Table Json) (path : List String) (ref : Json) : Prop :=
  ∃ key, ref = .text key ∧ key ∈ documents.keys ∧ key ∉ path

/-- Why following the references of a value stops. -/
inductive Halted (documents : Table Json) (v : Json) : Error → Prop
  | notText {path : List String} {ref : Json} (upon : ComesUpon documents v path ref)
      (other : ref.text? = none) :
      Halted documents v (.refNotText ref)
  | missing {path : List String} {key : String} (upon : ComesUpon documents v path (.text key))
      (missing : key ∉ documents.keys) : Halted documents v (.unresolvedRef key)
  | again {path : List String} {key : String} (upon : ComesUpon documents v path (.text key))
      (distinct : path.Nodup) (again : key ∈ path) : Halted documents v (cycleError path key)

/-- A way through different documents, which may get as much longer as there are documents left. -/
structure OnWay (documents : Table Json) (left : Nat) (path : List String) : Prop where
  room : documents.length ≤ left + path.length
  distinct : path.Nodup
  onKeys : ∀ key ∈ path, key ∈ documents.keys

variable {documents : Table Json} {left : Nat} {path : List String} {key : String} {v w ref : Json}

def unvisited (documents : Table Json) (path : List String) : Finset String :=
  documents.keys.toFinset \ path.toFinset

theorem card_unvisited_lt (known : key ∈ documents.keys) (off : key ∉ path) :
    (unvisited documents (path ++ [key])).card < (unvisited documents path).card := by
  apply Finset.card_lt_card
  refine Finset.ssubset_iff_subset_ne.mpr ⟨?_, ?_⟩
  · intro other hother
    simp only [unvisited, Finset.mem_sdiff, List.mem_toFinset, List.mem_append, not_or] at hother ⊢
    exact ⟨hother.1, hother.2.1⟩
  · intro same
    have unseen : key ∈ unvisited documents path := by simp [unvisited, known, off]
    rw [← same] at unseen
    simp [unvisited] at unseen

/-- No row of calls goes on forever: a call for a document leaves fewer of them, a call for a part a
smaller value. -/
theorem calls_wellFounded (documents : Table Json) : WellFounded (Calls documents) := by
  have ends (n : Nat) : ∀ path, (unvisited documents path).card = n → ∀ v, Acc (Calls documents)
      (path, v) := by
    induction n using Nat.strong_induction_on with
    | _ n ih =>
      intro path hn v
      induction v using Json.children_induct with
      | step v parts =>
        apply Acc.intro
        intro call h
        cases h with
        | part _ hc => exact parts _ hc
        | document _ found off =>
          have fewer := card_unvisited_lt (Table.mem_keys_of_get? found) off
          exact ih _ (hn ▸ fewer) _ rfl _
  exact ⟨fun call => ends _ call.1 rfl call.2⟩

namespace OnWay

theorem start (documents : Table Json) : OnWay documents documents.length [] :=
  ⟨Nat.le_refl _, List.nodup_nil, by simp⟩

theorem room_pos (h : OnWay documents left path) (known : key ∈ documents.keys)
    (off : key ∉ path) : 0 < left := by
  have distinct : (key :: path).Nodup := List.nodup_cons.mpr ⟨off, h.distinct⟩
  have onKeys : key :: path ⊆ documents.keys := List.cons_subset.mpr ⟨known, h.onKeys⟩
  have longer := (List.subperm_of_subset distinct onKeys).length_le
  have room := h.room
  rw [Table.length_keys, List.length_cons] at longer
  omega

theorem next (h : OnWay documents (left + 1) path) (known : key ∈ documents.keys)
    (off : key ∉ path) :
    OnWay documents left (path ++ [key]) where
  room := by
    have room := h.room
    rw [List.length_append, List.length_singleton]
    omega
  distinct := List.nodup_append'.mpr ⟨h.distinct, List.nodup_singleton _, by simpa using off⟩
  onKeys := by simpa [or_imp, forall_and] using ⟨h.onKeys, known⟩

end OnWay

theorem follow_closed {document : Json} (found : documents.get? key = some document)
    (again : key ∈ path) :
    follow documents left path (.text key) = .error (cycleError path key) := by
  cases left with
  | zero =>
    rw [follow, resolve_text_of_get? found]
    rfl
  | succ left => exact follow_again found again

inductive Fate (documents : Table Json) (left : Nat) (path : List String) : Json → Prop
  | notText {ref : Json} (other : ref.text? = none) : Fate documents left path ref
  | missing {key : String} (missing : key ∉ documents.keys) : Fate documents left path (.text key)
  | again {key : String} {document : Json} (found : documents.get? key = some document)
      (again : key ∈ path) :
      Fate documents left path (.text key)
  | onward {key : String} {document : Json} {less : Nat}
      (found : documents.get? key = some document) (off : key ∉ path) (room : left = less + 1)
      (next : OnWay documents less (path ++ [key])) :
      Fate documents left path (.text key)

theorem OnWay.fate (h : OnWay documents left path) (ref : Json) : Fate documents left path ref := by
  cases ref with
  | text key =>
    by_cases known : key ∈ documents.keys
    · obtain ⟨document, found⟩ := Table.exists_get?_of_mem_keys known
      by_cases off : key ∉ path
      · obtain ⟨less, rfl⟩ := Nat.exists_eq_succ_of_ne_zero (Nat.ne_of_gt (h.room_pos known off))
        exact .onward found off rfl (h.next known off)
      · exact .again found (not_not.mp off)
    · exact .missing known
  | _ => exact .notText rfl

/-- The bound on the length of a way is never felt: a larger one makes no difference. -/
theorem follow_add (h : OnWay documents left path) (more : Nat) :
    follow documents (left + more) path = follow documents left path := by
  induction left using Nat.strong_induction_on generalizing path with
  | _ left ih =>
    funext ref
    cases h.fate ref with
    | notText other => rw [follow_notText other, follow_notText other]
    | missing missing => rw [follow_unknown missing, follow_unknown missing]
    | again found again => rw [follow_closed found again, follow_closed found again]
    | @onward _ _ less found off room next =>
      subst room
      rw [Nat.add_right_comm, follow_known found off, follow_known found off,
        ih less (Nat.lt_succ_self less) next]

theorem halted_of_follow {e : Error} (upon : ComesUpon documents v path ref)
    (onWay : OnWay documents left path)
    (h : follow documents left path ref = .error e) : Halted documents v e := by
  induction left using Nat.strong_induction_on generalizing path ref with
  | _ left ih =>
    cases onWay.fate ref with
    | notText other =>
      rw [follow_notText other] at h
      exact Except.error.inj h ▸ .notText upon other
    | missing missing =>
      rw [follow_unknown missing] at h
      exact Except.error.inj h ▸ .missing upon missing
    | again found again =>
      rw [follow_closed found again] at h
      exact Except.error.inj h ▸ .again upon onWay.distinct again
    | @onward _ _ less found off room next =>
      subst room
      rw [follow_known found off] at h
      obtain ⟨ref, meets, h⟩ := exists_meets_of_expandWith_error h
      exact ih less (Nat.lt_succ_self less) (.through upon found meets) next h

theorem halted_of_expandDocument {e : Error}
    (h : expandDocument documents v = .error e) : Halted documents v e := by
  obtain ⟨ref, meets, h⟩ := exists_meets_of_expandWith_error h
  exact halted_of_follow (.here meets) (.start documents) h

theorem OnWay.onward (h : OnWay documents left path) (ok : follow documents left path ref = .ok w) :
    ∃ key document less, ref = .text key ∧ documents.get? key = some document ∧ key ∉ path ∧
      OnWay documents less (path ++ [key]) ∧
        expandWith (follow documents less (path ++ [key])) document = .ok w := by
  cases h.fate ref with
  | notText other =>
    rw [follow_notText other] at ok
    cases ok
  | missing missing =>
    rw [follow_unknown missing] at ok
    cases ok
  | again found again =>
    rw [follow_closed found again] at ok
    cases ok
  | onward found off room next =>
    subst room
    rw [follow_known found off] at ok
    exact ⟨_, _, _, rfl, found, off, next, ok⟩

theorem ComesUpon.exists_follow (upon : ComesUpon documents v path ref)
    (ok : expandDocument documents v = .ok w) :
    ∃ left w, OnWay documents left path ∧ follow documents left path ref = .ok w := by
  induction upon with
  | here meets =>
    obtain ⟨w, ok⟩ := meets.follow_ok ok
    exact ⟨documents.length, w, .start documents, ok⟩
  | through _ found meets ih =>
    obtain ⟨left, w, onWay, ok⟩ := ih
    obtain ⟨key, document, less, same, found', -, next, ok⟩ := onWay.onward ok
    cases same
    obtain rfl := Option.some.inj (found.symm.trans found')
    obtain ⟨w, ok⟩ := meets.follow_ok ok
    exact ⟨less, w, next, ok⟩

theorem ComesUpon.followable (upon : ComesUpon documents v path ref)
    (ok : expandDocument documents v = .ok w) : Followable documents path ref := by
  obtain ⟨left, w, onWay, ok⟩ := upon.exists_follow ok
  obtain ⟨key, document, -, same, found, off, -⟩ := onWay.onward ok
  exact ⟨key, same, Table.mem_keys_of_get? found, off⟩

theorem Halted.exists_not_followable {e : Error} (h : Halted documents v e) :
    ∃ path ref, ComesUpon documents v path ref ∧ ¬ Followable documents path ref := by
  cases h with
  | notText upon other =>
    refine ⟨_, _, upon, ?_⟩
    rintro ⟨key, rfl, -⟩
    cases other
  | missing upon missing =>
    refine ⟨_, _, upon, ?_⟩
    rintro ⟨key, same, known, -⟩
    cases same
    exact missing known
  | again upon _ again =>
    refine ⟨_, _, upon, ?_⟩
    rintro ⟨key, same, -, off⟩
    cases same
    exact off again

theorem ComesUpon.isChain (upon : ComesUpon documents v path (.text key)) :
    (path ++ [key]).IsChain (Follows documents) := by
  generalize href : Json.text key = ref at upon
  induction upon generalizing key with
  | here => exact List.isChain_singleton key
  | through _ found meets ih =>
    subst href
    rw [List.isChain_append]
    refine ⟨ih rfl, List.isChain_singleton key, ?_⟩
    simpa using ⟨_, found, meets⟩

/-- What is told of a cycle: it lies at the end of a way through different documents, from a key to
where the reference to this key is met again. -/
theorem Halted.exists_cycle {names : List String} (h : Halted documents v (.refCycle names)) :
    ∃ before key between, names = (key :: between ++ [key]).map refName ∧
      ComesUpon documents v (before ++ key :: between) (.text key) ∧
        (before ++ key :: between).Nodup ∧
      (key :: between ++ [key]).IsChain (Follows documents) := by
  generalize he : Error.refCycle names = e at h
  cases h with
  | notText => cases he
  | missing => cases he
  | @again path key upon distinct again =>
    obtain ⟨before, between, rfl⟩ := List.append_of_mem again
    have off : ∀ other ∈ before, decide (other ≠ key) = true := by
      intro other hother
      obtain ⟨-, -, apart⟩ := List.nodup_append'.mp distinct
      rw [decide_eq_true_eq]
      rintro rfl
      exact apart hother List.mem_cons_self
    have chain := upon.isChain
    rw [List.append_assoc] at chain
    refine ⟨before, key, between, ?_, upon, distinct, chain.right_of_append⟩
    rw [cycleError, List.dropWhile_append_of_pos off] at he
    simpa using Error.refCycle.inj he

/-- Following the references of a document always comes to an end, and the bound on the way makes no
difference. There is an expansion just when every reference that is come upon names a document that
the way has not been to; it has no `$ref` field at any depth and expands to itself. Where a cycle is
told of, there is one on the way. -/
theorem expand_ends (r : Registry) (v : Json) :
    WellFounded (Calls r.documents) ∧
    (∀ more, expandWith (follow r.documents (r.documents.length + more) []) v = r.expand v) ∧
    ((∃ w, r.expand v = .ok w) ↔
      ∀ path ref, ComesUpon r.documents v path ref → Followable r.documents path ref) ∧
    (∀ w, r.expand v = .ok w → RefFree w ∧ r.expand w = .ok w) ∧
    ∀ names, r.expand v = .error (.refCycle names) →
      ∃ before key between, names = (key :: between ++ [key]).map refName ∧
        ComesUpon r.documents v (before ++ key :: between) (.text key) ∧
          (before ++ key :: between).Nodup ∧
        (key :: between ++ [key]).IsChain (Follows r.documents) := by
  refine ⟨calls_wellFounded r.documents, fun more => ?_, ⟨?_, ?_⟩, fun w ok => ?_,
    fun names h => ?_⟩
  · rw [follow_add (.start r.documents) more]
    rfl
  · rintro ⟨w, ok⟩ path ref upon
    exact upon.followable ok
  · intro followable
    cases h : r.expand v with
    | ok w => exact ⟨w, rfl⟩
    | error e =>
      obtain ⟨path, ref, upon, stuck⟩ := (halted_of_expandDocument h).exists_not_followable
      exact absurd (followable path ref upon) stuck
  · have free := expandDocument_refFree ok
    exact ⟨free, free.expandWith_eq _⟩
  · exact (halted_of_expandDocument h).exists_cycle

theorem expand_ends_circular :
    Registry.circular.expand (reference "A") = .error (.refCycle ["A", "B", "A"]) ∧
      ∃ before key between, ["A", "B", "A"] = (key :: between ++ [key]).map refName ∧
        ComesUpon Registry.circular.documents (reference "A") (before ++ key :: between)
          (.text key) ∧
        (before ++ key :: between).Nodup ∧
          (key :: between ++ [key]).IsChain (Follows Registry.circular.documents) := by
  have told : Registry.circular.expand (reference "A") = .error (.refCycle ["A", "B", "A"]) := by
    cbv
  obtain ⟨-, -, -, -, genuine⟩ := expand_ends Registry.circular (reference "A")
  exact ⟨told, genuine _ told⟩

end LedgerFlow.Schema
