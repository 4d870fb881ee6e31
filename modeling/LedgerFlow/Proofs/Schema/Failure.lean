import LedgerFlow.Proofs.Schema.Cycle
import LedgerFlow.Proofs.Schema.Descent
import LedgerFlow.Proofs.Schema.Resolved

/-!
When references fail. Replacing them in place fails for what the search collects, which goes through
all fields of every object. Following them in a document on its own fails for what it comes upon,
and that leaves out what stands beside a reference.
-/
namespace LedgerFlow.Schema
open Json (Throughout throughout_iff throughout_object throughout_text)
open Relation (ReflTransGen TransGen)

inductive RefFailure : Error → Prop
  | unresolved (ref : String) : RefFailure (.unresolvedRef ref)
  | unexpanded (passes : Int) (documents : List String) :
      RefFailure (.unexpandedRefs passes documents)
  | cycle (names : List String) : RefFailure (.refCycle names)

def FailsForRef {α : Type} (x : Except Error α) : Prop := ∃ e, x = .error e ∧ RefFailure e

/-- Following the references of a value comes upon this one: the value is a marker of it, or no
marker and a part of it leads there. -/
inductive Meets : Json → Json → Prop
  | marker {v ref : Json} (marks : v.get? refKey = some ref) : Meets v ref
  | child {v c ref : Json} (plain : isMarker v = false) (part : c ∈ v.children)
      (below : Meets c ref) : Meets v ref

/-- The document under the first key holds a reference to the second one, which the search
collects. -/
def Mentions (documents : Table Json) (key target : String) : Prop :=
  ∃ document, documents.get? key = some document ∧ target ∈ collectRefs document

/-- Following the references of the document under the first key comes upon one to the second. -/
def Follows (documents : Table Json) (key target : String) : Prop :=
  ∃ document, documents.get? key = some document ∧ Meets document (.text target)

/-- Some way along these references ends at a key without a document, or comes back to where it
started. -/
def Broken (documents : Table Json) (leads : String → String → Prop) : Prop :=
  (∃ key target, leads key target ∧ target ∉ documents.keys) ∨ ∃ key, TransGen leads key key

theorem Broken.mono {documents : Table Json} {leads more : String → String → Prop}
    (sub : ∀ key target, leads key target → more key target) (h : Broken documents leads) :
    Broken documents more := by
  rcases h with ⟨key, target, edge, missing⟩ | ⟨key, cycle⟩
  · exact .inl ⟨key, target, sub key target edge, missing⟩
  · exact .inr ⟨key, TransGen.mono sub _ _ cycle⟩

theorem Meets.mem_collectRefs {v : Json} {key : String}
    (h : Meets v (.text key)) : key ∈ collectRefs v := by
  generalize href : Json.text key = ref at h
  induction h with
  | marker marks => exact mem_collectRefs_of_get? (href ▸ marks)
  | child plain part _ ih => exact mem_collectRefs_of_child plain part (ih href)

theorem Meets.exists_text {v ref : Json} (h : Meets v ref)
    (texts : TextRefs v) : ∃ key, ref = .text key := by
  induction h with
  | marker marks => exact texts.exists_text marks
  | child _ part _ ih => exact ih (texts.of_child part)

theorem Follows.mentions {documents : Table Json} {key target : String}
    (h : Follows documents key target) : Mentions documents key target := by
  obtain ⟨document, found, meets⟩ := h
  exact ⟨document, found, meets.mem_collectRefs⟩

section
variable {f : Json → Except Error Json}

theorem expandItems_error {items : List Json} {e : Error} (h : expandItems f items = .error e) :
    ∃ v ∈ items, expandWith f v = .error e := by
  induction items with
  | nil => cases h
  | cons v rest ih =>
    rcases bind_eq_error_iff.mp h with head | ⟨_, -, h⟩
    · exact ⟨v, List.mem_cons_self, head⟩
    rcases bind_eq_error_iff.mp h with tail | ⟨_, -, h⟩
    · obtain ⟨v, hv, hexpand⟩ := ih tail
      exact ⟨v, List.mem_cons_of_mem _ hv, hexpand⟩
    · cases h

theorem expandFields_error {fields : List (String × Json)} {e : Error}
    (h : expandFields f fields = .error e) : ∃ field ∈ fields, expandWith f field.2 = .error e := by
  induction fields with
  | nil => cases h
  | cons field rest ih =>
    rcases bind_eq_error_iff.mp h with head | ⟨_, -, h⟩
    · exact ⟨field, List.mem_cons_self, head⟩
    rcases bind_eq_error_iff.mp h with tail | ⟨_, -, h⟩
    · obtain ⟨field, hfield, hexpand⟩ := ih tail
      exact ⟨field, List.mem_cons_of_mem _ hfield, hexpand⟩
    · cases h

/-- An expansion fails for one of the references that it meets. -/
theorem exists_meets_of_expandWith_error {v : Json} {e : Error} (h : expandWith f v = .error e) :
    ∃ ref, Meets v ref ∧ f ref = .error e := by
  induction v using Json.induct with
  | array items ih =>
    rw [expandWith] at h
    obtain ⟨v, hv, hexpand⟩ := expandItems_error (map_eq_error_iff.mp h)
    obtain ⟨ref, meets, href⟩ := ih v hv hexpand
    exact ⟨ref, .child rfl hv meets, href⟩
  | object fields ih =>
    cases hm : isMarker (.object fields) with
    | true =>
      obtain ⟨ref, marks⟩ := Option.isSome_iff_exists.mp hm
      rw [expandWith_marker marks] at h
      exact ⟨ref, .marker marks, h⟩
    | false =>
      rw [expandWith_plain_object hm] at h
      obtain ⟨field, hfield, hexpand⟩ := expandFields_error (map_eq_error_iff.mp h)
      obtain ⟨ref, meets, href⟩ := ih field hfield hexpand
      exact ⟨ref, .child hm (List.mem_map_of_mem hfield) meets, href⟩
  | _ => cases h

theorem Meets.follow_ok {v ref w : Json} (h : Meets v ref) (ok : expandWith f v = .ok w) :
    ∃ w, f ref = .ok w := by
  induction h generalizing w with
  | marker marks =>
    rw [expandWith_marker marks] at ok
    exact ⟨w, ok⟩
  | @child v c ref plain part below ih =>
    cases v with
    | array items =>
      rw [expandWith] at ok
      obtain ⟨out, hout, -⟩ := map_eq_ok_iff.mp ok
      obtain ⟨w, -, hexpand⟩ := exists_mem_of_forall₂ (expandItems_ok hout) part
      exact ih hexpand
    | object fields =>
      rw [expandWith_plain_object plain] at ok
      obtain ⟨out, hout, -⟩ := map_eq_ok_iff.mp ok
      obtain ⟨field, hfield, rfl⟩ := List.mem_map.mp part
      obtain ⟨w, -, -, hexpand⟩ := exists_mem_of_forall₂ (expandFields_ok hout) hfield
      exact ih hexpand
    | _ => simp [Json.children] at part

end

section
variable {documents : Table Json}

theorem follow_failsForRef (texts : ∀ entry ∈ documents, TextRefs entry.2) {left : Nat}
    {path : List String} {key : String} {e : Error}
    (h : follow documents left path (.text key) = .error e) : RefFailure e := by
  induction left generalizing path key with
  | zero =>
    rcases bind_eq_error_iff.mp h with missing | ⟨_, -, h⟩
    · cases found : documents.get? key with
      | none =>
        rw [resolve, found] at missing
        exact Except.error.inj missing ▸ .unresolved key
      | some document =>
        rw [resolve_text_of_get? found] at missing
        cases missing
    · exact Except.error.inj h ▸ .cycle _
  | succ left ih =>
    by_cases known : key ∈ documents.keys
    · obtain ⟨document, found⟩ := Table.exists_get?_of_mem_keys known
      by_cases again : key ∈ path
      · rw [follow_again found again] at h
        exact Except.error.inj h ▸ .cycle _
      · rw [follow_known found again] at h
        obtain ⟨ref, meets, h⟩ := exists_meets_of_expandWith_error h
        obtain ⟨target, rfl⟩ := meets.exists_text (texts _ (Table.mem_of_get? found))
        exact ih h
    · rw [follow_unknown known] at h
      exact Except.error.inj h ▸ .unresolved key

theorem expandDocument_failsForRef_iff (texts : ∀ entry ∈ documents, TextRefs entry.2)
    {key : String} {document : Json} (found : documents.get? key = some document) :
    FailsForRef (expandDocument documents document) ↔
      ∀ w, expandDocument documents document ≠ .ok w := by
  constructor
  · rintro ⟨e, h, -⟩ w ok
    rw [ok] at h
    cases h
  · intro none_ok
    cases h : expandDocument documents document with
    | ok w => exact absurd h (none_ok w)
    | error e =>
      obtain ⟨ref, meets, href⟩ := exists_meets_of_expandWith_error h
      obtain ⟨target, rfl⟩ := meets.exists_text (texts _ (Table.mem_of_get? found))
      exact ⟨e, rfl, follow_failsForRef texts href⟩

/-- A way of references under way to the key: it has taken different keys that all lead to this one,
and may get as much longer as there are keys left. -/
structure Following (documents : Table Json) (left : Nat) (path : List String)
    (key : String) : Prop where
  room : documents.length ≤ left + path.length
  distinct : path.Nodup
  onKeys : ∀ k ∈ path, k ∈ documents.keys
  known : key ∈ documents.keys
  reached : ∀ k ∈ path, TransGen (Follows documents) k key

namespace Following
variable {left : Nat} {path : List String} {key target : String}

theorem start (known : key ∈ documents.keys) : Following documents documents.length [] key :=
  ⟨Nat.le_refl _, List.nodup_nil, nofun, known, nofun⟩

theorem off_path (h : Following documents left path key)
    (sound : ¬ Broken documents (Follows documents)) : key ∉ path :=
  fun again => sound (.inr ⟨key, h.reached key again⟩)

theorem room_pos (h : Following documents left path key) (off : key ∉ path) : 0 < left := by
  have distinct : (key :: path).Nodup := List.nodup_cons.mpr ⟨off, h.distinct⟩
  have onKeys : key :: path ⊆ documents.keys := List.cons_subset.mpr ⟨h.known, h.onKeys⟩
  have longer := (List.subperm_of_subset distinct onKeys).length_le
  have room := h.room
  rw [Table.length_keys, List.length_cons] at longer
  omega

theorem next (h : Following documents (left + 1) path key) (off : key ∉ path)
    (edge : Follows documents key target) (known : target ∈ documents.keys) :
    Following documents left (path ++ [key]) target where
  room := by
    have room := h.room
    rw [List.length_append, List.length_singleton]
    omega
  distinct := List.nodup_append'.mpr ⟨h.distinct, List.nodup_singleton _, by simpa using off⟩
  onKeys := by simpa [or_imp, forall_and] using ⟨h.onKeys, h.known⟩
  known := known
  reached k hk := by
    rcases List.mem_append.mp hk with hk | hk
    · exact (h.reached k hk).tail edge
    · exact List.mem_singleton.mp hk ▸ .single edge

theorem follow_ok (texts : ∀ entry ∈ documents, TextRefs entry.2)
    (sound : ¬ Broken documents (Follows documents)) (h : Following documents left path key) :
    ∃ w, follow documents left path (.text key) = .ok w := by
  induction left generalizing path key with
  | zero => exact absurd (h.room_pos (h.off_path sound)) (Nat.lt_irrefl 0)
  | succ left ih =>
    have off := h.off_path sound
    obtain ⟨document, found⟩ := Table.exists_get?_of_mem_keys h.known
    rw [follow_known found off]
    cases hexpand : expandWith (follow documents left (path ++ [key])) document with
    | ok w => exact ⟨w, rfl⟩
    | error e =>
      exfalso
      obtain ⟨ref, meets, href⟩ := exists_meets_of_expandWith_error hexpand
      obtain ⟨target, rfl⟩ := meets.exists_text (texts _ (Table.mem_of_get? found))
      have edge : Follows documents key target := ⟨document, found, meets⟩
      have known : target ∈ documents.keys := by
        by_contra missing
        exact sound (.inl ⟨key, target, edge, missing⟩)
      obtain ⟨w, hw⟩ := ih (h.next off edge known)
      rw [hw] at href
      cases href

end Following

theorem expandDocument_ok_of_not_broken (texts : ∀ entry ∈ documents, TextRefs entry.2)
    (sound : ¬ Broken documents (Follows documents)) {key : String} {document : Json}
    (found : documents.get? key = some document) :
    ∃ w, expandDocument documents document = .ok w := by
  cases hexpand : expandDocument documents document with
  | ok w => exact ⟨w, rfl⟩
  | error e =>
    exfalso
    obtain ⟨ref, meets, href⟩ := exists_meets_of_expandWith_error hexpand
    obtain ⟨target, rfl⟩ := meets.exists_text (texts _ (Table.mem_of_get? found))
    have known : target ∈ documents.keys := by
      by_contra missing
      exact sound (.inl ⟨key, target, ⟨document, found, meets⟩, missing⟩)
    obtain ⟨w, hw⟩ := (Following.start known).follow_ok texts sound
    rw [hw] at href
    cases href

def FollowedWithin (documents : Table Json) (left : Nat) (key : String) : Prop :=
  ∃ path w, follow documents left path (.text key) = .ok w

theorem FollowedWithin.mem_keys {left : Nat} {key : String}
    (h : FollowedWithin documents left key) :
    key ∈ documents.keys := by
  obtain ⟨path, w, ok⟩ := h
  by_contra missing
  rw [follow_unknown missing] at ok
  cases ok

theorem FollowedWithin.step {left : Nat} {key target : String}
    (h : FollowedWithin documents left key) (edge : Follows documents key target) :
    ∃ less < left, FollowedWithin documents less target := by
  obtain ⟨path, w, ok⟩ := h
  obtain ⟨document, found, meets⟩ := edge
  cases left with
  | zero => exact absurd ok follow_zero_ne_ok
  | succ left =>
    by_cases again : key ∈ path
    · rw [follow_again found again] at ok
      cases ok
    · rw [follow_known found again] at ok
      obtain ⟨w, ok⟩ := meets.follow_ok ok
      exact ⟨left, Nat.lt_succ_self left, _, w, ok⟩

theorem FollowedWithin.not_transGen {left : Nat} {key : String}
    (h : FollowedWithin documents left key) : ¬ TransGen (Follows documents) key key := by
  have descend {left : Nat} {key target : String} (h : FollowedWithin documents left key)
      (leads : TransGen (Follows documents) key target) :
        ∃ less < left, FollowedWithin documents less target := by
    induction leads with
    | single edge => exact h.step edge
    | tail _ edge ih =>
      obtain ⟨between, hbetween, within⟩ := ih
      obtain ⟨less, hless, within⟩ := within.step edge
      exact ⟨less, Nat.lt_trans hless hbetween, within⟩
  induction left using Nat.strong_induction_on with
  | _ left ih =>
    intro cycle
    obtain ⟨less, hless, within⟩ := descend h cycle
    exact ih less hless within cycle

theorem not_broken_of_expandDocument_ok
    (ok : ∀ key document, documents.get? key = some document → ∃ w,
      expandDocument documents document = .ok w) :
    ¬ Broken documents (Follows documents) := by
  have followed {key target : String} (edge : Follows documents key target) :
      FollowedWithin documents documents.length target := by
    obtain ⟨document, found, meets⟩ := edge
    obtain ⟨w, hw⟩ := ok key document found
    exact ⟨[], meets.follow_ok hw⟩
  rintro (⟨key, target, edge, missing⟩ | ⟨key, cycle⟩)
  · exact missing (followed edge).mem_keys
  · obtain ⟨_, _, edge⟩ := TransGen.tail'_iff.mp cycle
    exact (followed edge).not_transGen cycle

theorem exists_expandDocument_failsForRef_iff (texts : ∀ entry ∈ documents, TextRefs entry.2) :
    (∃ key document, documents.get? key = some document ∧
      FailsForRef (expandDocument documents document)) ↔ Broken documents (Follows documents) := by
  constructor
  · rintro ⟨key, document, found, fails⟩
    by_contra sound
    obtain ⟨w, ok⟩ := expandDocument_ok_of_not_broken texts sound found
    exact (expandDocument_failsForRef_iff texts found).mp fails w ok
  · intro broken
    by_contra none_fails
    refine not_broken_of_expandDocument_ok (fun key document found => ?_) broken
    by_contra none_ok
    refine none_fails ⟨key, document, found,
      (expandDocument_failsForRef_iff texts found).mpr fun w ok => ?_⟩
    exact none_ok ⟨w, ok⟩

theorem refers_iff_mentions {key target : String} :
    (dependencies documents).Refers key target ↔ Mentions documents key target := by
  unfold Dependencies.Refers Mentions
  cases found : documents.get? key with
  | none => simp [Dependencies.of, dependencies, Table.get?_mapValues, found]
  | some document => simp [dependencies_of found]

theorem checkCycles_refFailure {e : Error}
    (h : checkCycles documents = .error e) : RefFailure e := by
  rcases checkCycles_error h with ⟨target, _, _, rfl⟩ | ⟨cycle, _, rfl⟩
  · exact .unresolved target
  · exact .cycle _

theorem checkCycles_ok_iff (distinct : documents.keys.Nodup) :
    checkCycles documents = .ok () ↔ ¬ Broken documents (Mentions documents) := by
  constructor
  · intro ok
    obtain ⟨rank, ranked⟩ := exists_ranked_of_checkCycles ok
    have lower {key target : String} (edge : Mentions documents key target) :
        rank target < rank key := by
      obtain ⟨document, found, hmem⟩ := edge
      exact ranked.lower found hmem
    have lowest {key target : String} (leads : TransGen (Mentions documents) key target) :
        rank target < rank key := by
      induction leads with
      | single edge => exact lower edge
      | tail _ edge ih => exact (lower edge).trans ih
    rintro (⟨key, target, ⟨document, found, hmem⟩, missing⟩ | ⟨key, cycle⟩)
    · exact missing (ranked.mem_keys found hmem)
    · exact Nat.lt_irrefl _ (lowest cycle)
  · intro sound
    cases h : checkCycles documents with
    | ok => rfl
    | error e =>
      exfalso
      rcases checkCycles_error h with ⟨target, collected, missing, -⟩ | ⟨cycle, isCycle, -⟩
      · obtain ⟨_, hmem, htarget⟩ := List.mem_flatMap.mp collected
        obtain ⟨entry, hentry, rfl⟩ := List.mem_map.mp hmem
        exact sound (.inl ⟨entry.1, target,
          ⟨entry.2, Table.get?_of_mem distinct hentry, htarget⟩, missing⟩)
      · obtain ⟨key, leads⟩ := isCycle.exists_transGen
        exact sound (.inr ⟨key, TransGen.mono (fun _ _ => refers_iff_mentions.mp) _ _ leads⟩)

theorem Registry.expandAll_ok_of_checkCycles {r : Registry}
    (texts : ∀ entry ∈ r.documents, TextRefs entry.2) (passes : r.documents.length ≤ r.maxPasses)
    (cycles : checkCycles r.documents = .ok ()) : ∃ n, r.expandAll.2.result = .ok n := by
  obtain ⟨rank, ranked⟩ := exists_ranked_of_checkCycles cycles
  rw [Registry.expandAll_of_checkCycles cycles]
  cases hleft : r.maxPasses.toNat with
  | zero =>
    have empty : r.documents = [] := List.eq_nil_of_length_eq_zero (by omega)
    rw [empty]
    exact ⟨0, rfl⟩
  | succ left =>
    refine replacePasses_spaced (ranked.spaced texts) Nat.one_pos Nat.one_pos fun key known => ?_
    have bound := ranked.bounded known
    omega

/-- Replacing references in place fails just when a way along the collected references breaks. -/
theorem Registry.expandAll_failsForRef_iff {r : Registry} (distinct : r.documents.keys.Nodup)
    (texts : ∀ entry ∈ r.documents, TextRefs entry.2) (passes : r.documents.length ≤ r.maxPasses) :
    FailsForRef r.expandAll.2.result ↔ Broken r.documents (Mentions r.documents) := by
  rw [← not_iff_not, ← checkCycles_ok_iff distinct]
  constructor
  · intro noFailure
    cases h : checkCycles r.documents with
    | ok => rfl
    | error e =>
      refine absurd ⟨e, ?_, checkCycles_refFailure h⟩ noFailure
      rw [Registry.expandAll, h]
      rfl
  · rintro cycles ⟨e, h, -⟩
    obtain ⟨n, ok⟩ := Registry.expandAll_ok_of_checkCycles texts passes cycles
    rw [ok] at h
    cases h

end

/-- Beside no reference stands another one. -/
def AloneRefs (v : Json) : Prop :=
  v.Throughout fun part => isMarker part = true → ∀ field ∈ part.fieldsOf, field.1 ≠ refKey →
    collectRefs field.2 = []

theorem AloneRefs.meets {v : Json} (alone : AloneRefs v) {key : String} (h : key ∈ collectRefs v) :
    Meets v (.text key) := by
  induction v using Json.induct with
  | array items ih =>
    obtain ⟨v, hv, hkey⟩ := mem_collectRefs_array.mp h
    exact .child rfl hv (ih v hv ((throughout_iff.mp alone).2 v hv) hkey)
  | object fields ih =>
    rcases mem_collectRefs_object.mp h with top | ⟨name, v, hv, hname, hkey⟩
    · exact .marker top
    · cases hm : isMarker (.object fields) with
      | true =>
        have empty := (throughout_iff.mp alone).1 hm (name, v) hv hname
        rw [empty] at hkey
        cases hkey
      | false =>
        have part : v ∈ (Json.object fields).children := List.mem_map_of_mem hv
        exact .child hm part (ih (name, v) hv ((throughout_iff.mp alone).2 v part) hkey)
  | _ => cases h

/-- Where all references are texts and there are as many passes as documents, replacing them in
place fails for a reference just when one of those that the search collects breaks, and following
those of some document fails just when one of those that this comes upon breaks. So the first fails
whenever the second does, and both fail alike where no reference stands beside another one. -/
theorem expandAll_failsForRef {r : Registry} (distinct : r.documents.keys.Nodup)
    (texts : ∀ entry ∈ r.documents, TextRefs entry.2) (passes : r.documents.length ≤ r.maxPasses) :
    (FailsForRef r.expandAll.2.result ↔ Broken r.documents (Mentions r.documents)) ∧
    ((∃ key document, r.documents.get? key = some document ∧ FailsForRef (r.expand document)) ↔
      Broken r.documents (Follows r.documents)) ∧
    ((∃ key document, r.documents.get? key = some document ∧ FailsForRef (r.expand document)) →
      FailsForRef r.expandAll.2.result) ∧
    ((∀ entry ∈ r.documents, AloneRefs entry.2) →
      (FailsForRef r.expandAll.2.result ↔
        ∃ key document, r.documents.get? key = some document ∧
          FailsForRef (r.expand document))) := by
  have replacing := Registry.expandAll_failsForRef_iff distinct texts passes
  have following : (∃ key document, r.documents.get? key = some document ∧
    FailsForRef (r.expand document)) ↔
      Broken r.documents (Follows r.documents) := exists_expandDocument_failsForRef_iff texts
  refine ⟨replacing, following, ?_, ?_⟩
  · intro fails
    exact replacing.mpr ((following.mp fails).mono fun _ _ => Follows.mentions)
  · intro alone
    rw [replacing, following]
    refine ⟨Broken.mono ?_, Broken.mono fun _ _ => Follows.mentions⟩
    rintro key target ⟨document, found, hmem⟩
    exact ⟨document, found, (alone _ (Table.mem_of_get? found)).meets hmem⟩

def Registry.beside : Registry where
  documents :=
    [("A", ofType "string"),
     ("B", .object [("x", .object [("$ref", .text "A"), ("not", .object [("$ref", .text "C")])])])]

/-- The two ways to follow references do not agree: one of them sees what stands beside a
reference. -/
theorem expandAll_failsForRef_beside :
    Registry.beside.documents.keys.Nodup ∧ (∀ entry ∈ Registry.beside.documents, TextRefs entry.2) ∧
      Registry.beside.documents.length ≤ Registry.beside.maxPasses ∧
      FailsForRef Registry.beside.expandAll.2.result ∧
      ¬ ∃ key document, Registry.beside.documents.get? key = some document ∧
        FailsForRef (Registry.beside.expand document) := by
  refine ⟨by decide, ?_, by decide, ⟨.unresolvedRef "C", rfl, .unresolved "C"⟩, ?_⟩
  · simp [Registry.beside, ofType, TextRefs, throughout_object, throughout_text, refKey,
      Json.fieldsOf, Json.text?]
  · rintro ⟨key, document, found, e, fails, -⟩
    have hmem := Table.mem_of_get? found
    simp only [Registry.beside, List.mem_cons, Prod.mk.injEq, List.not_mem_nil, or_false] at hmem
    rcases hmem with ⟨-, rfl⟩ | ⟨-, rfl⟩ <;> cases fails

def Registry.circular : Registry where
  documents :=
    [("A", .object [("b", .object [("$ref", .text "B")])]),
     ("B", .object [("a", .object [("$ref", .text "A")])])]

theorem expandAll_failsForRef_circular :
    Registry.circular.documents.keys.Nodup ∧
      (∀ entry ∈ Registry.circular.documents, TextRefs entry.2) ∧
      Registry.circular.documents.length ≤ Registry.circular.maxPasses ∧
      FailsForRef Registry.circular.expandAll.2.result ∧
      ∃ key document, Registry.circular.documents.get? key = some document ∧
        FailsForRef (Registry.circular.expand document) := by
  have distinct : Registry.circular.documents.keys.Nodup := by decide
  have texts : ∀ entry ∈ Registry.circular.documents, TextRefs entry.2 := by
    simp [Registry.circular, TextRefs, throughout_object, throughout_text, refKey, Json.fieldsOf,
      Json.text?]
  have passes : Registry.circular.documents.length ≤ Registry.circular.maxPasses := by decide
  have alone : ∀ entry ∈ Registry.circular.documents, AloneRefs entry.2 := by
    simp [Registry.circular, AloneRefs, throughout_object, throughout_text, refKey, Json.fieldsOf,
      isMarker, Json.get?, Table.get?]
  obtain ⟨collected, -, -, alike⟩ := expandAll_failsForRef distinct texts passes
  have there : Mentions Registry.circular.documents "A" "B" := ⟨_, rfl, List.mem_singleton_self "B"⟩
  have back : Mentions Registry.circular.documents "B" "A" := ⟨_, rfl, List.mem_singleton_self "A"⟩
  have fails := collected.mpr (.inr ⟨"A", .tail (.single there) back⟩)
  exact ⟨distinct, texts, passes, fails, (alike alone).mp fails⟩

end LedgerFlow.Schema
