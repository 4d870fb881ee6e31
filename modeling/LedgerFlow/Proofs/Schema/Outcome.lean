import LedgerFlow.Proofs.Schema.Marker
import LedgerFlow.Schema.Expansion

/-!
Outcomes of following references, compared. Two expansions of a document come out the same if they
agree on the references in it, and a value in the place of a marker comes out as the marker would
have.
-/
namespace LedgerFlow.Schema
open Json (Place)

/-- The same value or the same error; or both fail for a reference that is no text, perhaps another
one. -/
inductive SameOutcome {α : Type} : Except Error α → Except Error α → Prop
  | refl (x : Except Error α) : SameOutcome x x
  | notText (v w : Json) : SameOutcome (.error (.refNotText v)) (.error (.refNotText w))

namespace SameOutcome
variable {α β : Type}

theorem symm {x y : Except Error α} (h : SameOutcome x y) : SameOutcome y x := by
  cases h with
  | refl => exact .refl _
  | notText v w => exact .notText w v

theorem trans {x y z : Except Error α} (h : SameOutcome x y)
    (h' : SameOutcome y z) : SameOutcome x z := by
  cases h with
  | refl => exact h'
  | notText v w =>
    cases h' with
    | refl => exact .notText v w
    | notText _ u => exact .notText v u

theorem bind {x y : Except Error α} {f g : α → Except Error β} (h : SameOutcome x y)
    (hfg : ∀ a, SameOutcome (f a) (g a)) : SameOutcome (x >>= f) (y >>= g) := by
  cases h with
  | refl =>
    cases x with
    | error e => exact .refl _
    | ok a => exact hfg a
  | notText v w => exact .notText v w

theorem map (f : α → β) {x y : Except Error α} (h : SameOutcome x y) :
    SameOutcome (x.map f) (y.map f) := by
  cases h with
  | refl => exact .refl _
  | notText v w => exact .notText v w

theorem eq_of_ok {x : Except Error α} {a : α} (h : SameOutcome x (.ok a)) : x = .ok a := by
  cases h; rfl

end SameOutcome

/-- Two ways to follow references that come out the same for these keys, and for whatever is no
text. -/
structure AgreeOn (f g : Json → Except Error Json) (keys : List String) : Prop where
  texts : ∀ key ∈ keys, SameOutcome (f (.text key)) (g (.text key))
  others : ∀ v w : Json, v.text? = none → w.text? = none → SameOutcome (f v) (g w)

theorem AgreeOn.mono {f g : Json → Except Error Json} {keys fewer : List String}
    (h : AgreeOn f g keys) (sub : ∀ key ∈ fewer, key ∈ keys) : AgreeOn f g fewer :=
  ⟨fun key hkey => h.texts key (sub key hkey), h.others⟩

section
variable {f g : Json → Except Error Json}

theorem expandItems_congr {items others : List Json}
    (h : List.Forall₂ (fun v w => SameOutcome (expandWith f v) (expandWith g w)) items others) :
    SameOutcome (expandItems f items) (expandItems g others) := by
  induction h with
  | nil => exact .refl _
  | cons head _ ih =>
    rw [expandItems, expandItems]
    exact head.bind fun v => ih.bind fun rest => .refl _

theorem expandFields_congr {fields others : List (String × Json)}
    (h : List.Forall₂ (fun a b => a.1 = b.1 ∧ SameOutcome (expandWith f a.2) (expandWith g b.2))
      fields others) :
    SameOutcome (expandFields f fields) (expandFields g others) := by
  induction h with
  | nil => exact .refl _
  | @cons a b _ _ head _ ih =>
    obtain ⟨name, v⟩ := a
    obtain ⟨_, w⟩ := b
    obtain ⟨rfl, head⟩ := head
    rw [expandFields, expandFields]
    exact head.bind fun v => ih.bind fun rest => .refl _

theorem expandWith_marker {v ref : Json}
    (h : v.get? refKey = some ref) : expandWith f v = f ref := by
  cases v with
  | object fields =>
    rw [Json.get?, Json.fieldsOf] at h
    rw [expandWith, h]
  | _ => simp [Json.get?, Json.fieldsOf] at h

theorem expandWith_plain_object {fields : List (String × Json)}
    (h : isMarker (.object fields) = false) :
    expandWith f (.object fields) = (expandFields f fields).map .object := by
  have hnone : Table.get? fields refKey = none := by
    simpa [isMarker, Json.get?, Json.fieldsOf] using h
  rw [expandWith, hnone]

theorem AgreeOn.of_child {v child : Json} (h : AgreeOn f g (collectRefs v))
    (plain : isMarker v = false) (hc : child ∈ v.children) : AgreeOn f g (collectRefs child) :=
  h.mono fun _ hkey => mem_collectRefs_of_child plain hc hkey

theorem AgreeOn.marker {v ref : Json} (h : AgreeOn f g (collectRefs v))
    (href : v.get? refKey = some ref) : SameOutcome (f ref) (g ref) := by
  cases ref with
  | text key => exact h.texts key (mem_collectRefs_of_get? href)
  | _ => exact h.others _ _ rfl rfl

theorem expandWith_congr {v : Json} (h : AgreeOn f g (collectRefs v)) :
    SameOutcome (expandWith f v) (expandWith g v) := by
  induction v using Json.induct with
  | array items ih =>
    rw [expandWith, expandWith]
    refine (expandItems_congr (List.forall₂_same.mpr fun v hv => ?_)).map _
    exact ih v hv (h.of_child rfl hv)
  | object fields ih =>
    cases hm : isMarker (.object fields) with
    | true =>
      obtain ⟨ref, href⟩ := Option.isSome_iff_exists.mp hm
      rw [expandWith_marker href, expandWith_marker href]
      exact h.marker href
    | false =>
      rw [expandWith_plain_object hm, expandWith_plain_object hm]
      refine (expandFields_congr (List.forall₂_same.mpr fun field hfield => ⟨rfl, ?_⟩)).map _
      exact ih field hfield (h.of_child hm (List.mem_map_of_mem hfield))
  | _ => exact .refl _

theorem expandWith_setChild {v child new : Json} {i : Nat} (h : v.children[i]? = some child)
    (plain : isMarker v = false) (agree : AgreeOn f g (collectRefs v))
    (inner : SameOutcome (expandWith f new) (expandWith g child)) :
    SameOutcome (expandWith f (v.setChild i new)) (expandWith g v) := by
  have plain' := (isMarker_setChild h new).trans plain
  have others : ∀ c ∈ v.children, SameOutcome (expandWith f c) (expandWith g c) :=
    fun c hc => expandWith_congr (agree.of_child plain hc)
  cases Json.split_of_children h with
  | array before after whole put =>
    subst whole
    rw [put, expandWith, expandWith]
    refine (expandItems_congr (List.rel_append ?_ (.cons inner ?_))).map _
    · exact List.forall₂_same.mpr fun v hv => others v (by simp [Json.children, hv])
    · exact List.forall₂_same.mpr fun v hv => others v (by simp [Json.children, hv])
  | object before name after whole put =>
    subst whole
    rw [put] at plain' ⊢
    rw [expandWith_plain_object plain', expandWith_plain_object plain]
    have same : ∀ field ∈ before ++ (name, child) :: after,
        SameOutcome (expandWith f field.2) (expandWith g field.2) :=
      fun field hfield => others field.2 (List.mem_map_of_mem hfield)
    refine (expandFields_congr (List.rel_append ?_ (.cons ?_ ?_))).map _
    · exact List.forall₂_same.mpr fun field hfield => ⟨rfl, same field (by simp [hfield])⟩
    · exact ⟨rfl, inner⟩
    · exact List.forall₂_same.mpr fun field hfield => ⟨rfl, same field (by simp [hfield])⟩

namespace MarkerAt
variable {v ref new : Json} {place : Place}

private theorem expandWith_putAt_plain (h : MarkerAt v place ref) (plain : isMarker v = false)
    (agree : AgreeOn f g (collectRefs v))
    (inner : (∀ name, ref = .text name → name ∈ collectRefs v) →
      SameOutcome (expandWith f new) (g ref)) :
    SameOutcome (expandWith f (v.putAt new place)) (expandWith g v) := by
  induction h with
  | @child v m ref i hc href =>
    rw [Json.putAt_cons_of_children hc, Json.putAt_nil]
    refine expandWith_setChild hc plain agree ?_
    rw [expandWith_marker href]
    refine inner fun name e => ?_
    exact mem_collectRefs_of_child plain (List.mem_of_getElem? hc)
      (mem_collectRefs_of_get? (e ▸ href))
  | @deeper v c ref i place hc plain' below ih =>
    have hmem : c ∈ v.children := List.mem_of_getElem? hc
    rw [Json.putAt_cons_of_children hc]
    refine expandWith_setChild hc plain agree
      (ih plain' (agree.of_child plain hmem) fun hname => ?_)
    exact inner fun name e => mem_collectRefs_of_child plain hmem (hname name e)

theorem get?_putAt (h : MarkerAt v place ref) (keeps : KeepsTop v new) {top : Json}
    (htop : v.get? refKey = some top) :
    (v.putAt new place).get? refKey = some top ∨
      ∃ other, (v.putAt new place).get? refKey = some other ∧ top.text? = none ∧
        other.text? = none := by
  cases h with
  | @child _ m _ i hc href =>
    rw [Json.putAt_cons_of_children hc, Json.putAt_nil]
    rcases get?_setChild hc new with same | ⟨hold, hnew⟩
    · exact .inl (same.trans htop)
    · obtain rfl : m = top := Option.some.inj (hold.symm.trans htop)
      have bare := text?_eq_none_of_get? href
      exact .inr ⟨new, hnew, bare, keeps.resolve_right fun htext => htext m hold bare⟩
  | @deeper _ c _ i rest hc plain below =>
    rw [Json.putAt_cons_of_children hc]
    rcases get?_setChild hc (c.putAt new rest) with same | ⟨hold, hnew⟩
    · exact .inl (same.trans htop)
    · obtain rfl : c = top := Option.some.inj (hold.symm.trans htop)
      exact .inr ⟨_, hnew, below.text?_eq_none, below.text?_putAt new⟩

/-- A document with a value in the place of a marker comes out as before, if the value comes out as
what the marker refers to. This need only be so where the reference counts. -/
theorem expandWith_putAt (h : MarkerAt v place ref) (keeps : KeepsTop v new)
    (agree : AgreeOn f g (collectRefs v))
    (inner : (∀ name, ref = .text name → name ∈ collectRefs v) →
      SameOutcome (expandWith f new) (g ref)) :
    SameOutcome (expandWith f (v.putAt new place)) (expandWith g v) := by
  cases hm : isMarker v with
  | false => exact h.expandWith_putAt_plain hm agree inner
  | true =>
    obtain ⟨top, htop⟩ := Option.isSome_iff_exists.mp hm
    rw [expandWith_marker htop]
    rcases h.get?_putAt keeps htop with same | ⟨other, hother, hold, hnew⟩
    · rw [expandWith_marker same]
      exact agree.marker htop
    · rw [expandWith_marker hother]
      exact agree.others other top hnew hold

end MarkerAt

end

end LedgerFlow.Schema
