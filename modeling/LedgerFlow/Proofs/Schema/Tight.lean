import LedgerFlow.Proofs.Schema.Doubling

/-!
How little a pass can do. Where a pass comes to a document before the documents below it, it puts
these there as they were, with markers that lead down once more by as much and no further. So there
is something left after passes that do not get above all ranks by doubling.
-/
namespace LedgerFlow.Schema
open Json (Place)

namespace MarkerAt
variable {v ref target : Json} {place : Place}

theorem ne_nil (h : MarkerAt v place ref) : place ≠ [] := by
  cases h <;> exact List.cons_ne_nil _ _

theorem ne_append {inner : Place} {ref' : Json} (h : MarkerAt v place ref) (filled : inner ≠ []) :
    ¬ MarkerAt v (place ++ inner) ref' := by
  induction h with
  | @child v m ref i hc marks =>
    intro h'
    cases h' with
    | child => exact filled rfl
    | deeper hc' plain _ =>
      obtain rfl := Option.some.inj (hc.symm.trans hc')
      simp [isMarker, marks] at plain
  | @deeper v c ref i place hc plain below ih =>
    intro h'
    generalize hplace : i :: place ++ inner = whole at h'
    cases h' with
    | child =>
      have empty := (List.cons.inj hplace).2
      exact below.ne_nil (List.append_eq_nil_iff.mp empty).1
    | deeper hc' _ below' =>
      obtain ⟨rfl, rfl⟩ := List.cons.inj hplace
      obtain rfl := Option.some.inj (hc.symm.trans hc')
      exact ih below'

theorem putAt_inner {inner : Place} {ref' : Json} (h : MarkerAt v place ref)
    (plain : isMarker target = false) (h' : MarkerAt target inner ref') :
    MarkerAt (v.putAt target place) (place ++ inner) ref' := by
  induction h with
  | @child v m ref i hc marks =>
    rw [Json.putAt_cons_of_children hc, Json.putAt_nil]
    exact .deeper (Json.children_setChild_self hc target) plain h'
  | @deeper v c ref i place hc plain' below ih =>
    rw [Json.putAt_cons_of_children hc]
    exact .deeper (Json.children_setChild_self hc _) ((below.isMarker_putAt target).trans plain') ih

end MarkerAt

section
variable {documents after : Table Json} {key name : String} {document : Json} {places : List Place}
    {place : Place}

theorem replaceMarkers_cons_ok (found : documents.get? key = some document) {ref : Json}
    (marker : MarkerAt document place ref)
    (h : replaceMarkers key (place :: places) documents = (after, .ok ())) :
    ∃ name target, ref = .text name ∧ documents.get? name = some target ∧
      replaceMarkers key places (documents.insert key (document.putAt target place)) =
        (after, .ok ()) := by
  rw [replaceMarkers, replaceMarker_eq found marker] at h
  cases hresolve : resolve documents ref with
  | error e =>
    rw [hresolve] at h
    cases h
  | ok named =>
    obtain ⟨name, target⟩ := named
    obtain ⟨rfl, hget⟩ := resolve_eq_ok_iff.mp hresolve
    rw [hresolve] at h
    exact ⟨name, target, rfl, hget, h⟩

theorem replaceMarkers_keeps (found : documents.get? key = some document)
    (markers : ∀ place ∈ places, ∃ ref, MarkerAt document place ref) (distinct : places.Nodup)
    {ref : Json} (marker : MarkerAt document place ref) (apart : place ∉ places)
    (h : replaceMarkers key places documents = (after, .ok ())) :
    ∃ document, after.get? key = some document ∧ MarkerAt document place ref := by
  induction places generalizing document documents with
  | nil =>
    obtain ⟨rfl, -⟩ := Prod.mk.inj h
    exact ⟨document, found, marker⟩
  | cons other rest ih =>
    obtain ⟨ref', first⟩ := markers other List.mem_cons_self
    obtain ⟨fresh, distinct⟩ := List.nodup_cons.mp distinct
    have ne : place ≠ other := List.ne_of_not_mem_cons apart
    obtain ⟨_, target, rfl, -, h⟩ := replaceMarkers_cons_ok found first h
    refine ih (Table.get?_insert_self _ _ _) (fun later hlater => ?_) distinct
      (first.putAt_of_ne marker ne.symm target) (List.not_mem_of_not_mem_cons apart) h
    obtain ⟨ref, old⟩ := markers later (List.mem_cons_of_mem _ hlater)
    exact ⟨ref, first.putAt_of_ne old (fun e => fresh (e ▸ hlater)) target⟩

theorem replaceMarkers_brings (found : documents.get? key = some document)
    (markers : ∀ place ∈ places, ∃ ref, MarkerAt document place ref) (distinct : places.Nodup)
    (marker : MarkerAt document place (.text name)) (here : place ∈ places) {target ref : Json}
    {inner : Place} (ne : name ≠ key) (named : documents.get? name = some target)
    (plain : isMarker target = false) (inside : MarkerAt target inner ref)
    (h : replaceMarkers key places documents = (after, .ok ())) :
    ∃ document, after.get? key = some document ∧ MarkerAt document (place ++ inner) ref := by
  induction places generalizing document documents with
  | nil => exact absurd here List.not_mem_nil
  | cons other rest ih =>
    obtain ⟨ref', first⟩ := markers other List.mem_cons_self
    obtain ⟨fresh, rest_distinct⟩ := List.nodup_cons.mp distinct
    obtain ⟨name', target', rfl, named', h⟩ := replaceMarkers_cons_ok found first h
    have later (w : Json) : ∀ later ∈ rest, ∃ ref, MarkerAt (document.putAt w other) later ref := by
      intro later hlater
      obtain ⟨ref, old⟩ := markers later (List.mem_cons_of_mem _ hlater)
      exact ⟨ref, first.putAt_of_ne old (fun e => fresh (e ▸ hlater)) w⟩
    by_cases hplace : place = other
    · subst hplace
      obtain rfl := Json.text.inj (marker.unique first)
      obtain rfl := Option.some.inj (named.symm.trans named')
      refine replaceMarkers_keeps (Table.get?_insert_self _ _ _) (later target) rest_distinct
        (first.putAt_inner plain inside) (fun hmem => ?_) h
      obtain ⟨ref, old⟩ := markers _ (List.mem_cons_of_mem _ hmem)
      exact marker.ne_append inside.ne_nil old
    · have here : place ∈ rest := (List.mem_cons.mp here).resolve_left hplace
      refine ih (Table.get?_insert_self _ _ _) (later target') rest_distinct
        (first.putAt_of_ne marker (Ne.symm hplace) target') here ?_ h
      rw [Table.get?_insert_of_ne ne]
      exact named

end

/-- References lead down by the gap at least, and each document that stands as high as its gap has
one that leads down by just the gap. -/
structure Tight (documents : Table Json) (rank : String → Nat) (top : Nat)
    (gap : String → Nat) : Prop where
  spaced : Spaced documents rank top gap
  linked : ∀ key ∈ documents.keys, gap key ≤ rank key → ∃ document place name, documents.get? key =
    some document ∧
    MarkerAt document place (.text name) ∧ rank name + gap key = rank key
  plain : PlainTops documents

theorem plainTops_of_replaces {documents documents' : Table Json}
    (h : Relation.ReflTransGen Replaces documents documents')
    (plain : PlainTops documents) : PlainTops documents' := by
  induction h with
  | refl => exact plain
  | tail _ step ih => exact step.plainTops ih

namespace Tight
variable {documents : Table Json} {rank : String → Nat} {top least : Nat} {gap : String → Nat}

/-- Replacing the markers of a document before those of the documents below it doubles its gap. -/
theorem sweep (h : Tight documents rank top gap) {key : String} (known : key ∈ documents.keys)
    (pos : 0 < least) (deep : least ≤ top) (atLeast : ∀ other, least ≤ gap other)
    (own : gap key = least)
    (lower : ∀ name ∈ documents.keys, rank name < rank key → gap name = least) :
    ∃ after, replaceMarkers key (placesOf documents key) documents = (after, .ok ()) ∧
      after.keys = documents.keys ∧
        Tight after rank top (Function.update gap key (least + least)) := by
  obtain ⟨document, found⟩ := Table.exists_get?_of_mem_keys known
  obtain ⟨after, swept, keys, spaced⟩ :=
    (Sweeping.ofSpaced h.spaced found (least + least)).run (by omega)
    (fun other => by have := atLeast other; omega) (by omega)
  have sweeps := placesOf_swept documents key
  rw [placesOf_found found] at sweeps ⊢
  rw [swept] at sweeps
  refine ⟨after, swept, keys, spaced, fun other hother high => ?_,
    plainTops_of_replaces sweeps.run h.plain⟩
  rw [keys] at hother
  by_cases hkey : other = key
  · subst hkey
    rw [Function.update_self] at high ⊢
    obtain ⟨document', place, name, found', marker, drop⟩ := h.linked other known (by omega)
    obtain rfl := Option.some.inj (found.symm.trans found')
    obtain ⟨_, hname, href, -⟩ := h.spaced.below found marker
    obtain rfl := Json.text.inj href
    have below : gap name = least := lower name hname (by omega)
    obtain ⟨target, inner, name', named, inside, drop'⟩ := h.linked name hname (by omega)
    have ne : name ≠ other := by
      rintro rfl
      omega
    obtain ⟨document', found', marker'⟩ :=
      replaceMarkers_brings found (fun _ => mem_markerPlaces_iff.mp)
      (nodup_markerPlaces document) marker (mem_markerPlaces_iff.mpr ⟨_, marker⟩) ne named
        (h.plain name target named)
      inside swept
    exact ⟨document', place ++ inner, name', found', marker', by omega⟩
  · rw [Function.update_of_ne hkey] at high ⊢
    obtain ⟨document', place, name, found', marker, drop⟩ := h.linked other hother high
    exact ⟨document', place, name, (sweeps.others other hkey).trans found', marker, drop⟩

theorem pass (h : Tight documents rank top gap) (pos : 0 < least) (deep : least ≤ top)
    (atLeast : ∀ other, least ≤ gap other) {keys : List String}
    (known : ∀ key ∈ keys, key ∈ documents.keys)
    (falling : keys.Pairwise fun key later => rank later < rank key)
    (own : ∀ key ∈ keys, gap key = least)
    (lower : ∀ key ∈ keys, ∀ name ∈ documents.keys, rank name < rank key → name ∈ keys) :
    ∃ after n, replacePass keys documents = (after, .ok n) ∧ after.keys = documents.keys ∧
      Tight after rank top fun key => if key ∈ keys then least + least else gap key := by
  induction keys generalizing documents gap with
  | nil => exact ⟨documents, 0, rfl, rfl, by simpa using h⟩
  | cons key rest ih =>
    obtain ⟨below, falling⟩ := List.pairwise_cons.mp falling
    obtain ⟨hkey, later⟩ := List.forall_mem_cons.mp known
    obtain ⟨middle, swept, keys, tight⟩ :=
      h.sweep hkey pos deep atLeast (own key List.mem_cons_self)
      fun name hname low => own name (lower key List.mem_cons_self name hname low)
    have ne {other : String} (hother : other ∈ rest) : other ≠ key := by
      rintro rfl
      exact Nat.lt_irrefl _ (below other hother)
    have atLeast' (other : String) : least ≤ Function.update gap key (least + least) other := by
      by_cases hother : other = key
      · rw [hother, Function.update_self]
        omega
      · rw [Function.update_of_ne hother]
        exact atLeast other
    have own' : ∀ other ∈ rest, Function.update gap key (least + least) other = least := by
      intro other hother
      rw [Function.update_of_ne (ne hother)]
      exact own other (List.mem_cons_of_mem _ hother)
    have lower' : ∀ other ∈ rest, ∀ name ∈ middle.keys, rank name < rank other → name ∈ rest := by
      intro other hother name hname low
      refine (List.mem_cons.mp (lower other (List.mem_cons_of_mem _ hother) name (keys ▸ hname)
        low)).resolve_left ?_
      rintro rfl
      exact Nat.lt_asymm low (below other hother)
    obtain ⟨after, n, passed, keys', tight'⟩ := ih tight atLeast' (keys ▸ later) falling own' lower'
    have passed : replacePass (key :: rest) documents =
        (after, .ok (if (placesOf documents key).isEmpty then n else n + 1)) := by
      rw [replacePass_cons, swept]
      dsimp only
      rw [passed]
    have gaps : (fun other => if other ∈ key :: rest then least + least else gap other) =
        fun other =>
        if other ∈ rest then least + least else Function.update gap key (least + least) other := by
      funext other
      by_cases hother : other = key <;> simp [hother]
    exact ⟨after, _, passed, keys'.trans keys, gaps ▸ tight'⟩

theorem exists_marker (h : Tight documents rank top fun _ => least) {key : String}
    (known : key ∈ documents.keys) (high : least ≤ rank key) :
    ∃ document place name, documents.get? key = some document ∧
      MarkerAt document place (.text name) ∧ name ∈ collectRefs document := by
  obtain ⟨document, place, name, found, marker, -⟩ := h.linked key known high
  exact ⟨document, place, name, found, marker, marker.mem_collectRefs (h.plain key document found)⟩

theorem replacePasses {maxPasses : Int} {left pass total : Nat}
    (h : Tight documents rank top fun _ => least) (pos : 0 < least)
    (falling : documents.keys.Pairwise fun key later => rank later < rank key) {key : String}
    (known : key ∈ documents.keys) (high : least * 2 ^ left ≤ rank key)
    (deep : least * 2 ^ left ≤ top) :
    ∃ keys, (replacePasses maxPasses left pass total documents).2.result =
      .error (.unexpandedRefs maxPasses keys) := by
  induction left generalizing pass total least documents with
  | zero =>
    rw [Nat.pow_zero, Nat.mul_one] at high
    obtain ⟨document, place, name, found, -, hname⟩ := h.exists_marker known high
    have hmem : key ∈ unexpanded documents := by
      refine List.mem_map_of_mem (f := Prod.fst) (List.mem_filter.mpr ⟨Table.mem_of_get? found, ?_⟩)
      simpa using List.ne_nil_of_mem hname
    rw [Schema.replacePasses]
    split
    · rename_i none_left
      rw [none_left] at hmem
      cases hmem
    · exact ⟨_, rfl⟩
  | succ left ih =>
    have grows : least ≤ least * 2 ^ (left + 1) := Nat.le_mul_of_pos_right _ (Nat.two_pow_pos _)
    obtain ⟨after, n, passed, keys, tight⟩ := h.pass pos (by omega) (fun _ => Nat.le_refl _)
      (fun _ => id) falling (fun _ _ => rfl) fun _ _ _ hname _ => hname
    have tight' : Tight after rank top fun _ => least + least := by
      refine ⟨tight.spaced.mono fun key hkey => by
        simp [keys ▸ hkey], fun key hkey high => ?_, tight.plain⟩
      have gap : (if key ∈ documents.keys then least + least else least) = least + least :=
        if_pos (keys ▸ hkey)
      obtain ⟨document, place, name, found, marker, drop⟩ := tight.linked key hkey (by omega)
      exact ⟨document, place, name, found, marker, by omega⟩
    have busy : n ≠ 0 := by
      rintro rfl
      obtain ⟨document, place, name, found, marker, -⟩ := h.exists_marker known (by omega)
      have idle := (replacePass_passed documents.keys documents).idle (by rw [passed]) key known
      rw [placesOf_found found] at idle
      have hplace := mem_markerPlaces_iff.mpr ⟨_, marker⟩
      rw [idle] at hplace
      cases hplace
    rw [Schema.replacePasses, passed]
    dsimp only
    rw [if_neg busy]
    rw [mul_two_pow_succ] at high deep
    exact ih tight' (by omega) (keys ▸ falling) (keys ▸ known) high deep

end Tight

end LedgerFlow.Schema
