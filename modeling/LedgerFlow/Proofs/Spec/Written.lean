import LedgerFlow.App
import LedgerFlow.Proofs.Json.RoundTrip
import LedgerFlow.Proofs.Text.Encoding

/-!
Descriptions in writing. A value comes back from each of the texts that are written for it, so it
makes no difference whether a description is given as a value, as a text of this value, or as the
bytes of such a text.
-/
namespace LedgerFlow
open Text

namespace Json

theorem Style.gapped_compact : Style.compact.Gapped := ⟨nofun, nofun⟩

theorem Style.gapped_spaced : Style.spaced.Gapped :=
  ⟨List.forall_mem_singleton.mpr rfl, List.forall_mem_singleton.mpr rfl⟩

theorem Style.gapped_indented : Style.indented.Gapped := ⟨nofun, List.forall_mem_singleton.mpr rfl⟩

def writtenTexts (v : Json) : List String := [v.compactText, v.toText .spaced, dumpText v]

/-- What the texts of a value have in common. -/
structure IsWritten (v : Json) (s : String) (style : Style) (tail : List Char) : Prop where
  gapped : style.Gapped
  gap : ∀ c ∈ tail, isGap c = true
  chars : s.toList = write style 0 v ++ tail

theorem exists_isWritten {v : Json} {s : String} (h : s ∈ v.writtenTexts) :
    ∃ style tail, IsWritten v s style tail := by
  simp only [writtenTexts, List.mem_cons, List.not_mem_nil, or_false] at h
  rcases h with rfl | rfl | rfl
  · exact ⟨_, [], Style.gapped_compact, nofun, by
      rw [compactText, toText, String.toList_ofList, List.append_nil]⟩
  · exact ⟨_, [], Style.gapped_spaced, nofun, by rw [toText, String.toList_ofList, List.append_nil]⟩
  · refine ⟨_, ['\n'], Style.gapped_indented, List.forall_mem_singleton.mpr rfl, ?_⟩
    rw [dumpText, String.toList_append, toText, String.toList_ofList]
    rfl

theorem IsWritten.readChars {v : Json} {s : String} {style : Style} {tail : List Char}
    (h : IsWritten v s style tail) (readable : v.Readable) : readChars s.toList = .ok v := by
  rw [h.chars]
  exact readChars_written h.gapped readable h.gap

theorem exists_write_object (style : Style) (depth : Nat) (fields : List (String × Json)) :
    ∃ c rest, write style depth (.object fields) = '{' :: c :: rest ∧ c ∈ ['}', '\n', '"'] := by
  cases fields with
  | nil => exact ⟨'}', [], rfl, List.mem_cons_self⟩
  | cons field fields =>
    obtain ⟨name, v⟩ := field
    simp only [write, writeText, List.cons_append, List.append_assoc]
    obtain ⟨c, rest, start, first⟩ := exists_lineBreak_append style (depth + 1) '"' _
    rw [start]
    refine ⟨c, rest, rfl, ?_⟩
    rcases first with rfl | rfl <;> decide

theorem IsWritten.ofBytes? {fields : List (String × Json)} {s : String} {style : Style}
    {tail : List Char} (h : IsWritten (.object fields) s style tail) :
    ofBytes? (utf8 s) = some s := by
  obtain ⟨c, rest, written, second⟩ := exists_write_object style 0 fields
  have chars : s.toList = '{' :: c :: (rest ++ tail) := by rw [h.chars, written]; rfl
  refine ofBytes?_utf8 chars ?_
  rintro _ ⟨⟩
  simp only [List.mem_cons, List.not_mem_nil, or_false] at second
  rcases second with rfl | rfl | rfl <;> decide

/-- Without floating-point numbers, fields of one name and integers that are too long, a value comes
back from all of its texts, and no other such value has the same schema text. An object is the same
description, or is refused in the same way, as a value, as any of its texts, and as the bytes of one
in UTF-8. -/
theorem writtenTexts_readBack {v : Json} (readable : v.Readable) :
    (∀ s ∈ v.writtenTexts, ofText s = .ok v) ∧
    (∀ w : Json, w.Readable → w.compactText = v.compactText → w = v) ∧
    (v.isObject = true → ∀ s ∈ v.writtenTexts, Spec.parse (.text s) = Spec.parse (.value v) ∧
      Spec.parse (.bytes (utf8 s)) = Spec.parse (.value v)) := by
  have back {w : Json} (readable : w.Readable) : ∀ s ∈ w.writtenTexts, ofText s = .ok w := by
    intro s hs
    obtain ⟨style, tail, written⟩ := exists_isWritten hs
    exact ofText_written written.gapped readable written.gap written.chars
  refine ⟨back readable, fun w readable' same => ?_, fun object s hs => ?_⟩
  · have own := back readable v.compactText List.mem_cons_self
    have other := back readable' w.compactText List.mem_cons_self
    exact Except.ok.inj (other.symm.trans (same ▸ own))
  · cases v with
    | object fields =>
      obtain ⟨style, tail, written⟩ := exists_isWritten hs
      have text : (Payload.text s).read = .ok (.object fields) := by
        rw [Payload.read, readJson, back readable s hs]
      have bytes : (Payload.bytes (utf8 s)).read = .ok (.object fields) := by
        rw [Payload.read, readJsonBytes, written.ofBytes?]
        simp only [readJson, written.readChars readable]
      have value : (Payload.value (.object fields)).read = .ok (.object fields) := rfl
      exact ⟨by rw [Spec.parse, text, Spec.parse, value], by
        rw [Spec.parse, bytes, Spec.parse, value]⟩
    | _ => cases object

theorem writtenTexts_readBack_depot :
    let info := Json.object [("title", .text "Dépôt \"n\"\u0001😀"), ("version", .int (-20))]
    let contracts := Json.object [("keys", .array [.null, .bool true])]
    let v := Json.object [("info", info), ("contracts", contracts)]
    let w := Json.object [("contracts", contracts), ("info", info)]
    v.Readable ∧ w.Readable ∧ w.compactText ≠ v.compactText ∧ v.isObject = true ∧
      ∀ s ∈ v.writtenTexts, ofText s = .ok v ∧ Spec.parse (.text s) = Spec.parse (.value v) ∧
        Spec.parse (.bytes (utf8 s)) = Spec.parse (.value v) := by
  intro info contracts v w
  have text (s : String) : (Json.text s).Readable := readable_leaf rfl nofun nofun
  have version : (Json.int (-20)).Readable := readable_leaf rfl nofun fun | _, rfl => by decide
  have null : Json.null.Readable := readable_leaf rfl nofun nofun
  have yes : (Json.bool true).Readable := readable_leaf rfl nofun nofun
  have readable : v.Readable := by
    simp [v, info, contracts, readable_object, readable_array, Table.keys, text, version, null, yes]
  have swapped : w.Readable := by
    simp [w, info, contracts, readable_object, readable_array, Table.keys, text, version, null, yes]
  obtain ⟨back, same, alike⟩ := writtenTexts_readBack readable
  refine ⟨readable, swapped, fun h => ?_, rfl, fun s hs => ⟨back s hs, alike rfl s hs⟩⟩
  have names := congrArg fieldsOf (same w swapped h)
  simp [fieldsOf, v, w] at names

end Json

end LedgerFlow
