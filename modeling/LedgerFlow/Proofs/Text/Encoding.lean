import LedgerFlow.Text.Encoding
import Mathlib.Tactic.SplitIfs

/-!
Text in UTF-8. Its bytes read as the text again, where neither a byte order mark nor a zero byte
speaks for another encoding: it is enough that the text starts with a brace, and not with a NUL
behind it.
-/
namespace LedgerFlow.Text

def utf8 (s : String) : List UInt8 := s.toUTF8.data.toList

theorem utf8_eq (s : String) : utf8 s = s.toList.flatMap String.utf8EncodeChar := by
  have bytes : s.toUTF8 = s.toList.utf8Encode := String.utf8Encode_toList.symm
  rw [utf8, bytes, List.utf8Encode, List.toList_data_toByteArray]

theorem decodeUtf8_utf8 (s : String) : decodeUtf8 (utf8 s) = some s := by
  have valid : s.toUTF8.IsValidUTF8 := s.isValidUTF8
  have bytes : (⟨(utf8 s).toArray⟩ : ByteArray) = s.toUTF8 := rfl
  rw [decodeUtf8, bytes, String.fromUTF8?, dif_pos valid]
  rfl

/-! Surrogates. -/

theorem replaceSurrogates_cons {b : UInt8} {rest : List UInt8}
    (h : b = 0xED → ∃ c more, rest = c :: more ∧ c < 0xA0) :
    replaceSurrogates (b :: rest) = b :: replaceSurrogates rest := by
  by_cases lead : b = 0xED
  · obtain ⟨c, more, rfl, low⟩ := h lead
    subst lead
    cases more with
    | nil => rfl
    | cons d more =>
      have kept : (decide (0xA0 ≤ c) && decide (c ≤ 0xBF) && decide (0x80 ≤ d) &&
          decide (d ≤ 0xBF)) ≠ true := by
        simp [UInt8.not_le.mpr low]
      rw [replaceSurrogates, if_neg kept]
  · rw [replaceSurrogates]
    intro _ _ _ spelled
    exact absurd spelled lead

theorem ofNat_ne_ofNat {m n : Nat} (hm : m < 256) (hn : n < 256) (other : m ≠ n) :
    UInt8.ofNat m ≠ UInt8.ofNat n := by
  intro h
  have value := congrArg UInt8.toNat h
  rw [UInt8.toNat_ofNat', UInt8.toNat_ofNat', Nat.mod_eq_of_lt hm, Nat.mod_eq_of_lt hn] at value
  exact other value

theorem replaceSurrogates_append (c : Char) (rest : List UInt8) :
    replaceSurrogates (String.utf8EncodeChar c ++ rest) = String.utf8EncodeChar c ++
      replaceSurrogates rest := by
  have valid : c.val.toNat < 0xD800 ∨ 0xDFFF < c.val.toNat ∧ c.val.toNat < 0x110000 := c.valid
  have keep {n : Nat} (small : n < 256) (other : n ≠ 0xED) (bytes : List UInt8) :
      replaceSurrogates (UInt8.ofNat n :: bytes) = UInt8.ofNat n :: replaceSurrogates bytes :=
    replaceSurrogates_cons fun lead => absurd lead (ofNat_ne_ofNat small (by decide) other)
  unfold String.utf8EncodeChar
  dsimp only
  split_ifs with one two three
  · exact keep (by omega) (by omega) rest
  · simp only [List.cons_append, List.nil_append]
    rw [keep (by omega) (by omega), keep (by omega) (by omega)]
  · simp only [List.cons_append, List.nil_append]
    have first : replaceSurrogates (UInt8.ofNat (c.val.toNat / 4096 % 16 + 224) ::
          UInt8.ofNat (c.val.toNat / 64 % 64 + 128) ::
            UInt8.ofNat (c.val.toNat % 64 + 128) :: rest) =
        UInt8.ofNat (c.val.toNat / 4096 % 16 + 224) :: replaceSurrogates
          (UInt8.ofNat (c.val.toNat / 64 % 64 + 128) :: UInt8.ofNat (c.val.toNat % 64 + 128) ::
            rest) := by
      -- The lead byte of the surrogates is also that of characters, but of those with a smaller
      -- second byte.
      refine replaceSurrogates_cons fun lead => ⟨_, _, rfl, ?_⟩
      have value := congrArg UInt8.toNat lead
      rw [UInt8.toNat_ofNat', Nat.mod_eq_of_lt (by omega)] at value
      rw [UInt8.lt_iff_toNat_lt, UInt8.toNat_ofNat', Nat.mod_eq_of_lt (by omega)]
      have value : c.val.toNat / 4096 % 16 + 224 = 237 := value
      change c.val.toNat / 64 % 64 + 128 < 160
      omega
    rw [first, keep (by omega) (by omega), keep (by omega) (by omega)]
  · simp only [List.cons_append, List.nil_append]
    rw [keep (by omega) (by omega), keep (by omega) (by omega), keep (by omega) (by omega),
      keep (by omega) (by omega)]

theorem replaceSurrogates_utf8 (s : String) : replaceSurrogates (utf8 s) = utf8 s := by
  rw [utf8_eq]
  induction s.toList with
  | nil => rfl
  | cons c cs ih => rw [List.flatMap_cons, replaceSurrogates_append, ih]

theorem decode_utf8 (s : String) : Encoding.utf8.decode (utf8 s) = some s := by
  rw [Encoding.decode, replaceSurrogates_utf8, decodeUtf8_utf8]

/-! Telling the encoding. -/

theorem detect_brace {bytes : List UInt8} (next : ∀ b ∈ bytes.head?, b ≠ 0) :
    Encoding.detect (0x7B :: bytes) = (.utf8, 0x7B :: bytes) := by
  rcases bytes with _ | ⟨b, _ | ⟨c, _ | ⟨d, rest⟩⟩⟩
  · rfl
  · exact if_neg (next b rfl)
  · rfl
  · exact if_neg (next b rfl)

theorem exists_utf8EncodeChar {c : Char} (solid : c.toNat ≠ 0) :
    ∃ b more, String.utf8EncodeChar c = b :: more ∧ b ≠ 0 := by
  have zero {n : Nat} (small : n < 256) (other : n ≠ 0) : UInt8.ofNat n ≠ 0 :=
    ofNat_ne_ofNat small (by decide) other
  have solid : c.val.toNat ≠ 0 := solid
  unfold String.utf8EncodeChar
  dsimp only
  split_ifs with one two three
  · exact ⟨_, _, rfl, zero (by omega) solid⟩
  · exact ⟨_, _, rfl, zero (by omega) (by omega)⟩
  · exact ⟨_, _, rfl, zero (by omega) (by omega)⟩
  · exact ⟨_, _, rfl, zero (by omega) (by omega)⟩

theorem ofBytes?_utf8 {s : String} {cs : List Char} (chars : s.toList = '{' :: cs)
    (next : ∀ d ∈ cs.head?, d.toNat ≠ 0) : ofBytes? (utf8 s) = some s := by
  have bytes : utf8 s = 0x7B :: cs.flatMap String.utf8EncodeChar := by
    rw [utf8_eq, chars, List.flatMap_cons]
    rfl
  have later : ∀ b ∈ (cs.flatMap String.utf8EncodeChar).head?, b ≠ 0 := by
    cases cs with
    | nil => nofun
    | cons d cs =>
      obtain ⟨b, more, second, notZero⟩ := exists_utf8EncodeChar (next d rfl)
      rw [List.flatMap_cons, second]
      rintro _ ⟨⟩
      exact notZero
  have told : Encoding.detect (utf8 s) = (.utf8, utf8 s) := by
    rw [bytes]
    exact detect_brace later
  rw [ofBytes?, told]
  exact decode_utf8 s

end LedgerFlow.Text
