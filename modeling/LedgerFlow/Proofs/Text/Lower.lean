import LedgerFlow.Text.Case
import LedgerFlow.Text.Digit

/-!
What stands in lower case stays as it is. A small letter has no smaller one: the partners of
capitals are none themselves, and neither are the forms of the sigma and what the dotted capital I
becomes.
-/
namespace LedgerFlow.Text

/-! Partners that are no letters. -/

namespace CaseRun

/-- Whether only every second code point of `other` is a letter, and the partners of the run are in
between. -/
def interleaves (run other : CaseRun) : Bool :=
  Nat.beq other.step 2 && (Nat.beq run.step 2 || Nat.beq run.first run.last) &&
    Nat.beq ((run.partner + other.first) % 2) 1

def missedBy (run : CaseRun) : List CaseRun → Bool
  | [] => true
  | other :: rest =>
    Nat.blt (run.partner + (run.last - run.first)) other.first ||
      ((Nat.blt other.last run.partner || run.interleaves other) && run.missedBy rest)

variable {run other : CaseRun} {n : Nat}

theorem contains_iff :
    run.contains n = true ↔ (run.first ≤ n ∧ n ≤ run.last) ∧ (n - run.first) % run.step = 0 := by
  rw [contains, Bool.and_eq_true, Bool.and_eq_true, beq_iff_eq, decide_eq_true_eq,
    decide_eq_true_eq]

theorem contains_partnerOf_of_interleaves (apart : run.interleaves other = true)
    (h : run.contains n = true) : other.contains (run.partnerOf n) = false := by
  obtain ⟨bounds, letter⟩ := contains_iff.mp h
  simp only [interleaves, Bool.and_eq_true, Bool.or_eq_true, Nat.beq_eq] at apart
  obtain ⟨⟨step, own⟩, parity⟩ := apart
  rw [← Bool.not_eq_true, contains_iff, step, partnerOf]
  have even : (n - run.first) % 2 = 0 := by
    rcases own with own | single
    · rwa [own] at letter
    · omega
  omega

theorem partner?_partnerOf {runs : List CaseRun} (missed : run.missedBy runs = true)
    (h : run.contains n = true) : partner? runs (run.partnerOf n) = none := by
  have bounds := (contains_iff.mp h).1
  induction runs with
  | nil => rfl
  | cons other rest ih =>
    rw [partner?]
    split
    · rfl
    · rename_i reached
      simp only [missedBy, Bool.or_eq_true, Bool.and_eq_true, Nat.blt_eq] at missed
      rcases missed with beyond | ⟨behind | between, later⟩
      · rw [partnerOf] at reached
        omega
      · have outside : ¬ other.contains (run.partnerOf n) = true := by
          rw [contains_iff, partnerOf]
          omega
        rw [if_neg outside, ih later]
      · have outside := contains_partnerOf_of_interleaves between h
        rw [if_neg (Bool.eq_false_iff.mp outside), ih later]

end CaseRun

theorem exists_of_partner? {runs : List CaseRun} {n m : Nat} (h : partner? runs n = some m) :
    ∃ run ∈ runs, run.contains n = true ∧ m = run.partnerOf n := by
  induction runs with
  | nil => cases h
  | cons run rest ih =>
    rw [partner?] at h
    split at h
    · cases h
    · split at h
      · rename_i letter
        exact ⟨run, List.mem_cons_self, letter, (Option.some.inj h).symm⟩
      · obtain ⟨found, member, letter⟩ := ih h
        exact ⟨found, List.mem_cons_of_mem _ member, letter⟩

def dottedCapital : CaseRun := ⟨0x130, 0x130, 1, 0x69⟩

theorem capitalRuns_missed : ∀ run ∈ capitalRuns, run.missedBy capitalRuns = true := by
  decide +kernel

theorem capitalRuns_partners : ∀ run ∈ capitalRuns,
    run.missedBy [dottedCapital] = true ∧ 0x61 ≤ run.partner ∧
      (run.partner + (run.last - run.first) < 0xD800 ∨ 0xDFFF < run.partner) ∧
      run.partner + (run.last - run.first) < 0x110000 := by decide +kernel

/-! Characters that stay. -/

/-- The code point is its own lower case, wherever it stands. -/
structure Settled (n : Nat) : Prop where
  notDotted : n ≠ 0x130
  lowest : partner? capitalRuns n = none

theorem Settled.notSigma {n : Nat} (h : Settled n) : n ≠ 0x3A3 := by
  rintro rfl
  exact absurd h.lowest (by decide +kernel)

theorem partner_settled {n m : Nat} (h : partner? capitalRuns n = some m) :
    Settled m ∧ 0x61 ≤ m ∧ m.isValidChar := by
  obtain ⟨run, member, letter, rfl⟩ := exists_of_partner? h
  obtain ⟨dotted, low, character, high⟩ := capitalRuns_partners run member
  have bounds := (CaseRun.contains_iff.mp letter).1
  refine ⟨⟨?_, CaseRun.partner?_partnerOf (capitalRuns_missed run member) letter⟩, ?_, ?_⟩
  · intro same
    have none := CaseRun.partner?_partnerOf dotted letter
    rw [same] at none
    cases none
  · rw [CaseRun.partnerOf]
    omega
  · rw [Nat.isValidChar, CaseRun.partnerOf]
    omega

theorem toNat_ofNat_of_isValidChar {n : Nat} (h : n.isValidChar) : (Char.ofNat n).toNat = n := by
  rw [Char.ofNat, dif_pos h]
  rfl

theorem lowerAt_of_settled {c : Char} (h : Settled c.toNat) (before after : List Char) :
    lowerAt before c after = [c] := by
  rw [lowerAt, if_neg h.notDotted, if_neg h.notSigma, lowerPartner, h.lowest]

theorem of_mem_lowerAt {before after : List Char} {c d : Char} (h : d ∈ lowerAt before c after) :
    Settled d.toNat ∧ (d = c ∨ 0x61 ≤ d.toNat) := by
  rw [lowerAt] at h
  split at h
  · rcases List.mem_cons.mp h with rfl | h
    · exact ⟨⟨by decide, by decide +kernel⟩, .inr (by decide)⟩
    · obtain rfl := List.mem_singleton.mp h
      exact ⟨⟨by decide, by decide +kernel⟩, .inr (by decide)⟩
  · rename_i notDotted
    split at h
    · obtain rfl := List.mem_singleton.mp h
      split <;> exact ⟨⟨by decide, by decide +kernel⟩, .inr (by decide)⟩
    · obtain rfl := List.mem_singleton.mp h
      rw [lowerPartner]
      split
      · rename_i m found
        obtain ⟨settled, low, valid⟩ := partner_settled found
        rw [toNat_ofNat_of_isValidChar valid]
        exact ⟨settled, .inr low⟩
      · rename_i lowest
        exact ⟨⟨notDotted, lowest⟩, .inl rfl⟩

variable {cs : List Char} {c : Char}

theorem of_mem_lowerFrom {before : List Char} (h : c ∈ lowerFrom before cs) :
    Settled c.toNat ∧ (c ∈ cs ∨ 0x61 ≤ c.toNat) := by
  induction cs generalizing before with
  | nil => cases h
  | cons first rest ih =>
    rw [lowerFrom] at h
    rcases List.mem_append.mp h with here | later
    · obtain ⟨settled, rfl | low⟩ := of_mem_lowerAt here
      · exact ⟨settled, .inl List.mem_cons_self⟩
      · exact ⟨settled, .inr low⟩
    · obtain ⟨settled, own⟩ := ih later
      exact ⟨settled, own.imp_left (List.mem_cons_of_mem _)⟩

theorem of_mem_lower (h : c ∈ lower cs) : Settled c.toNat ∧ (c ∈ cs ∨ 0x61 ≤ c.toNat) :=
  of_mem_lowerFrom h

theorem lowerFrom_of_settled {before : List Char} (h : ∀ c ∈ cs, Settled c.toNat) :
    lowerFrom before cs = cs := by
  induction cs generalizing before with
  | nil => rfl
  | cons c rest ih =>
    obtain ⟨here, later⟩ := List.forall_mem_cons.mp h
    rw [lowerFrom, lowerAt_of_settled here, ih later, List.singleton_append]

theorem mem_lowerFrom {before : List Char} (settled : Settled c.toNat) (h : c ∈ cs) :
    c ∈ lowerFrom before cs := by
  induction cs generalizing before with
  | nil => cases h
  | cons first rest ih =>
    rw [lowerFrom, List.mem_append]
    rcases List.mem_cons.mp h with rfl | h
    · exact .inl (lowerAt_of_settled settled before rest ▸ List.mem_cons_self)
    · exact .inr (ih h)

theorem not_capital_of_settled {n : Nat} (h : Settled n) : ¬ (0x41 ≤ n ∧ n ≤ 0x5A) := by
  rintro ⟨low, high⟩
  have letter : (CaseRun.mk 0x41 0x5A 1 0x61).contains n = true :=
    CaseRun.contains_iff.mpr ⟨⟨low, high⟩, Nat.mod_one _⟩
  have lowest := h.lowest
  rw [capitalRuns, partner?, if_neg (Nat.not_lt.mpr low), if_pos letter] at lowest
  cases lowest

/-! Digits. -/

def digitRun (start : Nat) : CaseRun := ⟨start, start + 9, 1, start⟩

theorem digitZeros_missed : ∀ start ∈ digitZeros,
    (digitRun start).missedBy capitalRuns = true ∧ (start + 9 < 0x130 ∨ 0x130 < start) := by
  decide +kernel

theorem settled_of_isDecimal (digit : isDecimal c = true) : Settled c.toNat := by
  obtain ⟨d, value⟩ := Option.isSome_iff_exists.mp digit
  obtain ⟨start, member, found⟩ := List.exists_of_findSome?_eq_some value
  obtain ⟨range, -⟩ := Option.ite_none_right_eq_some.mp found
  obtain ⟨missed, dotted⟩ := digitZeros_missed start member
  have letter : (digitRun start).contains c.toNat = true :=
    CaseRun.contains_iff.mpr ⟨⟨range.1, Nat.le_of_lt_succ range.2⟩, Nat.mod_one _⟩
  have lowest := CaseRun.partner?_partnerOf missed letter
  have own : (digitRun start).partnerOf c.toNat = c.toNat := Nat.add_sub_cancel' range.1
  rw [own] at lowest
  exact ⟨by omega, lowest⟩

theorem lower_ne_of_isDecimal {word : List Char} (plain : word.any isDecimal = false)
    (digit : isDecimal c = true) (h : c ∈ cs) : lower cs ≠ word := by
  rintro rfl
  exact List.any_eq_false.mp plain c (mem_lowerFrom (settled_of_isDecimal digit) h) digit

end LedgerFlow.Text
