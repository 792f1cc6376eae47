/-
Upper-casing is idempotent. A code point that has another upper-case form never stands in the
upper-case form of any code point, so what has been upper-cased stays as it is. That the two sets of
code points have no member in common is a fact about the tables. It is read off the sets written as
numbers, with one bit for each code point: two sets are disjoint if the numbers have no bit in common.
-/
import Mathlib.Data.List.Basic
import SqlTyping.Text.UpperCase

namespace SqlTyping.Text

/-! ## Sets of code points as numbers -/

/-- The number that has the bits of the given positions. -/
def bitSet : List Nat → Nat
  | [] => 0
  | n :: ns => 1 <<< n ||| bitSet ns

theorem testBit_bitSet {ns : List Nat} {n : Nat} : (bitSet ns).testBit n = true ↔ n ∈ ns := by
  induction ns with
  | nil => simp [bitSet]
  | cons m ns ih =>
    have hone : (1 <<< m).testBit n = true ↔ n = m := by
      rw [Nat.shiftLeft_eq, Nat.one_mul, Nat.testBit_two_pow, decide_eq_true_eq, eq_comm]
    rw [bitSet, Nat.testBit_or, Bool.or_eq_true, ih, hone, List.mem_cons]

/-- Lists of numbers whose sets have no bit in common have no member in common. -/
theorem not_mem_of_bitSet_and {ms ns : List Nat} (h : bitSet ms &&& bitSet ns = 0) {n : Nat}
    (hn : n ∈ ns) : n ∉ ms := by
  intro hm
  have hbit : (bitSet ms &&& bitSet ns).testBit n = true := by
    rw [Nat.testBit_and, testBit_bitSet.2 hm, testBit_bitSet.2 hn]
    rfl
  rw [h, Nat.zero_testBit] at hbit
  cases hbit

/-! ## The tables -/

namespace CaseRun

/-- The code points that the run holds. -/
def sources (r : CaseRun) : List Nat :=
  (List.range r.count).map (r.first + · * r.step)

/-- Their upper-case forms. -/
def targets (r : CaseRun) : List Nat :=
  (List.range r.count).map (r.target + · * r.step)

theorem exists_index_of_covers {r : CaseRun} {n : Nat} (h : r.covers n = true) :
    ∃ k < r.count, n = r.first + k * r.step := by
  simp only [covers, Bool.and_eq_true, decide_eq_true_eq, beq_iff_eq] at h
  obtain ⟨⟨hfirst, hlast⟩, hstep⟩ := h
  obtain ⟨k, hk⟩ := Nat.dvd_of_mod_eq_zero hstep
  have hn : n = r.first + k * r.step := by rw [Nat.mul_comm k, ← hk]; omega
  refine ⟨k, ?_, hn⟩
  have hlt : k * r.step < r.count * r.step := by omega
  exact Nat.lt_of_mul_lt_mul_right hlt

theorem mem_sources_of_covers {r : CaseRun} {n : Nat} (h : r.covers n = true) : n ∈ r.sources := by
  obtain ⟨k, hk, rfl⟩ := exists_index_of_covers h
  exact List.mem_map.2 ⟨k, List.mem_range.2 hk, rfl⟩

theorem image_mem_targets {r : CaseRun} {n : Nat} (h : r.covers n = true) :
    r.image n ∈ r.targets := by
  obtain ⟨k, hk, rfl⟩ := exists_index_of_covers h
  exact List.mem_map.2 ⟨k, List.mem_range.2 hk, by rw [image, Nat.add_sub_cancel_left]⟩

end CaseRun

/-- The code points that have another upper-case form. -/
def lowerCodes : List Nat :=
  (List.range 26).map (0x61 + ·) ++ caseRuns.flatMap (·.sources) ++ caseExpansions.map (·.1)

/-- The code points that stand in the upper-case forms of these. -/
def upperCodes : List Nat :=
  (List.range 26).map (0x41 + ·) ++ caseRuns.flatMap (·.targets) ++ caseExpansions.flatMap (·.2)

theorem lowerCodes_disjoint_upperCodes : bitSet lowerCodes &&& bitSet upperCodes = 0 := by
  decide +kernel

theorem isValidChar_upperCodes : ∀ m ∈ upperCodes, m.isValidChar := by
  decide +kernel

/-! ## Code points -/

variable {n m : Nat}

/-- A code point stays, or its upper-case form is made of upper-case code points. -/
theorem upperCode_cases (n : Nat) : upperCode n = [n] ∨ ∀ m ∈ upperCode n, m ∈ upperCodes := by
  unfold upperCode upperCodes
  split
  · split
    · rename_i hletter
      refine .inr fun m hm => ?_
      rw [List.mem_singleton.1 hm, List.append_assoc]
      exact List.mem_append_left _ (List.mem_map.2 ⟨n - 0x61, List.mem_range.2 (by omega), by omega⟩)
    · exact .inl rfl
  · split
    · rename_i codes hcodes
      obtain ⟨before, after, htable, _⟩ := List.lookup_eq_some_iff.1 hcodes
      refine .inr fun m hm => List.mem_append_right _ (List.mem_flatMap.2 ⟨(n, codes), ?_, hm⟩)
      simp [htable]
    · split
      · rename_i run hrun
        refine .inr fun m hm => ?_
        rw [List.mem_singleton.1 hm]
        have hcovers : run.covers n = true := by simpa using List.find?_some hrun
        have hmem : run.image n ∈ caseRuns.flatMap (·.targets) :=
          List.mem_flatMap.2 ⟨run, List.mem_of_find?_eq_some hrun, run.image_mem_targets hcovers⟩
        exact List.mem_append_left _ (List.mem_append_right _ hmem)
      · exact .inl rfl

/-- A code point that is none of those with another upper-case form stays. -/
theorem upperCode_of_not_mem (h : n ∉ lowerCodes) : upperCode n = [n] := by
  simp only [lowerCodes, List.mem_append, not_or] at h
  obtain ⟨⟨hascii, hruns⟩, hkeys⟩ := h
  have hlookup : caseExpansions.lookup n = none := by
    refine List.lookup_eq_none_iff.2 fun p hp => ?_
    rw [bne_iff_ne]
    rintro rfl
    exact hkeys (List.mem_map_of_mem hp)
  have hfind : caseRuns.find? (·.covers n) = none := by
    refine List.find?_eq_none.2 fun run hrun hcovers => ?_
    exact hruns (List.mem_flatMap.2 ⟨run, hrun, run.mem_sources_of_covers hcovers⟩)
  have hletter : ¬ (0x61 ≤ n ∧ n ≤ 0x7a) := fun hn =>
    hascii (List.mem_map.2 ⟨n - 0x61, List.mem_range.2 (by omega), by omega⟩)
  unfold upperCode
  rw [hlookup, hfind, if_neg hletter]
  split <;> rfl

/-- What stands in an upper-case form stays as it is. -/
theorem upperCode_of_mem (h : m ∈ upperCode n) : upperCode m = [m] := by
  rcases upperCode_cases n with hstays | hupper
  · rw [hstays, List.mem_singleton] at h
    rw [h, hstays]
  · exact upperCode_of_not_mem (not_mem_of_bitSet_and lowerCodes_disjoint_upperCodes (hupper m h))

/-! ## Text -/

theorem toNat_ofNat_of_mem {c : Char} (h : m ∈ upperCode c.toNat) : (Char.ofNat m).toNat = m := by
  rcases upperCode_cases c.toNat with hstays | hupper
  · rw [hstays, List.mem_singleton] at h
    rw [h, Char.ofNat_toNat]
  · rw [Char.ofNat, dif_pos (isValidChar_upperCodes m (hupper m h))]
    rfl

theorem upperChar_of_mem {c d : Char} (h : d ∈ upperChar c) : upperChar d = [d] := by
  obtain ⟨m, hm, rfl⟩ := List.mem_map.1 h
  rw [upperChar, toNat_ofNat_of_mem hm, upperCode_of_mem hm]
  rfl

/-- Upper-casing a text that is in upper case already changes nothing. -/
theorem upper_upper (s : String) : upper (upper s) = upper s := by
  have hchar : ∀ c ∈ s.toList, (upperChar c).flatMap upperChar = upperChar c := fun c _ => by
    rw [List.flatMap_congr fun d hd => upperChar_of_mem hd]
    exact List.flatMap_singleton' _
  unfold upper
  rw [String.toList_ofList, List.flatMap_assoc, List.flatMap_congr hchar]

end SqlTyping.Text
