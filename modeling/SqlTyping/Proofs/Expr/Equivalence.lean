/-
Sameness of expressions is an equivalence. Every decimal has a trimmed form, which writes its number
with as few places as possible, and decimals of one number have one trimmed form. So two expressions
are the same iff they are equal once all their decimals are trimmed, wherever these stand, and
sameness inherits its laws from equality.
-/
import Mathlib.Data.Nat.Find
import Mathlib.Data.Rat.Cast.Defs
import Mathlib.Tactic.NormNum
import Mathlib.Tactic.Ring
import SqlTyping.Expr.Equality

namespace SqlTyping

/-! ## Decimals -/

namespace Decimal

/-- The number that the decimal writes. -/
def value (d : Decimal) : ℚ :=
  d.mantissa / 10 ^ d.scale

/-- How many of the places are zeros that end the number. -/
def spareZeros (d : Decimal) : ℕ :=
  Nat.findGreatest (fun zeros => (10 : ℤ) ^ zeros ∣ d.mantissa) d.scale

/-- The decimal without the zeros that end its places. -/
def trimmed (d : Decimal) : Decimal where
  mantissa := d.mantissa / 10 ^ d.spareZeros
  scale := d.scale - d.spareZeros
  mantissa_bound := (Int.natAbs_ediv_le_natAbs _ _).trans_lt d.mantissa_bound
  scale_bound := (Nat.sub_le _ _).trans d.scale_bound

theorem ten_pow_ne_zero (n : ℕ) : (10 : ℤ) ^ n ≠ 0 :=
  pow_ne_zero n (by decide)

variable {a b : Decimal}

theorem value_eq_iff :
    a.value = b.value ↔ a.mantissa * 10 ^ b.scale = b.mantissa * 10 ^ a.scale := by
  unfold value
  rw [div_eq_div_iff (pow_ne_zero _ (by norm_num)) (pow_ne_zero _ (by norm_num))]
  exact_mod_cast Iff.rfl

theorem sameValue_iff : a.sameValue b = true ↔ a.value = b.value := by
  rw [value_eq_iff]
  exact beq_iff_eq

theorem spareZeros_le (d : Decimal) : d.spareZeros ≤ d.scale :=
  Nat.findGreatest_le d.scale

theorem pow_spareZeros_dvd (d : Decimal) : (10 : ℤ) ^ d.spareZeros ∣ d.mantissa :=
  Nat.findGreatest_spec (P := fun zeros => (10 : ℤ) ^ zeros ∣ d.mantissa) d.scale.zero_le
    (by rw [pow_zero]; exact one_dvd d.mantissa)

/-- Trimming keeps the number. -/
theorem value_trimmed (d : Decimal) : d.trimmed.value = d.value := by
  have hmantissa := Int.ediv_mul_cancel d.pow_spareZeros_dvd
  have hscale : d.spareZeros + (d.scale - d.spareZeros) = d.scale :=
    Nat.add_sub_cancel' d.spareZeros_le
  rw [value_eq_iff]
  calc d.trimmed.mantissa * 10 ^ d.scale
      = d.mantissa / 10 ^ d.spareZeros * 10 ^ d.spareZeros * 10 ^ (d.scale - d.spareZeros) := by
        rw [mul_assoc, ← pow_add, hscale]; rfl
    _ = d.mantissa * 10 ^ d.trimmed.scale := by rw [hmantissa]; rfl

/-- No decimal of the number has fewer places than the trimmed one. -/
theorem scale_trimmed_le (h : a.value = b.value) : a.trimmed.scale ≤ b.scale := by
  rcases le_total a.scale b.scale with hle | hle
  · exact (Nat.sub_le _ _).trans hle
  · -- the places that `a` has more than `b` are zeros at its end
    have hdvd : (10 : ℤ) ^ (a.scale - b.scale) ∣ a.mantissa := by
      refine ⟨b.mantissa, mul_right_cancel₀ (ten_pow_ne_zero b.scale) ?_⟩
      rw [value_eq_iff.1 h, ← pow_sub_mul_pow (10 : ℤ) hle]
      ring
    have hzeros : a.scale - b.scale ≤ a.spareZeros := Nat.le_findGreatest (Nat.sub_le _ _) hdvd
    show a.scale - a.spareZeros ≤ b.scale
    omega

theorem eq_of_value_eq (hscale : a.scale = b.scale) (h : a.value = b.value) : a = b := by
  rw [value_eq_iff, hscale] at h
  have hmantissa := mul_right_cancel₀ (ten_pow_ne_zero b.scale) h
  cases a
  cases b
  cases hscale
  cases hmantissa
  rfl

/-- Decimals of one number, and no others, have one trimmed form. -/
theorem trimmed_eq_iff : a.trimmed = b.trimmed ↔ a.value = b.value := by
  constructor
  · intro h
    rw [← a.value_trimmed, h, b.value_trimmed]
  · intro h
    have hvalue : a.trimmed.value = b.trimmed.value := by rw [value_trimmed, value_trimmed, h]
    refine eq_of_value_eq (Nat.le_antisymm ?_ ?_) hvalue
    · exact scale_trimmed_le (h.trans b.value_trimmed.symm)
    · exact scale_trimmed_le (h.symm.trans a.value_trimmed.symm)

end Decimal

/-! ## Literals -/

namespace Literal

/-- The literal, with its number trimmed if it is a decimal. -/
def trimmed : Literal → Literal
  | .decimal d => .decimal d.trimmed
  | l => l

theorem same_iff_trimmed_eq {a b : Literal} : a.same b = true ↔ a.trimmed = b.trimmed := by
  cases a with
  | decimal d =>
    cases b with
    | decimal d' =>
      rw [trimmed, trimmed, decimal.injEq, Decimal.trimmed_eq_iff]
      exact Decimal.sameValue_iff
    | _ => exact ⟨nofun, nofun⟩
  | _ =>
    cases b with
    | decimal d' => exact ⟨nofun, nofun⟩
    | _ => exact beq_iff_eq

end Literal

/-! ## Expressions -/

namespace Expr

mutual

/-- The expression with all its literals replaced, those of chains included. -/
def mapLiterals (f : Literal → Literal) : Expr → Expr
  | .literal l => .literal (f l)
  | .chain fragments => .chain (fragments.map f)
  | .cast e target => .cast (e.mapLiterals f) target
  | .column qualifier name => .column qualifier name
  | .call ⟨name, operands, quantifier, span⟩ =>
    .call ⟨name, mapLiteralsOfOperands f operands, quantifier, span⟩
termination_by structural e => e

/-- The operands at their spans, with all literals replaced. -/
def mapLiteralsOfOperands (f : Literal → Literal) : List Operand → List Operand
  | [] => []
  | ⟨e, span⟩ :: operands => ⟨e.mapLiterals f, span⟩ :: mapLiteralsOfOperands f operands
termination_by structural operands => operands

end

variable {f : Literal → Literal}

theorem sameFragments_iff_map_eq (hf : ∀ a b : Literal, a.same b = true ↔ f a = f b)
    {as bs : List Literal} : sameFragments as bs = true ↔ as.map f = bs.map f := by
  induction as generalizing bs with
  | nil => cases bs <;> simp [sameFragments]
  | cons a as ih => cases bs <;> simp [sameFragments, hf, ih]

theorem sameOperands_iff_mapLiterals_eq {os ps : List Operand}
    (h : ∀ o ∈ os, ∀ e, o.expr.same e = true ↔ o.expr.mapLiterals f = e.mapLiterals f) :
    sameOperands os ps = true ↔ mapLiteralsOfOperands f os = mapLiteralsOfOperands f ps := by
  induction os generalizing ps with
  | nil => cases ps <;> simp [sameOperands, mapLiteralsOfOperands]
  | cons o os ih =>
    obtain ⟨ho, hos⟩ := List.forall_mem_cons.1 h
    cases ps <;> simp [sameOperands, mapLiteralsOfOperands, ho, ih hos]

/-- If literals have the same value iff `f` makes them equal, then expressions are the same iff
replacing all their literals by `f` makes them equal. -/
theorem same_iff_mapLiterals_eq (hf : ∀ a b : Literal, a.same b = true ↔ f a = f b)
    {e e' : Expr} : e.same e' = true ↔ e.mapLiterals f = e'.mapLiterals f := by
  -- a replacement keeps the kind of a node, so nodes of two kinds fail both sides
  induction e generalizing e' with
  | literal a =>
    cases e' with
    | literal b => rw [same, hf, mapLiterals, mapLiterals, literal.injEq]
    | _ => exact ⟨nofun, nofun⟩
  | chain as =>
    cases e' with
    | chain bs => rw [same, sameFragments_iff_map_eq hf, mapLiterals, mapLiterals, chain.injEq]
    | _ => exact ⟨nofun, nofun⟩
  | cast e target ih =>
    cases e' with
    | cast e' target' =>
      rw [same, Bool.and_eq_true, beq_iff_eq, ih, mapLiterals, mapLiterals, cast.injEq]
    | _ => exact ⟨nofun, nofun⟩
  | column qualifier name =>
    cases e' with
    | column qualifier' name' =>
      rw [same, Bool.and_eq_true, beq_iff_eq, beq_iff_eq, mapLiterals, mapLiterals, column.injEq]
    | _ => exact ⟨nofun, nofun⟩
  | call c ih =>
    cases e' with
    | call c' =>
      have hoperands : sameOperands c.operands c'.operands = true ↔ _ :=
        sameOperands_iff_mapLiterals_eq fun o ho _ => ih o ho
      simp only [same, mapLiterals, Bool.and_eq_true, beq_iff_eq, hoperands, call.injEq,
        Invocation.mk.injEq, and_assoc]
    | _ => exact ⟨nofun, nofun⟩

/-- The expression with all its decimals trimmed. -/
def trimmed (e : Expr) : Expr :=
  e.mapLiterals Literal.trimmed

theorem same_iff_trimmed_eq {e e' : Expr} : e.same e' = true ↔ e.trimmed = e'.trimmed :=
  same_iff_mapLiterals_eq fun _ _ => Literal.same_iff_trimmed_eq

/-- Sameness of expressions is reflexive, symmetric and transitive, and says that they are equal once
their decimals are trimmed. In it, floats are told apart by their bits, so that NaN is the same as
itself, and decimals by their numbers, whatever their scales. -/
theorem same_is_equivalence_by_value :
    Equivalence (fun e e' : Expr => e.same e' = true) ∧
    (∀ e e' : Expr, e.same e' = true ↔ e.trimmed = e'.trimmed) ∧
    (∀ x y : UInt64,
      (Expr.literal (.float x)).same (.literal (.float y)) = true ↔ x = y) ∧
    ∀ a b : Decimal,
      (Expr.literal (.decimal a)).same (.literal (.decimal b)) = true ↔ a.value = b.value := by
  refine ⟨⟨?_, ?_, ?_⟩, fun _ _ => same_iff_trimmed_eq, ?_, ?_⟩
  · intro e
    exact same_iff_trimmed_eq.2 rfl
  · intro e e' h
    exact same_iff_trimmed_eq.2 (same_iff_trimmed_eq.1 h).symm
  · intro e₁ e₂ e₃ h₁₂ h₂₃
    exact same_iff_trimmed_eq.2 ((same_iff_trimmed_eq.1 h₁₂).trans (same_iff_trimmed_eq.1 h₂₃))
  · intro x y
    rw [same_iff_trimmed_eq]
    exact ⟨fun h => by cases h; rfl, fun h => by rw [h]⟩
  · intro a b
    exact Decimal.sameValue_iff

-- the number one may have one place or three, but one NaN is not another
example :
    let ratio (d : Decimal) (nan : UInt64) : Expr :=
      .call ⟨"/", [⟨.cast (.literal (.decimal d)) .double, .onLine 1 1 3⟩,
        ⟨.chain [.null, .float nan], .onLine 1 5 7⟩], none, .onLine 1 1 7⟩
    let one : Decimal := ⟨10, 1, by decide, by decide⟩
    let longerOne : Decimal := ⟨1000, 3, by decide, by decide⟩
    (ratio one 0x7FF8000000000000).same (ratio longerOne 0x7FF8000000000000) = true ∧
      (ratio one 0x7FF8000000000000).same (ratio one 0x7FF8000000000001) = false := by
  decide

end Expr

end SqlTyping
