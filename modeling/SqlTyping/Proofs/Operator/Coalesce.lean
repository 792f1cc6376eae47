/-
The type of a COALESCE. The type is picked without regard to the rule for the operands: the first
type that is not nullable, or else the first that is not that of NULL. That it fits the operands
comes from the rule, which passes only types that are comparable two by two. Nullability needs no
rule: the picked type is nullable exactly if all types are, whatever the list.
-/
import SqlTyping.Proofs.Operator.Skeletons

namespace SqlTyping

/-- COALESCE gives a nullable type exactly if the types of all operands are nullable. -/
theorem ReturnRule.isNullable_coalesce (types : List SqlType) :
    (ReturnRule.coalesce.apply types).isNullable = true ↔ ∀ t ∈ types, t.isNullable = true := by
  rw [ReturnRule.apply]
  cases hfirst : types.find? (!·.isNullable) with
  | some t =>
    have ht : t.isNullable = false := by simpa using List.find?_some hfirst
    refine iff_of_false (by simp [ht]) fun hall => ?_
    rw [hall t (List.mem_of_find?_eq_some hfirst)] at ht
    cases ht
  | none =>
    have hall : ∀ t ∈ types, t.isNullable = true := by simpa using List.find?_eq_none.1 hfirst
    refine iff_of_true ?_ hall
    cases hother : types.find? (· != .null) with
    | some t => exact hall t (List.mem_of_find?_eq_some hother)
    | none => rfl

theorem ReturnRule.not_isNullable_coalesce (types : List SqlType) :
    (ReturnRule.coalesce.apply types).isNullable = false ↔ ∃ t ∈ types, t.isNullable = false := by
  rw [← Bool.not_eq_true, isNullable_coalesce]
  simp

namespace Operator

variable {op : Operator} {k : Context} {b : TypedCall} {mode : Mode}

/-- Types that the same-type rule passes, all free of NULL, are comparable two by two. -/
theorem comparable_of_check (hrule : op.rule = .sameType none)
    (hfree : ∀ t ∈ b.types, t.nullFree = true) (hpass : op.check k b mode = .pass) :
    ∀ t ∈ b.types, ∀ u ∈ b.types, t.comparable u = true := by
  unfold check at hpass
  rw [hrule] at hpass
  obtain ⟨_, hneighbours⟩ := checkSameType_eq_pass_iff.1 hpass
  intro t ht u hu
  rw [SqlType.comparable_iff_skeleton_eq (hfree t ht) (hfree u hu)]
  exact (neighboursComparable_iff hfree).1 hneighbours t ht u hu

/-- Let an operator take any number of operands of one kind and give its calls the type of COALESCE.
A call with operands whose types have NULL at no level, if it is passed, has the type of an operand,
which is comparable with the types of all operands, and is not nullable exactly if the type of some
operand is not. On any list of types, checked or not, the type of the call is one of them or that of
NULL, and it is nullable exactly if all of them are. -/
theorem coalesce_type_fits_operands (op : Operator) (hrule : op.rule = .sameType none)
    (hreturns : op.returns = .coalesce) :
    (∀ (k : Context) (b : TypedCall) (mode : Mode), b.call.operands ≠ [] →
      (∀ t ∈ b.types, t.nullFree = true) → op.check k b mode = .pass →
      op.returns.apply b.types ∈ b.types ∧
      (∀ t ∈ b.types, (op.returns.apply b.types).comparable t = true) ∧
      ((op.returns.apply b.types).isNullable = false ↔ ∃ t ∈ b.types, t.isNullable = false)) ∧
    ∀ types, (op.returns.apply types ∈ types ∨ op.returns.apply types = .null) ∧
      ((op.returns.apply types).isNullable = true ↔ ∀ t ∈ types, t.isNullable = true) := by
  rw [hreturns]
  constructor
  · intro k b mode hne hfree hpass
    have htypes : b.types ≠ [] := by
      rwa [← List.length_pos_iff, b.aligned, List.length_pos_iff]
    have hmem : ReturnRule.coalesce.apply b.types ∈ b.types := by
      refine ReturnRule.coalesce_mem htypes fun t ht htnull => ?_
      have hnot := hfree t ht
      rw [htnull] at hnot
      cases hnot
    exact ⟨hmem, comparable_of_check hrule hfree hpass _ hmem,
      ReturnRule.not_isNullable_coalesce b.types⟩
  · intro types
    exact ⟨(ReturnRule.coalesce_mem_or_null types).imp_right And.right,
      ReturnRule.isNullable_coalesce types⟩

/-- The first of three prices that is there: the last of them is never missing, so the result is not
either, and it can be compared with each of them. Without the last one it may be missing. -/
theorem first_price_there :
    let coalesce : Operator := .make "COALESCE" .function (.sameType none) .coalesce
    let operand (name : String) (first : Nat) : Operand :=
      ⟨.column none name, .onLine 1 first (first + 4)⟩
    let price : SqlType := .nullable (.scalar (.decimal (some 10) (some 2)))
    let b : TypedCall :=
      ⟨⟨"coalesce", [operand "offer" 10, operand "usual" 17, operand "floor" 24], none,
        .onLine 1 1 29⟩, [price, .nullable .double, .bigint], rfl⟩
    let k : Context := Validator.context ⟨.empty, .standard⟩ TableScope.empty.toScope
    coalesce.check k b .explain = .pass ∧
      (∀ t ∈ b.types, (coalesce.returns.apply b.types).comparable t = true) ∧
      (coalesce.returns.apply b.types).isNullable = false ∧
      (coalesce.returns.apply [.null, price]).isNullable = true := by
  intro coalesce operand price b k
  have hpass : coalesce.check k b .explain = .pass := rfl
  obtain ⟨hcalls, hlists⟩ := coalesce_type_fits_operands coalesce rfl rfl
  obtain ⟨_, hcomparable, hnullable⟩ := hcalls k b .explain (by simp [b]) (by decide) hpass
  refine ⟨hpass, hcomparable, hnullable.2 ⟨.bigint, by simp [b], rfl⟩, ?_⟩
  exact (hlists [.null, price]).2.2 (by decide)

end Operator

end SqlTyping
