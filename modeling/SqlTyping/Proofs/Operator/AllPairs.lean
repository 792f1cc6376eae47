/-
The same-type rule compares neighbours only. On types that have NULL at no level this is as good as
comparing all pairs, so the order of the operands does not decide whether a call is passed. A call
that is not passed is refused for its first bare NULL, or as a whole if it has none.
-/
import Mathlib.Data.List.Pairwise
import SqlTyping.Proofs.Operator.Skeletons

namespace SqlTyping

/-! ## All pairs -/

/-- Among types without NULL, neighbours are comparable exactly if all pairs are. -/
theorem neighboursComparable_iff_pairwise {types : List SqlType}
    (h : ∀ t ∈ types, t.nullFree = true) :
    neighboursComparable types = true ↔ types.Pairwise fun t u => t.comparable u = true := by
  have hsymm : Std.Symm fun t u : SqlType => t.comparable u = true :=
    ⟨fun t u htu => by rw [SqlType.comparable_comm]; exact htu⟩
  have hskeleton : ∀ t ∈ types, ∀ u ∈ types, t.comparable u = true ↔ t.skeleton = u.skeleton :=
    fun t ht u hu => SqlType.comparable_iff_skeleton_eq (h t ht) (h u hu)
  rw [neighboursComparable_iff h]
  constructor
  · intro hall
    exact List.pairwise_of_forall_mem_list fun t ht u hu => (hskeleton t ht u hu).2 (hall t ht u hu)
  · intro hpairs t ht u hu
    have hcomparable := hpairs.forall_of_forall (fun t _ => SqlType.comparable_refl t) ht hu
    exact (hskeleton t ht u hu).1 hcomparable

/-! ## The first bare NULL -/

theorem find?_zipIdx_eq_some {α : Type} (p : α → Bool) {xs : List α} {x : α} {i : Nat}
    (h : xs.zipIdx.find? (p ·.1) = some (x, i)) :
    xs[i]? = some x ∧ p x = true ∧ ∀ j < i, ∀ y, xs[j]? = some y → p y = false := by
  obtain ⟨hp, k, hk, hx, hbefore⟩ := List.find?_eq_some_iff_getElem.1 h
  simp only [List.getElem_zipIdx, Nat.zero_add, Prod.mk.injEq] at hx hbefore
  obtain ⟨rfl, rfl⟩ := hx
  refine ⟨List.getElem?_eq_getElem _, hp, fun j hj y hy => ?_⟩
  obtain ⟨_, rfl⟩ := List.getElem?_eq_some_iff.1 hy
  simpa using hbefore j hj

namespace Operator

variable {op : Operator} {b b' : TypedCall} {mode : Mode}

/-- A call that is not passed is refused for the first bare NULL among the operands that count, or,
if there is none, as a whole. -/
theorem checkSameType_refused {count : Option Nat} (h : op.checkSameType count b .explain ≠ .pass) :
    (∃ i o, (firstOf count b.call.operands)[i]? = some o ∧ o.expr.isNull false = true ∧
      (∀ j < i, ∀ o', (firstOf count b.call.operands)[j]? = some o' →
        o'.expr.isNull false = false) ∧
      op.checkSameType count b .explain = .rejected (.nullOperand op.name i o.span)) ∨
    (∀ o ∈ firstOf count b.call.operands, o.expr.isNull false = false) ∧
      op.checkSameType count b .explain = .rejected (.notComparable op.name b.call.span) := by
  cases hf : (firstOf count b.call.operands).zipIdx.find? (·.1.expr.isNull false) with
  | some found =>
    obtain ⟨o, i⟩ := found
    obtain ⟨ho, hnull, hbefore⟩ :=
      find?_zipIdx_eq_some (fun o : Operand => o.expr.isNull false) hf
    exact .inl ⟨i, o, ho, hnull, hbefore, by simp only [checkSameType, hf]; rfl⟩
  | none =>
    have hnone := find?_zipIdx_eq_none (fun o : Operand => o.expr.isNull false) hf
    have hcompared : ¬ neighboursComparable (firstOf count b.types) = true := fun hc =>
      h (checkSameType_eq_pass_iff.2 ⟨hnone, hc⟩)
    exact .inr ⟨hnone, by simp only [checkSameType, hf, if_neg hcompared]; rfl⟩

/-! ## Permuted operands -/

theorem perm_operands_types (h : b.slots.Perm b'.slots) :
    b.call.operands.Perm b'.call.operands ∧ b.types.Perm b'.types := by
  have hoperands := h.map Prod.fst
  have htypes := h.map Prod.snd
  unfold TypedCall.slots at hoperands htypes
  rw [List.map_fst_zip (Nat.le_of_eq b.aligned.symm),
    List.map_fst_zip (Nat.le_of_eq b'.aligned.symm)] at hoperands
  rw [List.map_snd_zip (Nat.le_of_eq b.aligned),
    List.map_snd_zip (Nat.le_of_eq b'.aligned)] at htypes
  exact ⟨hoperands, htypes⟩

theorem checkSameType_eq_pass_iff_pairwise {count : Option Nat}
    (hfree : ∀ t ∈ firstOf count b.types, t.nullFree = true) :
    op.checkSameType count b mode = .pass ↔
      (∀ o ∈ firstOf count b.call.operands, o.expr.isNull false = false) ∧
      (firstOf count b.types).Pairwise fun t u => t.comparable u = true := by
  rw [checkSameType_eq_pass_iff, neighboursComparable_iff_pairwise hfree]

theorem checkSameType_perm (h : b.slots.Perm b'.slots) (hfree : ∀ t ∈ b.types, t.nullFree = true) :
    op.checkSameType none b mode = .pass ↔ op.checkSameType none b' mode = .pass := by
  obtain ⟨hoperands, htypes⟩ := perm_operands_types h
  have hfree' : ∀ t ∈ b'.types, t.nullFree = true := fun t ht => hfree t (htypes.mem_iff.2 ht)
  rw [@checkSameType_eq_pass_iff_pairwise op b mode none hfree,
    @checkSameType_eq_pass_iff_pairwise op b' mode none hfree']
  refine and_congr ?_ (htypes.pairwise_iff fun htu => ?_)
  · exact ⟨fun hall o ho => hall o (hoperands.mem_iff.2 ho),
      fun hall o ho => hall o (hoperands.mem_iff.1 ho)⟩
  · rw [SqlType.comparable_comm]; exact htu

/-- The same-type rule compares neighbours, and where the types of the operands that count have NULL
at no level it passes a call exactly if none of these operands is a bare NULL and every two of their
types are comparable, in either mode. So the rule for any number of operands passes a call whatever
the order of the operands with their types. A call that is not passed is refused for the first bare
NULL, or as a whole if there is none. -/
theorem adjacent_pairs_decide_all_pairs (op : Operator) (count : Option Nat) (b : TypedCall)
    (hfree : ∀ t ∈ firstOf count b.types, t.nullFree = true) :
    (∀ mode, op.checkSameType count b mode = .pass ↔
      (∀ o ∈ firstOf count b.call.operands, o.expr.isNull false = false) ∧
      (firstOf count b.types).Pairwise fun t u => t.comparable u = true) ∧
    (count = none → ∀ b' : TypedCall, b.slots.Perm b'.slots →
      op.checkSameType count b .probe = op.checkSameType count b' .probe ∧
      (op.checkSameType count b .explain = .pass ↔ op.checkSameType count b' .explain = .pass)) ∧
    (op.checkSameType count b .explain ≠ .pass →
      (∃ i o, (firstOf count b.call.operands)[i]? = some o ∧ o.expr.isNull false = true ∧
        (∀ j < i, ∀ o', (firstOf count b.call.operands)[j]? = some o' →
          o'.expr.isNull false = false) ∧
        op.checkSameType count b .explain = .rejected (.nullOperand op.name i o.span)) ∨
      (∀ o ∈ firstOf count b.call.operands, o.expr.isNull false = false) ∧
        op.checkSameType count b .explain = .rejected (.notComparable op.name b.call.span)) := by
  refine ⟨fun mode => checkSameType_eq_pass_iff_pairwise hfree, ?_, checkSameType_refused⟩
  rintro rfl b' hperm
  refine ⟨?_, checkSameType_perm hperm hfree⟩
  -- a probe that does not pass fails, whatever the cause
  have hpass := @checkSameType_perm op b b' .probe hperm hfree
  rcases checkSameType_uniform op none b with h | ⟨d, _, h⟩
  · rw [h, hpass.1 (h .probe)]
  · rcases checkSameType_uniform op none b' with h' | ⟨d', _, h'⟩
    · rw [h', hpass.2 (h' .probe)]
    · rw [h, h']; rfl

/-- A number, a decimal that may be missing and a float are comparable two by two, so that COALESCE
takes them in any order; with a text among them it takes them in none. -/
theorem coalesce_of_numbers_in_any_order :
    let coalesce : Operator := .make "COALESCE" .function (.sameType none) .coalesce
    let operand (name : String) (first : Nat) : Operand :=
      ⟨.column none name, .onLine 1 first (first + 5)⟩
    let decimal : SqlType := .nullable (.scalar (.decimal (some 10) (some 2)))
    let call : Call := ⟨"coalesce", [operand "amount" 10, operand "price" 18, operand "rate" 26],
      none, .onLine 1 1 32⟩
    let turned : Call := { call with operands := call.operands.reverse }
    let b : TypedCall := ⟨call, [.bigint, decimal, .double], rfl⟩
    let b' : TypedCall := ⟨turned, [.double, decimal, .bigint], rfl⟩
    let b'' : TypedCall := ⟨call, [.bigint, .text, .double], rfl⟩
    (∀ t ∈ b.types, t.nullFree = true) ∧
      b.types.Pairwise (fun t u => t.comparable u = true) ∧
      coalesce.checkSameType none b' .explain = .pass ∧
      coalesce.checkSameType none b'' .explain =
        .rejected (.notComparable "COALESCE" (.onLine 1 1 32)) := by
  intro coalesce operand decimal call turned b b' b''
  have hfree : ∀ t ∈ firstOf none b.types, t.nullFree = true := by decide
  have hfree'' : ∀ t ∈ firstOf none b''.types, t.nullFree = true := by decide
  have hturned : b.slots.Perm b'.slots := (List.reverse_perm b.slots).symm
  obtain ⟨hpairs, horder, _⟩ := adjacent_pairs_decide_all_pairs coalesce none b hfree
  obtain ⟨hpairs'', _, hrefused⟩ := adjacent_pairs_decide_all_pairs coalesce none b'' hfree''
  have hpass : coalesce.checkSameType none b .explain = .pass := rfl
  refine ⟨hfree, ((hpairs .explain).1 hpass).2, ((horder rfl b' hturned).2).1 hpass, ?_⟩
  have htext : coalesce.checkSameType none b'' .explain ≠ .pass := by
    rw [Ne, hpairs'' .explain]
    simp [b'', firstOf, SqlType.comparable, SqlType.base, Scalar.family]
  rcases hrefused htext with ⟨i, o, ho, hnull, _⟩ | ⟨_, h⟩
  · have hmem := List.mem_of_getElem? ho
    simp [firstOf, b'', call, operand] at hmem
    rcases hmem with rfl | rfl | rfl <;> cases hnull
  · exact h

end Operator

end SqlTyping
