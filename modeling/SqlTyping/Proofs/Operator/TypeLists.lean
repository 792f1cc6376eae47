/-
The same-type rule on types alone against the same rule on a call. Without a call the type of NULL
is all that tells a bare NULL, and it tells too much: a bare NULL always has this type, but so has
an empty COALESCE. So on the types that the operands of a call have, the rule on types alone never
accepts what the rule on the call refuses, and refuses more only for an operand that has the type of
NULL and is no bare NULL.
-/
import SqlTyping.Catalog.Builtin
import SqlTyping.Proofs.Operator.Appearance
import SqlTyping.Proofs.Operator.Skeletons
import SqlTyping.Proofs.Scope

namespace SqlTyping

/-! ## Bare NULLs -/

theorem Expr.eq_null_of_isNull {e : Expr} (h : e.isNull false = true) : e = .literal .null := by
  unfold isNull at h
  split at h
  · rfl
  · cases h
  · cases h

/-- A bare NULL has the type of NULL, wherever it stands. -/
theorem Walk.Walks.type_of_isNull {w : Walk} {f : TypingFn} (hf : w.Walks f) {e : Expr} {span : Span}
    {depth : Nat} {t : SqlType} (h : f e span depth = .ok t) (hnull : e.isNull false = true) :
    t = .null := by
  rw [Expr.eq_null_of_isNull hnull] at h
  cases (hf.ok_iff_rule.1 h).2
  rfl

/-! ## Types alone -/

/-- On types alone the rule asks that none is that of NULL and that neighbours are comparable. -/
theorem sameTypeAccepts_iff {count : Option Nat} {types : List SqlType} :
    sameTypeAccepts count types = true ↔
      (∀ t ∈ firstOf count types, t ≠ .null) ∧
      neighboursComparable (firstOf count types) = true := by
  simp only [sameTypeAccepts, Bool.and_eq_true, Bool.not_eq_true', List.contains_eq_mem,
    decide_eq_false_iff_not]
  refine and_congr_left fun _ => ⟨?_, fun h hmem => h _ hmem rfl⟩
  rintro h t ht rfl
  exact h ht

namespace Operator

variable {op : Operator} {count : Option Nat} {b : TypedCall} {mode : Mode}

/-- Where every bare NULL has the type of NULL, the types are accepted alone exactly if the call is
passed and no type that counts is that of NULL. -/
theorem sameTypeAccepts_iff_check
    (h : List.Forall₂ (fun o t => o.expr.isNull false = true → t = .null) b.call.operands b.types) :
    sameTypeAccepts count b.types = true ↔
      op.checkSameType count b mode = .pass ∧ ∀ t ∈ firstOf count b.types, t ≠ .null := by
  rw [sameTypeAccepts_iff, checkSameType_eq_pass_iff]
  constructor
  · rintro ⟨htypes, hcomparable⟩
    refine ⟨⟨fun o ho => ?_, hcomparable⟩, htypes⟩
    obtain ⟨t, ht, hot⟩ := Outcome.exists_related_of_mem (firstOf_related h count) ho
    by_contra hnull
    exact htypes t ht (hot (by simpa using hnull))
  · rintro ⟨⟨_, hcomparable⟩, htypes⟩
    exact ⟨htypes, hcomparable⟩

/-- Take the types that the operands of a call have without checks. The rule on types alone accepts
them exactly if a probe of the rule on the call passes and no type that counts is that of NULL. So
types alone are never accepted where the call is refused, and where they are refused although the
call is passed, some operand that counts has the type of NULL and is no bare NULL. -/
theorem typeList_accepted_iff_call_passed (op : Operator) (count : Option Nat) (v : Validator)
    (s : Scope) (b : TypedCall)
    (htypes : List.Forall₂ (fun o t => v.derive s o.expr = .ok t) b.call.operands b.types) :
    (sameTypeAccepts count b.types = true ↔
      op.checkSameType count b .probe = .pass ∧ ∀ t ∈ firstOf count b.types, t ≠ .null) ∧
    (op.checkSameType count b .probe ≠ .pass → sameTypeAccepts count b.types = false) ∧
    (op.checkSameType count b .probe = .pass → sameTypeAccepts count b.types = false →
      ∃ o ∈ firstOf count b.call.operands,
        o.expr.isNull false = false ∧ v.derive s o.expr = .ok .null) := by
  have hnulls := htypes.imp fun o t h => (v.deriveAt_walks s).type_of_isNull h
  have hiff := @sameTypeAccepts_iff_check op count b .probe hnulls
  refine ⟨hiff, fun hrefused => ?_, fun hpass hrefused => ?_⟩
  · rw [Bool.eq_false_iff]
    exact fun haccepted => hrefused (hiff.1 haccepted).1
  · have hnull : .null ∈ firstOf count b.types := by
      by_contra hnone
      have haccepted := hiff.2 ⟨hpass, fun t ht hnull => hnone (hnull ▸ ht)⟩
      rw [hrefused] at haccepted
      cases haccepted
    -- the operand of that type is no bare NULL, since the call is passed
    obtain ⟨o, ho, hderived⟩ := Outcome.exists_related_of_mem (firstOf_related htypes count).flip hnull
    exact ⟨o, ho, (checkSameType_eq_pass_iff.1 hpass).1 o ho, hderived⟩

/-- COALESCE of an amount and an empty COALESCE is passed as a call, and its types are refused alone,
for the operand that has the type of NULL without being one. With zero in its place both agree. -/
theorem amount_or_empty_coalesce :
    let v : Validator := ⟨.builtin, .standard⟩
    let s := (Orders.scope .select).toScope
    let coalesce : Operator := .make "COALESCE" .function (.sameType none) .coalesce
    let amount : Operand := ⟨.column none "amount", .onLine 1 10 15⟩
    let empty : Operand := ⟨.call ⟨"COALESCE", [], none, .onLine 1 18 27⟩, .onLine 1 18 27⟩
    let zero : Operand := ⟨.literal (.integer 0), .onLine 1 18 18⟩
    let b : TypedCall :=
      ⟨⟨"coalesce", [amount, empty], none, .onLine 1 1 28⟩, [.nullable .bigint, .null], rfl⟩
    let b' : TypedCall :=
      ⟨⟨"coalesce", [amount, zero], none, .onLine 1 1 19⟩, [.nullable .bigint, .bigint], rfl⟩
    (List.Forall₂ (fun o t => v.derive s o.expr = .ok t) b.call.operands b.types ∧
      coalesce.checkSameType none b .probe = .pass ∧ sameTypeAccepts none b.types = false ∧
      ∃ o ∈ b.call.operands, o.expr.isNull false = false ∧ v.derive s o.expr = .ok .null) ∧
    (List.Forall₂ (fun o t => v.derive s o.expr = .ok t) b'.call.operands b'.types ∧
      coalesce.checkSameType none b' .probe = .pass ∧ sameTypeAccepts none b'.types = true) := by
  intro v s coalesce amount empty zero b b'
  have htypes : List.Forall₂ (fun o t => v.derive s o.expr = .ok t) b.call.operands b.types :=
    .cons rfl (.cons rfl .nil)
  have htypes' : List.Forall₂ (fun o t => v.derive s o.expr = .ok t) b'.call.operands b'.types :=
    .cons rfl (.cons rfl .nil)
  have hpass : coalesce.checkSameType none b .probe = .pass := rfl
  have hpass' : coalesce.checkSameType none b' .probe = .pass := rfl
  obtain ⟨hiff, _, hdiffer⟩ := typeList_accepted_iff_call_passed coalesce none v s b htypes
  have hrefused : sameTypeAccepts none b.types = false := by
    rw [Bool.eq_false_iff]
    exact fun haccepted => (hiff.1 haccepted).2 .null (by simp [firstOf, b]) rfl
  refine ⟨⟨htypes, hpass, hrefused, hdiffer hpass hrefused⟩, htypes', hpass', ?_⟩
  refine (typeList_accepted_iff_call_passed coalesce none v s b' htypes').1.2 ⟨hpass', ?_⟩
  simp [firstOf, b']

end Operator

end SqlTyping
