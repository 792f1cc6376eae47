/-
Typing with checks against typing without. The two are separate walks over the expression; they
give the same result, type or refusal, unless typing with checks ends with the refusal of one call
at its gates. That call is registered, all its operands are valid, and it is bound to the types
that its operands have without checks.
-/
import SqlTyping.Catalog.Builtin
import SqlTyping.Proofs.Scope
import SqlTyping.Proofs.Validator.Walk

namespace SqlTyping

open SqlTyping.Expr Outcome Walk

namespace Validator

variable {v : Validator} {s : Scope}

/-! ## One call -/

/-- A call that is typed with checks has the same type without. -/
theorem resultType_of_validatedType {c : Call} {types : List SqlType} {t : SqlType}
    (h : v.validatedType s c types = .ok t) : v.resultType c types = .ok t := by
  obtain ⟨op?, hop, h⟩ := bind_eq_ok.1 h
  obtain ⟨hk, hlookup⟩ := operatorOf_eq_ok.1 hop
  refine resultType_eq_ok.2 ⟨hk, ?_⟩
  unfold callType
  rw [hlookup]
  cases op? with
  | none => exact pure_eq_ok.1 h
  | some op =>
    obtain ⟨b, hb, h⟩ := bind_eq_ok.1 h
    obtain ⟨_, _, h⟩ := bind_eq_ok.1 h
    unfold Operator.bind at hb
    split at hb
    · cases hb; exact pure_eq_ok.1 h
    · cases hb

/-- A call of whose operands the types are known is bound without fail. -/
theorem bind_of_operandTypes {f : TypingFn} {c : Call} {depth : Nat} {types : List SqlType}
    (h : OperandTypes f c.operands depth types) (op : Operator) :
    ∃ b, op.bind c types = .ok b ∧ b.call = c ∧ b.types = types :=
  ⟨⟨c, types, h.length_eq⟩, bind_typed op ⟨c, types, h.length_eq⟩, rfl, rfl⟩

/-! ## Whole expressions -/

theorem deriveAt_of_validateAt {e : Expr} {span : Span} {depth : Nat} {t : SqlType}
    (h : v.validateAt s e span depth = .ok t) : v.deriveAt s e span depth = .ok t :=
  (v.validateAt_walks s).ok_mono (v.deriveAt_walks s) (fun _ _ _ _ h => h)
    (fun _ _ _ => resultType_of_validatedType) (Nat.le_refl _) h

/-- A registered call at the site, all of whose operands are valid, is refused with the diagnostic
by the gates of its operator, bound to the types of its operands without checks. -/
def GateRefuses (v : Validator) (s : Scope) (x : Site) (d : Diagnostic) : Prop :=
  ∃ op b, x.node = .call b.call ∧ v.catalog.lookup b.call.name = some op ∧
    v.validateOperands s b.call.operands (x.depth + 1) = .ok b.types ∧
    v.deriveOperands s b.call.operands (x.depth + 1) = .ok b.types ∧
    op.validateCall v s b = .error d

/-- Where typing with checks refuses a call that typing without does not, the gates refuse it. -/
theorem gateRefuses_of_refuses {x : Site} {d : Diagnostic}
    (h : Walks.Refuses (v.validation s) (v.derivation s) (v.validateAt s) (v.deriveAt s) x d) :
    v.GateRefuses s x d := by
  obtain ⟨c, types, hx, hv, hd, hrefused, hother⟩ := h
  let b : TypedCall := ⟨c, types, hv.length_eq⟩
  rcases @validatedType_eq_error v s d b hrefused with h | ⟨op, hop, hgate⟩
  · exact absurd h hother
  · exact ⟨op, b, hx, hop, validateOperands_eq_ok.2 hv, deriveOperands_eq_ok.2 hd, hgate⟩

/-- Typing with checks gives the same result as typing without, or ends with the refusal of a
registered call at its gates. So an expression that is accepted has its type without checks, one
that has no type without checks is not accepted, and no call of the expression fails to be bound on
the way. -/
theorem validate_eq_derive_or_gateRefuses (v : Validator) (s : Scope) (e : Expr) :
    (v.validate s e = v.derive s e ∨
      ∃ d, (∃ x ∈ e.sites e.rootSpan 1, v.GateRefuses s x d) ∧ v.validate s e = .error d) ∧
    (∀ t, v.validate s e = .ok t → v.derive s e = .ok t) ∧
    (∀ d, v.derive s e = .error d → ∃ d', v.validate s e = .error d') ∧
    ∀ x ∈ e.sites e.rootSpan 1, ∀ c op types, x.node = .call c →
      v.catalog.lookup c.name = some op →
      v.validateOperands s c.operands (x.depth + 1) = .ok types →
      ∃ b, op.bind c types = .ok b ∧ b.call = c ∧ b.types = types := by
  have hcalls : ∀ c ∈ e.calls, ∀ types, v.validatedType s c types = v.resultType c types ∨
      ∃ d, v.validatedType s c types = .error d := by
    intro c _ types
    rcases ok_or_error (v.validatedType s c types) with ⟨t, h⟩ | h
    · exact .inl (by rw [h, resultType_of_validatedType h])
    · exact .inr h
  refine ⟨?_, fun t h => deriveAt_of_validateAt h, fun d h => ?_, ?_⟩
  · rcases (v.validateAt_walks s).eq_or_refuses (v.deriveAt_walks s) rfl rfl hcalls e.rootSpan 1
      with h | ⟨d, ⟨x, hx, hd⟩, h⟩
    · exact .inl h
    · exact .inr ⟨d, ⟨x, hx, gateRefuses_of_refuses hd⟩, h⟩
  · rcases ok_or_error (v.validate s e) with ⟨t, ht⟩ | h'
    · have hd : v.derive s e = .ok t := deriveAt_of_validateAt ht
      rw [h] at hd; cases hd
    · exact h'
  · intro x _ c op types _ _ htypes
    exact bind_of_operandTypes (validateOperands_eq_ok.1 htypes) op

/-- An aggregate among the conditions on rows has a type and is refused at its gates. -/
theorem gateRefuses_total_in_where :
    let v : Validator := ⟨.builtin, .standard⟩
    let s := (Orders.scope .whereRows).toScope
    v.derive s (.call Orders.totalOrZero) = .ok .bigint ∧
      ∃ x ∈ (Expr.call Orders.totalOrZero).sites Orders.totalOrZero.span 1,
        v.GateRefuses s x (.aggregateInWhere "SUM" Orders.total.span) := by
  intro v s
  have hderive : v.derive s (.call Orders.totalOrZero) = .ok .bigint := rfl
  have hvalidate : v.validate s (.call Orders.totalOrZero) =
      .error (.aggregateInWhere "SUM" Orders.total.span) := rfl
  refine ⟨hderive, ?_⟩
  rcases (validate_eq_derive_or_gateRefuses v s (.call Orders.totalOrZero)).1 with h | ⟨d, hx, h⟩
  · rw [hvalidate, hderive] at h; cases h
  · rw [hvalidate] at h; cases h; exact hx

end Validator

end SqlTyping
