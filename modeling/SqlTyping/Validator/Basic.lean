/-
The validator types expressions from the leaves up. `validate` checks every call on the way and
returns the first refusal, where `derive` gives the type without checking calls; `probe` tells
whether one call type-checks.
-/
import SqlTyping.Validator.Call

namespace SqlTyping

namespace Validator

/-! ## Types with checks -/

/-- The type of a call from the types of its operands, after checking the call. -/
def validatedType (v : Validator) (s : Scope) (c : Call) (types : List SqlType) :
    Except Diagnostic SqlType := do
  match ← v.operatorOf c with
  | some op =>
    let b ← op.bind c types
    op.validateCall v s b
    return op.returns.apply b.types
  | none => return unknownType

mutual

/-- The type of a node at a span and depth, after checking every call in it. -/
def validateAt (v : Validator) (s : Scope) : Expr → Span → Nat → Except Diagnostic SqlType
  | .literal l, span, depth => do
    v.checkDepth depth span
    return l.type
  | .chain fragments, span, depth => do
    v.checkDepth depth span
    return chainType fragments
  | .cast e target, span, depth => do
    v.checkDepth depth span
    return castType (← v.validateAt s e span (depth + 1)) target
  | .column qualifier name, span, depth => do
    v.checkDepth depth span
    s.resolve qualifier name span
  | .call ⟨name, operands, quantifier, place⟩, span, depth => do
    v.checkDepth depth span
    let types ← v.validateOperands s operands (depth + 1)
    v.validatedType s ⟨name, operands, quantifier, place⟩ types
termination_by structural e => e

/-- The types of operands at a depth, from left to right, after checking every call in them. -/
def validateOperands (v : Validator) (s : Scope) :
    List Operand → Nat → Except Diagnostic (List SqlType)
  | [], _ => return []
  | ⟨e, span⟩ :: operands, depth => do
    let type ← v.validateAt s e span depth
    return type :: (← v.validateOperands s operands depth)
termination_by structural operands => operands

end

theorem validateOperands_eq_mapM (v : Validator) (s : Scope) (operands : List Operand)
    (depth : Nat) :
    v.validateOperands s operands depth =
      operands.mapM fun o => v.validateAt s o.expr o.span depth := by
  induction operands with
  | nil => rfl
  | cons o operands ih => rw [validateOperands, ih, List.mapM_cons]

/-- The type of an expression, after checking every call in it. -/
def validate (v : Validator) (s : Scope) (e : Expr) : Except Diagnostic SqlType :=
  v.validateAt s e e.rootSpan 1

/-! ## Probing -/

/-- Whether a call type-checks. It fails only if the call cannot be bound: an unknown function, a
name that does not resolve, or an operand nested too deep. -/
def probe (v : Validator) (s : Scope) (c : Call) : Except Diagnostic Bool := do
  match ← v.operatorOf c with
  | none => return true
  | some op =>
    let types ← v.deriveOperands s c.operands 2
    if op.arity.accepts c.operands.length then
      return op.accepts (v.context s) (← op.bind c types)
    else return false

end Validator

end SqlTyping
