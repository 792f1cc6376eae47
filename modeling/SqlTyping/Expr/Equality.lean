/-
Sameness of expressions: the same tree with the same names, types, quantifiers and spans, whose
literals have the same values. It is coarser than equality only at decimals of different scale.
-/
import SqlTyping.Expr.Basic

namespace SqlTyping.Expr

/-- The two chains have the same literals, one by one. -/
def sameFragments : List Literal → List Literal → Bool
  | [], [] => true
  | a :: as, b :: bs => a.same b && sameFragments as bs
  | _, _ => false

mutual

/-- The two expressions are the same up to the scale of decimal literals. -/
def same : Expr → Expr → Bool
  | .literal a, .literal b => a.same b
  | .chain as, .chain bs => sameFragments as bs
  | .cast a t, .cast b u => a.same b && t == u
  | .column q n, .column r m => q == r && n == m
  | .call ⟨n, os, q, s⟩, .call ⟨m, ps, r, t⟩ => n == m && sameOperands os ps && q == r && s == t
  | _, _ => false
termination_by structural e => e

/-- The two operand lists are the same, one by one, with the same spans. -/
def sameOperands : List Operand → List Operand → Bool
  | [], [] => true
  | ⟨a, s⟩ :: os, ⟨b, t⟩ :: ps => a.same b && s == t && sameOperands os ps
  | _, _ => false
termination_by structural os => os

end

end SqlTyping.Expr
