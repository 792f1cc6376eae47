/-
Expressions of one shape. Two expressions correspond if they differ at their calls only, and every
call of one and the call in its place in the other are related; operands have the same spans. Every
expression corresponds to itself if its calls are related to themselves, and the calls of
expressions that correspond are related one by one.
-/
import Mathlib.Data.List.Forall2
import SqlTyping.Proofs.Expr.Sites

namespace SqlTyping

/-- Operands at one span, whose expressions are related. -/
inductive AtOneSpan (R : Expr → Expr → Prop) : Operand → Operand → Prop
  | mk {e e' : Expr} (span : Span) : R e e' → AtOneSpan R ⟨e, span⟩ ⟨e', span⟩

theorem AtOneSpan.span_eq {R : Expr → Expr → Prop} {o o' : Operand} (h : AtOneSpan R o o') :
    o.span = o'.span := by
  cases h; rfl

theorem AtOneSpan.expr {R : Expr → Expr → Prop} {o o' : Operand} (h : AtOneSpan R o o') :
    R o.expr o'.expr := by
  cases h; assumption

namespace Expr

/-- The calls of two calls are related one by one if they are and those of their operands are. -/
theorem calls_call_related {Q : Call → Call → Prop} {R : Expr → Expr → Prop} {c c' : Call}
    (hQ : Q c c') (hoperands : List.Forall₂ (AtOneSpan R) c.operands c'.operands)
    (h : ∀ o ∈ c.operands, ∀ e', R o.expr e' → List.Forall₂ Q o.expr.calls e'.calls) :
    List.Forall₂ Q (Expr.call c).calls (Expr.call c').calls := by
  have hbelow := (List.forall₂_and_left _ _).2 ⟨h, hoperands⟩
  rw [calls_call, calls_call]
  exact .cons hQ (List.rel_flatMap hbelow fun o o' ho => ho.1 o'.expr ho.2.expr)

/-- The expressions have one shape, and their calls are related. -/
inductive Corresponds (Q : Call → Call → Prop) : Expr → Expr → Prop
  | literal (l : Literal) : Corresponds Q (.literal l) (.literal l)
  | chain (fragments : List Literal) : Corresponds Q (.chain fragments) (.chain fragments)
  | cast {e e' : Expr} (target : SqlType) :
      Corresponds Q e e' → Corresponds Q (.cast e target) (.cast e' target)
  | column (qualifier : Option String) (name : String) :
      Corresponds Q (.column qualifier name) (.column qualifier name)
  | call {c c' : Call} :
      Q c c' → List.Forall₂ (AtOneSpan (Corresponds Q)) c.operands c'.operands →
      Corresponds Q (.call c) (.call c')

namespace Corresponds

variable {Q : Call → Call → Prop} {e e' : Expr} {c c' : Call}

theorem calls_related (h : Corresponds Q (.call c) (.call c')) : Q c c' := by
  cases h; assumption

theorem operands (h : Corresponds Q (.call c) (.call c')) :
    List.Forall₂ (AtOneSpan (Corresponds Q)) c.operands c'.operands := by
  cases h; assumption

theorem refl (h : ∀ c ∈ e.calls, Q c c) : Corresponds Q e e := by
  induction e with
  | literal l => exact .literal l
  | chain fragments => exact .chain fragments
  | cast e target ih => exact .cast target (ih h)
  | column qualifier name => exact .column qualifier name
  | call c ih =>
    rw [calls_call, List.forall_mem_cons] at h
    refine .call h.1 (List.forall₂_same.2 fun o ho => ⟨o.span, ih o ho fun d hd => ?_⟩)
    exact h.2 d (List.mem_flatMap.2 ⟨o, ho, hd⟩)

theorem isNull_eq (h : Corresponds Q e e') (underCast : Bool) :
    e.isNull underCast = e'.isNull underCast := by
  cases h with
  | cast target h => cases h <;> rfl
  | _ => rfl

theorem literalClass_eq (h : Corresponds Q e e') : e.literalClass = e'.literalClass := by
  have hliteral : e.isLiteral = e'.isLiteral := by cases h <;> rfl
  have hchain : e.isChain = e'.isChain := by cases h <;> rfl
  unfold literalClass
  rw [h.isNull_eq, hliteral, hchain]

/-- The calls are related one by one, in pre-order. -/
theorem calls (h : Corresponds Q e e') : List.Forall₂ Q e.calls e'.calls := by
  induction e generalizing e' with
  | literal l => cases h; exact .nil
  | chain fragments => cases h; exact .nil
  | cast e target ih =>
    cases h with
    | cast _ h =>
      have hinner := ih h
      exact hinner
  | column qualifier name => cases h; exact .nil
  | call c ih =>
    cases h with
    | call hQ hoperands => exact calls_call_related hQ hoperands fun o ho _ he => ih o ho he

end Corresponds

end Expr

end SqlTyping
