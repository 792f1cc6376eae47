/-
Sameness of expressions as a relation with one rule per kind of node. Expressions that are the same
have one root span, look the same to rules that ask for NULL or a constant, and have their calls
in the same places, under the same names.
-/
import SqlTyping.Expr.Equality
import SqlTyping.Proofs.Expr.Correspondence

namespace SqlTyping

/-- Literals of one value are equal, or decimals of one value. -/
theorem Literal.same_cases {a b : Literal} (h : a.same b = true) :
    a = b ∨ ∃ d d', a = .decimal d ∧ b = .decimal d' ∧ d.sameValue d' = true := by
  unfold Literal.same at h
  split at h
  · exact .inr ⟨_, _, rfl, rfl, h⟩
  · exact .inl (eq_of_beq h)

namespace Expr

/-- The expressions are the same tree, with literals of the same values. -/
inductive Same : Expr → Expr → Prop
  | literal {a b : Literal} : a.same b = true → Same (.literal a) (.literal b)
  | chain {as bs : List Literal} :
      List.Forall₂ (fun a b => a.same b = true) as bs → Same (.chain as) (.chain bs)
  | cast {e e' : Expr} (target : SqlType) : Same e e' → Same (.cast e target) (.cast e' target)
  | column (qualifier : Option String) (name : String) :
      Same (.column qualifier name) (.column qualifier name)
  | call {c c' : Call} :
      c.name = c'.name → c.quantifier = c'.quantifier → c.span = c'.span →
      List.Forall₂ (AtOneSpan Same) c.operands c'.operands → Same (.call c) (.call c')

/-! ## The test decides the relation -/

theorem sameFragments_iff {as bs : List Literal} :
    sameFragments as bs = true ↔ List.Forall₂ (fun a b => a.same b = true) as bs := by
  induction as generalizing bs with
  | nil => cases bs <;> simp [sameFragments]
  | cons a as ih => cases bs <;> simp [sameFragments, ih]

theorem sameOperands_iff {os ps : List Operand}
    (h : ∀ o ∈ os, ∀ e, o.expr.same e = true ↔ Same o.expr e) :
    sameOperands os ps = true ↔ List.Forall₂ (AtOneSpan Same) os ps := by
  induction os generalizing ps with
  | nil => cases ps <;> simp [sameOperands]
  | cons o os ih =>
    cases ps with
    | nil => simp [sameOperands]
    | cons p ps =>
      obtain ⟨ho, hos⟩ := List.forall_mem_cons.1 h
      rw [sameOperands, Bool.and_eq_true, Bool.and_eq_true, beq_iff_eq, ho, ih hos,
        List.forall₂_cons]
      refine and_congr_left fun _ => ⟨?_, fun h => ⟨h.expr, h.span_eq⟩⟩
      obtain ⟨e, span⟩ := o
      obtain ⟨e', span'⟩ := p
      rintro ⟨he, rfl⟩
      exact ⟨span, he⟩

/-- The test for sameness decides it. -/
theorem same_iff {e e' : Expr} : e.same e' = true ↔ Same e e' := by
  induction e generalizing e' with
  | literal a =>
    cases e' with
    | literal b => exact ⟨.literal, fun h => by cases h; assumption⟩
    | _ => exact ⟨nofun, nofun⟩
  | chain as =>
    cases e' with
    | chain bs =>
      rw [same, sameFragments_iff]
      exact ⟨.chain, fun h => by cases h; assumption⟩
    | _ => exact ⟨nofun, nofun⟩
  | cast e target ih =>
    cases e' with
    | cast e' target' =>
      rw [same, Bool.and_eq_true, beq_iff_eq, ih]
      constructor
      · rintro ⟨he, rfl⟩; exact .cast target he
      · intro h; cases h; exact ⟨by assumption, rfl⟩
    | _ => exact ⟨nofun, nofun⟩
  | column qualifier name =>
    cases e' with
    | column qualifier' name' =>
      rw [same, Bool.and_eq_true, beq_iff_eq, beq_iff_eq]
      constructor
      · rintro ⟨rfl, rfl⟩; exact .column qualifier name
      · intro h; cases h; exact ⟨rfl, rfl⟩
    | _ => exact ⟨nofun, nofun⟩
  | call c ih =>
    cases e' with
    | call c' =>
      simp only [same, Bool.and_eq_true, beq_iff_eq, sameOperands_iff fun o ho _ => ih o ho]
      constructor
      · rintro ⟨⟨⟨hname, hoperands⟩, hquantifier⟩, hspan⟩
        exact .call hname hquantifier hspan hoperands
      · intro h
        cases h with
        | call hname hquantifier hspan hoperands =>
          exact ⟨⟨⟨hname, hoperands⟩, hquantifier⟩, hspan⟩
    | _ => exact ⟨nofun, nofun⟩

/-! ## What the same expressions share -/

namespace Same

variable {e e' : Expr}

theorem rootSpan_eq (h : Same e e') : e.rootSpan = e'.rootSpan := by
  cases h with
  | call _ _ hspan _ => exact hspan
  | _ => rfl

theorem isNull_eq (h : Same e e') (underCast : Bool) :
    e.isNull underCast = e'.isNull underCast := by
  cases h with
  | literal h => rcases Literal.same_cases h with rfl | ⟨d, d', rfl, rfl, _⟩ <;> rfl
  | cast target h =>
    cases h with
    | literal h => rcases Literal.same_cases h with rfl | ⟨d, d', rfl, rfl, _⟩ <;> rfl
    | _ => rfl
  | _ => rfl

theorem literalClass_eq (h : Same e e') : e.literalClass = e'.literalClass := by
  have hliteral : e.isLiteral = e'.isLiteral := by cases h <;> rfl
  have hchain : e.isChain = e'.isChain := by cases h <;> rfl
  unfold literalClass
  rw [h.isNull_eq, hliteral, hchain]

/-- A relation between calls of one name, quantifier and span relates the calls one by one, in
pre-order. -/
theorem calls {Q : Call → Call → Prop}
    (hQ : ∀ c c', c.name = c'.name → c.quantifier = c'.quantifier → c.span = c'.span → Q c c')
    (h : Same e e') : List.Forall₂ Q e.calls e'.calls := by
  induction e generalizing e' with
  | literal a => cases h; exact .nil
  | chain as => cases h; exact .nil
  | cast e target ih =>
    cases h with
    | cast _ h =>
      have hinner := ih h
      exact hinner
  | column qualifier name => cases h; exact .nil
  | call c ih =>
    cases h with
    | call hname hquantifier hspan hoperands =>
      exact calls_call_related (hQ _ _ hname hquantifier hspan) hoperands fun o ho _ he => ih o ho he

end Same

end Expr

end SqlTyping
