/-
Expressions: literals, chains of adjacent literals, casts, column references and calls. A call
holds its operands with the spans that diagnostics point at.
-/
import SqlTyping.Literal
import SqlTyping.Span

namespace SqlTyping

/-- The set quantifier of a call, as in `COUNT(DISTINCT x)`. -/
inductive Quantifier where
  | distinct
  | all
  deriving DecidableEq

/-- An operand of a call, with its place in the text. -/
structure Argument (ε : Type) where
  expr : ε
  span : Span

/-- A call by name, with its operands in order and its place in the text. -/
structure Invocation (ε : Type) where
  name : String
  operands : List (Argument ε)
  quantifier : Option Quantifier
  span : Span

/-- An SQL expression. -/
inductive Expr where
  | literal (value : Literal)
  | chain (fragments : List Literal)
  | cast (inner : Expr) (target : SqlType)
  | column (qualifier : Option String) (name : String)
  | call (c : Invocation Expr)

/-- A call of an operator, function or aggregate. -/
abbrev Call := Invocation Expr

/-- An operand of such a call. -/
abbrev Operand := Argument Expr

namespace Expr

/-- Induction on an expression, with one hypothesis per operand of a call. -/
@[elab_as_elim, induction_eliminator]
theorem induct {motive : Expr → Prop}
    (literal : ∀ l, motive (.literal l))
    (chain : ∀ fragments, motive (.chain fragments))
    (cast : ∀ e target, motive e → motive (.cast e target))
    (column : ∀ qualifier name, motive (.column qualifier name))
    (call : ∀ c : Call, (∀ o ∈ c.operands, motive o.expr) → motive (.call c))
    (e : Expr) : motive e :=
  @Expr.rec motive (fun c => ∀ o ∈ c.operands, motive o.expr)
    (fun os => ∀ o ∈ os, motive o.expr) (fun o => motive o.expr)
    literal chain cast column call
    (fun _ _ _ _ h => h)
    (fun _ h => nomatch h)
    (fun _ _ ho hos o h => by
      rcases List.mem_cons.1 h with rfl | h
      · exact ho
      · exact hos o h)
    (fun _ _ h => h) e

/-- The expression is the NULL literal; with `underCast`, also if exactly one cast stands on it. -/
def isNull (underCast : Bool) : Expr → Bool
  | .literal .null => true
  | .cast (.literal .null) _ => underCast
  | _ => false

/-- The expression is a single literal. -/
def isLiteral : Expr → Bool
  | .literal _ => true
  | _ => false

/-- The expression is a chain of literals. -/
def isChain : Expr → Bool
  | .chain _ => true
  | _ => false

/-- The call, if the expression is one. -/
def call? : Expr → Option Call
  | .call c => some c
  | _ => none

/-- The span of nodes of the expression that no operand encloses. -/
def rootSpan (e : Expr) : Span :=
  match e.call? with
  | some c => c.span
  | none => .unplaced

end Expr

/-- How an expression looks to a rule that asks for a constant. -/
inductive LiteralClass where
  /-- NULL, bare or under exactly one cast. -/
  | null
  /-- Any other single literal. -/
  | literal
  /-- Adjacent literals. -/
  | chain
  /-- Everything else, two casts on NULL included. -/
  | other
  deriving DecidableEq

/-- The class of an expression. -/
def Expr.literalClass (e : Expr) : LiteralClass :=
  if e.isNull true then .null
  else if e.isLiteral then .literal
  else if e.isChain then .chain
  else .other

end SqlTyping
