/-
Types without checks. The type of an expression follows from its leaves up, from the types of its
columns and the operators that its calls name, whether or not the calls are acceptable. Every node
counts against the depth limit before anything else is looked at, and the operands of a call are
typed from left to right before its operator is looked up. These types, the operators with their
verdicts and the scope are what a rule can ask for when it judges a call.
-/
import SqlTyping.Catalog.Basic
import SqlTyping.Config
import SqlTyping.Operator.Check

namespace SqlTyping

/-- The type of a chain of literals: that of byte strings if it starts with one, else text. -/
def chainType (fragments : List Literal) : SqlType :=
  match fragments.head? with
  | some (.bytes _) => .scalar .bytes
  | _ => .text

/-- The type of a cast: the target, nullable if the operand is. -/
def castType (inner target : SqlType) : SqlType :=
  if inner.isNullable && !target.isNullable then target.orNull else target

/-- The type of a call of an unknown function, where such calls are admitted. -/
def unknownType : SqlType :=
  .nullable .text

/-- A catalog of operators with settings. -/
structure Validator where
  catalog : Catalog
  config : Config

namespace Validator

/-- A node at that depth and span is within the depth limit. -/
def checkDepth (v : Validator) (depth : Nat) (span : Span) : Except Diagnostic Unit :=
  if v.config.maxDepth < depth then .error (.tooDeep v.config.maxDepth span) else .ok ()

/-- The operator of a call; none if it is unknown and unknown functions are admitted. -/
def operatorOf (v : Validator) (c : Call) : Except Diagnostic (Option Operator) :=
  match v.catalog.lookup c.name with
  | some op => .ok (some op)
  | none =>
    if v.config.allowUnknown then .ok none
    else .error (.unknownFunction (Text.upper c.name) c.span)

/-- The operand counts that the operator of a name takes. -/
def arity? (v : Validator) (name : String) : Option Arity :=
  (v.catalog.lookup name).map (·.arity)

/-! ## Types of expressions -/

/-- The type of a call from the types of its operands, without a check. -/
def resultType (v : Validator) (c : Call) (types : List SqlType) : Except Diagnostic SqlType := do
  match ← v.operatorOf c with
  | some op => return op.returns.apply types
  | none => return unknownType

mutual

/-- The type of a node at a span and depth, without checking calls. -/
def deriveAt (v : Validator) (s : Scope) : Expr → Span → Nat → Except Diagnostic SqlType
  | .literal l, span, depth => do
    v.checkDepth depth span
    return l.type
  | .chain fragments, span, depth => do
    v.checkDepth depth span
    return chainType fragments
  | .cast e target, span, depth => do
    v.checkDepth depth span
    return castType (← v.deriveAt s e span (depth + 1)) target
  | .column qualifier name, span, depth => do
    v.checkDepth depth span
    s.resolve qualifier name span
  | .call ⟨name, operands, quantifier, place⟩, span, depth => do
    v.checkDepth depth span
    let types ← v.deriveOperands s operands (depth + 1)
    v.resultType ⟨name, operands, quantifier, place⟩ types
termination_by structural e => e

/-- The types of operands at a depth, from left to right. -/
def deriveOperands (v : Validator) (s : Scope) :
    List Operand → Nat → Except Diagnostic (List SqlType)
  | [], _ => return []
  | ⟨e, span⟩ :: operands, depth => do
    let type ← v.deriveAt s e span depth
    return type :: (← v.deriveOperands s operands depth)
termination_by structural operands => operands

end

theorem deriveOperands_eq_mapM (v : Validator) (s : Scope) (operands : List Operand)
    (depth : Nat) :
    v.deriveOperands s operands depth =
      operands.mapM fun o => v.deriveAt s o.expr o.span depth := by
  induction operands with
  | nil => rfl
  | cons o operands ih => rw [deriveOperands, ih, List.mapM_cons]

/-- The type of an expression, without checking any call in it. -/
def derive (v : Validator) (s : Scope) (e : Expr) : Except Diagnostic SqlType :=
  v.deriveAt s e e.rootSpan 1

/-! ## What rules see -/

/-- What a rule can ask around a call in a scope, where verdicts come from elsewhere. -/
def contextWith (v : Validator) (s : Scope)
    (verdict? : Nat → String → Scope → TypedCall → Mode → Option Verdict) : Context where
  scope := s
  declared? name := (v.catalog.lookup name).map (·.declaration)
  size := v.catalog.size
  derive := v.derive
  verdict? := verdict?

/-- The verdict of the operator of a name, whose rule sees the context of the scope. -/
def verdictIn? (v : Validator) (context : Scope → Context) (name : String) (s : Scope)
    (b : TypedCall) (mode : Mode) : Option Verdict :=
  (v.catalog.lookup name).map (·.check (context s) b mode)

/-- What a rule sees that is asked for a verdict by another rule, with so many levels left. It may
ask for fewer levels than are left, and gets no more of them than there are. -/
def contextAt (v : Validator) : Nat → Scope → Context
  | 0, s => v.contextWith s fun _ _ _ _ _ => none
  | left + 1, s => v.contextWith s fun levels name s' b mode =>
    if levels < left then (v.contextAt left s).verdict? levels name s' b mode
    else v.verdictIn? (v.contextAt left) name s' b mode

/-- What a rule can ask around a call in a scope. -/
def context (v : Validator) (s : Scope) : Context :=
  v.contextWith s fun levels => v.verdictIn? (v.contextAt levels)

end Validator

end SqlTyping
