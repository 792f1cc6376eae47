/-
Operators: a name, a syntactic kind, a rule for the operands and a rule for the type of the result.
Operand rules are of three standard forms, or custom: any verdict on a typed call and on what can be
asked around it, which is its scope, the operators that there are and the types of expressions.
-/
import SqlTyping.Scope

namespace SqlTyping

/-- How an operator is written, and for aggregates whether DISTINCT and ALL may be written. -/
inductive Kind where
  /-- Written `NAME(a, b)`. -/
  | function
  /-- A function of a set of rows. -/
  | aggregate (quantifierAllowed : Bool)
  /-- Written `a op b`. -/
  | binary
  /-- Written `op a`. -/
  | prefixed
  /-- Written `a op`. -/
  | postfixed
  deriving DecidableEq

/-! ## Result types -/

/-- How the type of a call follows from the types of its operands. -/
inductive ReturnRule where
  /-- A truth value, nullable if an operand is. -/
  | boolean
  /-- Always this type. -/
  | fixed (type : SqlType)
  /-- The type of the first operand. -/
  | first
  /-- The type of the first operand, made nullable. -/
  | firstOrNull
  /-- The first type that is not nullable; if all are, the first that is not that of NULL. -/
  | coalesce
  deriving DecidableEq

/-- The type of a call whose operands have these types. -/
def ReturnRule.apply : ReturnRule → List SqlType → SqlType
  | .boolean, types => if types.any (·.isNullable) then .nullable .boolean else .boolean
  | .fixed t, _ => t
  | .first, types => types.headD .null
  | .firstOrNull, types => (types.headD .null).orNull
  | .coalesce, types =>
    match types.find? (!·.isNullable) with
    | some t => t
    | none => (types.find? (· != .null)).getD .null

/-! ## Typed calls and verdicts -/

/-- A call with one type per operand. -/
structure TypedCall where
  call : Call
  types : List SqlType
  aligned : types.length = call.operands.length

/-- The operands with their types. -/
def TypedCall.slots (b : TypedCall) : List (Operand × SqlType) :=
  b.call.operands.zip b.types

/-- Whether a check only answers, or explains a refusal. -/
inductive Mode where
  | probe
  | explain
  deriving DecidableEq

/-- The outcome of a check. -/
inductive Verdict where
  | pass
  | fail
  | rejected (d : Diagnostic)
  deriving DecidableEq

namespace Verdict

/-- Refusal in the given mode. The diagnostic is asked for only where it is wanted: a probe needs
none. -/
def refuseM {m : Type → Type} [Monad m] (mode : Mode) (d : m Diagnostic) : m Verdict :=
  match mode with
  | .probe => return .fail
  | .explain => return .rejected (← d)

/-- Refusal in the given mode with a diagnostic that is at hand. -/
def refuse (mode : Mode) (d : Diagnostic) : Verdict :=
  Id.run (refuseM mode (pure d))

/-- The check was passed. -/
def isPass : Verdict → Bool
  | .pass => true
  | _ => false

/-- The first verdict that is not a pass. -/
def firstRefusal : List Verdict → Verdict
  | [] => .pass
  | v :: vs => if v.isPass then firstRefusal vs else v

theorem isPass_iff (v : Verdict) : v.isPass = true ↔ v = .pass := by
  cases v <;> simp [isPass]

/-- Nothing is refused exactly if every verdict is a pass. -/
theorem firstRefusal_eq_pass (vs : List Verdict) :
    firstRefusal vs = .pass ↔ ∀ v ∈ vs, v = .pass := by
  induction vs with
  | nil => simp [firstRefusal]
  | cons v vs ih =>
    unfold firstRefusal
    by_cases h : v.isPass = true
    · rw [if_pos h, ih, List.forall_mem_cons, isPass_iff v |>.1 h]
      simp
    · rw [if_neg h, List.forall_mem_cons]
      rw [isPass_iff] at h
      simp [h]

end Verdict

/-! ## What rules see -/

/-- An operator as others see it: everything but the verdicts of its rule. -/
structure Declaration where
  name : String
  kind : Kind
  arity : Arity
  returns : ReturnRule
  signatures : String
  deriving DecidableEq

/-- What a rule can ask around the call that it judges. -/
structure Context where
  /-- The scope that the call stands in. -/
  scope : Scope
  /-- The operator of a name, whatever the case of its letters. -/
  declared? : String → Option Declaration
  /-- The number of operators. -/
  size : Nat
  /-- The type of an expression in a scope, without checking any call in it. -/
  derive : Scope → Expr → Except Diagnostic SqlType
  /-- The verdict of the operator of a name, if there is one, on a typed call in a scope. The rule
  that is asked may ask for verdicts in turn, so many levels deep; below these it has no answer. -/
  verdict? : Nat → String → Scope → TypedCall → Mode → Option Verdict

/-! ## Operand rules -/

/-- A rule of one's own: the counts it takes, its verdict on a typed call of its operator, and the
text of the forms it takes. The verdict may depend on all that can be seen from the call: the call
with its types, the operator, the scope with its names and its say on aggregates, and what the
validator answers, which are the other operators, the types of expressions under the settings in
force, and the verdicts of rules. A rule says how deep verdicts may go, as one that asks for its own
verdict without end has none. -/
structure CustomRule where
  arity : Arity
  verdict : Context → Declaration → TypedCall → Mode → Verdict
  signatures : Kind → String → String

/-- What an operator asks of its operands. -/
inductive Rule where
  /-- All operands comparable; so many operands, or any number. -/
  | sameType (count : Option Nat)
  /-- One operand, a literal; NULL only if allowed. -/
  | literal (allowNull : Bool)
  /-- One operand of each family, in order. -/
  | families (families : List Family)
  /-- A rule of one's own. -/
  | custom (rule : CustomRule)

/-- The operand counts that the rule takes. -/
def Rule.arity : Rule → Arity
  | .sameType (some n) => .exactly n
  | .sameType none => .any
  | .literal _ => .exactly 1
  | .families fs => .exactly fs.length
  | .custom r => r.arity

/-- The rule is one of the three standard forms. -/
def Rule.isStandard : Rule → Bool
  | .custom _ => false
  | _ => true

/-! ## Operators -/

/-- An operator, function or aggregate. -/
structure Operator where
  name : String
  kind : Kind
  rule : Rule
  returns : ReturnRule

namespace Operator

/-- The operator of that name, which is kept in upper case. -/
def make (name : String) (kind : Kind) (rule : Rule) (returns : ReturnRule) : Operator :=
  ⟨Text.upper name, kind, rule, returns⟩

/-- An aggregate without DISTINCT and ALL; any other operator stays. -/
def withoutQuantifier (op : Operator) : Operator :=
  match op.kind with
  | .aggregate _ => { op with kind := .aggregate false }
  | _ => op

/-- The operator is an aggregate. -/
def isAggregate (op : Operator) : Bool :=
  match op.kind with
  | .aggregate _ => true
  | _ => false

/-- DISTINCT and ALL may be written on calls of the operator. -/
def quantifierAllowed (op : Operator) : Bool :=
  op.kind == .aggregate true

/-- The operand counts that the operator takes. -/
def arity (op : Operator) : Arity :=
  op.rule.arity

/-- The call with the types of its operands, of which there must be one each. -/
def bind (op : Operator) (call : Call) (types : List SqlType) : Except Diagnostic TypedCall :=
  if aligned : types.length = call.operands.length then .ok ⟨call, types, aligned⟩
  else .error (.invalidValue (.typeCount types.length call.operands.length op.name))

end Operator

end SqlTyping
