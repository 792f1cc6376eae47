/-
Checking the operands of a typed call against the rule of its operator. The same-type rule refuses
the first bare NULL, then a pair of neighbours that cannot be compared; the literal rule looks at
the first operand alone; the family rule goes through the operands in order.
-/
import SqlTyping.Operator.Signature
import SqlTyping.SqlType.Comparable

namespace SqlTyping

/-! ## The same-type rule -/

/-- The part of a list that a rule for so many operands looks at; without a count, all of it. -/
def firstOf {α : Type} : Option Nat → List α → List α
  | some n, xs => xs.take n
  | none, xs => xs

/-- Each type can be compared with the one before it. -/
def neighboursComparable : List SqlType → Bool
  | t :: u :: types => u.comparable t && neighboursComparable (u :: types)
  | _ => true

/-- The same-type rule on types alone, where the type of NULL counts as a bare NULL. -/
def sameTypeAccepts (count : Option Nat) (types : List SqlType) : Bool :=
  let types := firstOf count types
  !types.contains .null && neighboursComparable types

namespace Operator

/-- The same-type rule on a typed call. -/
def checkSameType (op : Operator) (count : Option Nat) (b : TypedCall) (mode : Mode) : Verdict :=
  match (firstOf count b.call.operands).zipIdx.find? (·.1.expr.isNull false) with
  | some (operand, i) => .refuse mode (.nullOperand op.name i operand.span)
  | none =>
    if neighboursComparable (firstOf count b.types) then .pass
    else .refuse mode (.notComparable op.name b.call.span)

/-! ## The literal rule -/

/-- The literal rule on one operand, which stands at position `formal`. -/
def literalVerdict {m : Type → Type} [Monad m] (op : Operator) (allowNull : Bool)
    (operand : Operand) (formal : Nat) (mode : Mode) : m Verdict :=
  match operand.expr.literalClass with
  | .null =>
    if allowNull then return .pass
    else Verdict.refuseM mode (pure (.nullLiteral op.name formal operand.span))
  | .literal | .chain => return .pass
  | .other => Verdict.refuseM mode (pure (.notLiteral op.name formal operand.span))

/-- The literal rule on one operand, where nothing can fail. -/
def checkLiteral (op : Operator) (allowNull : Bool) (operand : Operand) (formal : Nat)
    (mode : Mode) : Verdict :=
  Id.run (op.literalVerdict allowNull operand formal mode)

/-- The literal rule on a typed call. -/
def checkFirstLiteral (op : Operator) (allowNull : Bool) (b : TypedCall) (mode : Mode) : Verdict :=
  match b.call.operands.head? with
  | some operand => op.checkLiteral allowNull operand 0 mode
  | none => .refuse mode (op.signatureMismatch b)

/-! ## The family rule -/

/-- The family rule on one operand, whatever operand is put at position `formal`. The type at that
position and the refusal for a mismatch are asked for only where they are needed. -/
def familyVerdict {m : Type → Type} [Monad m] (op : Operator) (families : List Family)
    (type : m SqlType) (mismatch : m Diagnostic) (operand : Operand) (formal : Nat) (mode : Mode) :
    m Verdict :=
  match families[formal]? with
  | none => Verdict.refuseM mode mismatch
  | some .any => return .pass
  | some family =>
    if operand.expr.isNull false then
      Verdict.refuseM mode (pure (.nullOperand op.name formal operand.span))
    else do
      if family.contains (← type) then return .pass
      Verdict.refuseM mode mismatch

/-- The family rule on an operand of a typed call with its type and position. -/
def checkFamily (op : Operator) (families : List Family) (b : TypedCall)
    (slot : Operand × SqlType) (formal : Nat) (mode : Mode) : Verdict :=
  Id.run (op.familyVerdict families (pure slot.2) (pure (op.signatureMismatch b)) slot.1 formal
    mode)

/-- The family rule on a typed call: the first operand that is refused decides. -/
def checkFamilies (op : Operator) (families : List Family) (b : TypedCall) (mode : Mode) :
    Verdict :=
  .firstRefusal (b.slots.zipIdx.map fun (slot, i) => op.checkFamily families b slot i mode)

/-! ## All rules -/

/-- The verdict of the operator's rule on a typed call in a context. -/
def check (op : Operator) (k : Context) (b : TypedCall) (mode : Mode) : Verdict :=
  match op.rule with
  | .sameType count => op.checkSameType count b mode
  | .literal allowNull => op.checkFirstLiteral allowNull b mode
  | .families families => op.checkFamilies families b mode
  | .custom r => r.verdict k op.declaration b mode

/-- The operand types are acceptable; a refusal is not explained. -/
def accepts (op : Operator) (k : Context) (b : TypedCall) : Bool :=
  (op.check k b .probe).isPass

/-- The operand types are acceptable; a refusal without a diagnostic is a mismatch of signatures. -/
def demand (op : Operator) (k : Context) (b : TypedCall) : Except Diagnostic Unit :=
  match op.check k b .explain with
  | .pass => .ok ()
  | .fail => .error (op.signatureMismatch b)
  | .rejected d => .error d

/-- What a check answers in a mode. A probe is answered with yes or no; where a refusal is to be
explained it is an error, a mismatch of signatures if the check has no diagnostic for it. -/
def answer (op : Operator) (check : TypedCall → Mode → Verdict) (b : TypedCall) (mode : Mode) :
    Except Diagnostic Bool :=
  match check b mode, mode with
  | .pass, _ => .ok true
  | .fail, .probe | .rejected _, .probe => .ok false
  | .fail, .explain => .error (op.signatureMismatch b)
  | .rejected d, .explain => .error d

theorem answer_probe (op : Operator) (k : Context) (b : TypedCall) :
    op.answer (op.check k) b .probe = .ok (op.accepts k b) := by
  unfold answer accepts
  cases op.check k b .probe <;> rfl

theorem answer_explain (op : Operator) (k : Context) (b : TypedCall) :
    op.answer (op.check k) b .explain = (op.demand k b).map fun _ => true := by
  unfold answer demand
  cases op.check k b .explain <;> rfl

/-- The number of operands is within the operator's arity. -/
def checkCount (op : Operator) (call : Call) : Except Diagnostic Unit :=
  if op.arity.accepts call.operands.length then .ok ()
  else .error (.wrongCount op.name op.arity call.operands.length call.span)

end Operator

end SqlTyping
