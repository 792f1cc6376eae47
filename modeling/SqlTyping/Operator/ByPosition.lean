/-
The checks by position. Here operands, types and parts of templates are read at positions, which the
checks compute from their own settings; a read outside of the list or text has no answer (`none`),
and so has a check that makes such a read. A diagnostic is only made where it is wanted, so a probe
does not read what its text needs.
-/
import SqlTyping.Validator.Call

namespace SqlTyping

/-! ## Reads and writes at positions -/

/-- The first of the positions that passes the test. -/
def firstAt? (test : Nat → Option Bool) : List Nat → Option (Option Nat)
  | [] => return none
  | i :: positions => do
    if ← test i then return some i
    firstAt? test positions

/-- The part of a text from one position up to another. -/
def slice? (text : List Char) (first last : Nat) :
    Option { part : List Char // first + part.length = last } :=
  if h : first ≤ last ∧ last ≤ text.length then
    some ⟨(text.take last).drop first, by simp; omega⟩
  else none

/-- The list with another element at a position. -/
def replaceAt? {α : Type} (xs : List α) (i : Nat) (x : α) : Option (List α) :=
  if i < xs.length then some (xs.set i x) else none

/-! ## Signatures -/

/-- The text of a template with values in its places, found by the positions of the braces. -/
def Template.fillAt? (values : List String) (text : List Char) : Option (List Char) :=
  match text.findIdx? (· == '\x7b') with
  | none => return text
  | some opening => do
    let ⟨before, _⟩ ← slice? text 0 opening
    let ⟨after, _⟩ ← slice? text (opening + 1) text.length
    match after.findIdx? (· == '\x7d') with
    | none =>
      let ⟨unclosed, _⟩ ← slice? text opening text.length
      return before ++ unclosed
    | some closing =>
      let ⟨inside, _⟩ ← slice? after 0 closing
      let filled ← match (index? inside).bind (values[·]?) with
        | some value => some value.toList
        | none => (slice? text opening (opening + closing + 2)).map (·.1)
      let ⟨rest, _⟩ ← slice? after (closing + 1) after.length
      return before ++ filled ++ (← fillAt? values rest)
termination_by text.length
decreasing_by omega

/-- The text of a call by that name with operands of these types. -/
def Kind.signatureAt? (kind : Kind) (name : String) (types : List String) : Option String :=
  let operands := types.map placeholder
  match kind.template? types.length with
  | some template =>
    (Template.fillAt? (name :: operands) template.source.toList).map String.ofList
  | none => return name ++ "(" ++ ", ".intercalate operands ++ ")"

/-- The number of operands that are shown of a rule that takes any number. -/
def shownOperands : Nat := 3

/-- The forms that a rule takes. The ellipsis replaces the last of the operands that are shown. -/
def Rule.signaturesAt? (kind : Kind) (name : String) : Rule → Option String
  | .sameType count => do
    let shown := List.replicate (count.getD shownOperands) "EQUIVALENT_TYPE"
    match count with
    | some _ => kind.signatureAt? name shown
    | none => kind.signatureAt? name (← replaceAt? shown (shownOperands - 1) ellipsis)
  | .literal _ => return "<LITERAL>"
  | .families fs => kind.signatureAt? name (fs.map (·.toText))
  | .custom r => return r.signatures kind name

namespace Operator

/-- The refusal of a call whose operand types fit no form of the operator. -/
def signatureMismatchAt? (op : Operator) (b : TypedCall) : Option Diagnostic := do
  let actual ← op.kind.signatureAt? op.name (b.types.map (·.toText))
  let allowed ← op.rule.signaturesAt? op.kind op.name
  return .signatureMismatch op.name ("'" ++ actual ++ "'") ("'" ++ allowed ++ "'") b.call.span

/-! ## Rules -/

/-- The type at a position cannot be compared with the one before it. -/
def differsAt? (types : List SqlType) (i : Nat) : Option Bool := do
  return !(← types[i]?).comparable (← types[i - 1]?)

/-- The same-type rule on a typed call: the operands that count are read one by one, and then their
types in pairs of neighbours. -/
def checkSameTypeAt? (op : Operator) (count : Option Nat) (b : TypedCall) (mode : Mode) :
    Option Verdict := do
  let operands := b.call.operands
  let n := min (count.getD operands.length) operands.length
  match ← firstAt? (fun i => operands[i]?.map (·.expr.isNull false)) (List.range n) with
  | some i => Verdict.refuseM mode (operands[i]?.map fun o => .nullOperand op.name i o.span)
  | none =>
    match ← firstAt? (differsAt? b.types) (List.range' 1 (n - 1)) with
    | some _ => Verdict.refuseM mode (some (.notComparable op.name b.call.span))
    | none => return .pass

/-- The literal rule on one operand, which stands at position `formal`. -/
def checkLiteralAt? (op : Operator) (allowNull : Bool) (operand : Operand) (formal : Nat)
    (mode : Mode) : Option Verdict :=
  op.literalVerdict allowNull operand formal mode

/-- The literal rule on a typed call. -/
def checkFirstLiteralAt? (op : Operator) (allowNull : Bool) (b : TypedCall) (mode : Mode) :
    Option Verdict :=
  match b.call.operands.head? with
  | some operand => op.checkLiteralAt? allowNull operand 0 mode
  | none => Verdict.refuseM mode (op.signatureMismatchAt? b)

/-- The family rule on one operand at position `formal`, whatever operand stands there. -/
def checkFamilyAt? (op : Operator) (families : List Family) (b : TypedCall) (operand : Operand)
    (formal : Nat) (mode : Mode) : Option Verdict :=
  op.familyVerdict families b.types[formal]? (op.signatureMismatchAt? b) operand formal mode

/-- The family rule on operands with their positions: the first that is refused decides. -/
def checkFamiliesFrom? (op : Operator) (families : List Family) (b : TypedCall) (mode : Mode) :
    List (Operand × Nat) → Option Verdict
  | [] => return .pass
  | (operand, i) :: rest => do
    let verdict ← op.checkFamilyAt? families b operand i mode
    if verdict.isPass then op.checkFamiliesFrom? families b mode rest else return verdict

/-- The family rule on a typed call. -/
def checkFamiliesAt? (op : Operator) (families : List Family) (b : TypedCall) (mode : Mode) :
    Option Verdict :=
  op.checkFamiliesFrom? families b mode b.call.operands.zipIdx

/-! ## Gates -/

/-- The verdict of the operator's rule on a typed call. A rule of one's own makes its own reads. -/
def checkAt? (op : Operator) (k : Context) (b : TypedCall) (mode : Mode) : Option Verdict :=
  match op.rule with
  | .sameType count => op.checkSameTypeAt? count b mode
  | .literal allowNull => op.checkFirstLiteralAt? allowNull b mode
  | .families families => op.checkFamiliesAt? families b mode
  | .custom r => return r.verdict k op.declaration b mode

/-- What a check answers in a mode. -/
def answerAt? (op : Operator) (check : TypedCall → Mode → Option Verdict) (b : TypedCall)
    (mode : Mode) : Option (Except Diagnostic Bool) := do
  match ← check b mode, mode with
  | .pass, _ => return .ok true
  | .fail, .probe | .rejected _, .probe => return .ok false
  | .fail, .explain => return .error (← op.signatureMismatchAt? b)
  | .rejected d, .explain => return .error d

/-- The typed call as a call of the operator, and of an aggregate if the operator is one. -/
def validateCallAt? (op : Operator) (v : Validator) (scope : Scope) (b : TypedCall) :
    Option (Except Diagnostic Unit) := do
  if b.call.quantifier.isSome && !op.isAggregate then
    return .error (.quantifierNotAllowed op.name b.call.span)
  match op.checkCount b.call with
  | .error d => return .error d
  | .ok () =>
    match ← op.answerAt? (op.checkAt? (v.context scope)) b .explain with
    | .error d => return .error d
    | .ok false => return .error (← op.signatureMismatchAt? b)
    | .ok true =>
      return if op.isAggregate then op.validateAggregate v.catalog scope b.call else .ok ()

end Operator

end SqlTyping
