/-
Signatures: the text of an operator applied to types, `<INT> = <INT>` or `F(<INT>, <DATE>)`. Binary,
prefix and postfix operators with the right number of operands are written by a template, everything
else as a function. A template is a text with the indices of values in braces. It is filled in one
pass, so text that is put in is never read again.
-/
import SqlTyping.Operator.Basic
import SqlTyping.SqlType.Text

namespace SqlTyping

/-! ## Templates -/

/-- A text with places for values; a place is the index of a value in braces. Value 0 is the
operator's name, the others its operands. -/
structure Template where
  source : String
  deriving DecidableEq

namespace Template

/-- The number that decimal digits stand for, of which there must be one at least. -/
def number? (digits : List Char) : Option Nat :=
  if digits ≠ [] ∧ digits.all Char.isDigit then some (Nat.ofDigitChars 10 digits 0) else none

/-- The index that stands in a place: decimal digits, after a plus sign or without one. -/
def index? : List Char → Option Nat
  | '+' :: digits => number? digits
  | digits => number? digits

/-- What is put in a place: the value of its index, or the place as it is written if there is no
such value. -/
def atPlace (values : List String) (inside : List Char) : List Char :=
  match (index? inside).bind (values[·]?) with
  | some value => value.toList
  | none => '\x7b' :: (inside ++ ['\x7d'])

/-- One pass over the text of a template. Outside of places the text is copied; `some inside` stands
for a place that is open, with what has been read of it. A place that is never closed stays as it
is written. -/
def scan (values : List String) : Option (List Char) → List Char → List Char
  | none, [] => []
  | none, c :: rest =>
    if c = '\x7b' then scan values (some []) rest else c :: scan values none rest
  | some inside, [] => '\x7b' :: inside
  | some inside, c :: rest =>
    if c = '\x7d' then atPlace values inside ++ scan values none rest
    else scan values (some (inside ++ [c])) rest

/-- The template with values in its places. -/
def fill (t : Template) (values : List String) : String :=
  String.ofList (scan values none t.source.toList)

end Template

namespace Kind

/-- The template of a call with so many operands; none means function form. -/
def template? : Kind → Nat → Option Template
  | .binary, 2 => some ⟨"\x7b1\x7d \x7b0\x7d \x7b2\x7d"⟩
  | .prefixed, 1 => some ⟨"\x7b0\x7d\x7b1\x7d"⟩
  | .postfixed, 1 => some ⟨"\x7b1\x7d \x7b0\x7d"⟩
  | _, _ => none

end Kind

/-! ## Rendering -/

/-- The entry of a signature that stands for further operands. -/
def ellipsis : String := "..."

/-- An operand in a signature: its type in upper case between angle brackets, the ellipsis bare. -/
def placeholder (type : String) : String :=
  if type = ellipsis then type else "<" ++ Text.upper type ++ ">"

/-- The text of a call by that name with operands of these types. -/
def Kind.signature (kind : Kind) (name : String) (types : List String) : String :=
  let operands := types.map placeholder
  match kind.template? types.length with
  | some template => template.fill (name :: operands)
  | none => name ++ "(" ++ ", ".intercalate operands ++ ")"

/-- The forms that a rule takes, for an operator of that kind called by that name. The same-type
rule without a count shows two operands and an ellipsis. -/
def Rule.signatures (kind : Kind) (name : String) : Rule → String
  | .sameType (some n) => kind.signature name (List.replicate n "EQUIVALENT_TYPE")
  | .sameType none => kind.signature name ["EQUIVALENT_TYPE", "EQUIVALENT_TYPE", ellipsis]
  | .literal _ => "<LITERAL>"
  | .families fs => kind.signature name (fs.map (·.toText))
  | .custom r => r.signatures kind name

namespace Operator

/-- The forms that the operator takes, under its own name. -/
def signatures (op : Operator) : String :=
  op.rule.signatures op.kind op.name

/-- The operator as others see it. -/
def declaration (op : Operator) : Declaration :=
  ⟨op.name, op.kind, op.arity, op.returns, op.signatures⟩

/-- The refusal of a call whose operand types fit no form of the operator. -/
def signatureMismatch (op : Operator) (b : TypedCall) : Diagnostic :=
  let actual := op.kind.signature op.name (b.types.map (·.toText))
  .signatureMismatch op.name ("'" ++ actual ++ "'") ("'" ++ op.signatures ++ "'") b.call.span

end Operator

end SqlTyping
