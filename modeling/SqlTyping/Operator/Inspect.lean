/-
A text that shows how an operator is declared: its name, its kind and its operand rule. The type of
its result is left out.
-/
import SqlTyping.Json.Family
import SqlTyping.Operator.Basic
import SqlTyping.Text.Quoted

namespace SqlTyping

/-- A named record with its fields between braces. -/
def showRecord (name : String) (fields : List (String × String)) : String :=
  name ++ " \x7b " ++ ", ".intercalate (fields.map fun f => f.1 ++ ": " ++ f.2) ++ " \x7d"

/-- The declaration of a kind. -/
def Kind.inspect : Kind → String
  | .function => "Function"
  | .aggregate allowed => showRecord "Aggregate" [("quantifier_allowed", toString allowed)]
  | .binary => "Binary"
  | .prefixed => "Prefix"
  | .postfixed => "Postfix"

/-- The declaration of an operand rule; a custom rule shows no more than that it is one. -/
def Rule.inspect : Rule → String
  | .sameType (some n) => showRecord "SameOperandTypeChecker" [("n_operands", s!"Some({n})")]
  | .sameType none => showRecord "SameOperandTypeChecker" [("n_operands", "None")]
  | .literal allowNull =>
    showRecord "LiteralOperandTypeChecker" [("allow_null", toString allowNull)]
  | .families fs =>
    showRecord "FamilyOperandTypeChecker"
      [("families", "[" ++ ", ".intercalate (fs.map (·.tag)) ++ "]")]
  | .custom _ => "Custom"

/-- The declaration of an operator. -/
def Operator.inspect (op : Operator) : String :=
  showRecord "Operator"
    [("name", Text.quoted op.name), ("kind", op.kind.inspect), ("checker", op.rule.inspect)]

end SqlTyping
