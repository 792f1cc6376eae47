/-
Diagnostics: the causes for which a call, a name, a table or a setting is refused. Each cause has a
message, most have a span of the statement, and those about one operand have its index.
-/
import SqlTyping.Arity
import SqlTyping.Span

namespace SqlTyping

/-- Why a value is refused. -/
inductive InvalidValue where
  /-- A table needs a name. -/
  | emptyTableName
  /-- A column repeats the name of an earlier column of its table. -/
  | duplicateColumn (column table : String)
  /-- A table repeats the visible name of another table in scope. -/
  | duplicateTable (visible : String)
  /-- A call was given another number of operand types than it has operands. -/
  | typeCount (types operands : Nat) (operator : String)
  /-- Any other reason, in its own words. -/
  | stated (text : String)
  deriving DecidableEq

/-- The wording of the reason. -/
def InvalidValue.toText : InvalidValue → String
  | .emptyTableName => "Table name cannot be empty"
  | .duplicateColumn column table => s!"Duplicate column {column} in table {table}"
  | .duplicateTable visible => s!"Duplicate table name or alias in scope: {visible}"
  | .typeCount types operands operator =>
    s!"{types} operand types given for {operands} operands of {operator}"
  | .stated text => text

/-- Why a configuration is refused. -/
inductive InvalidConfig where
  /-- No expression fits into a depth of zero. -/
  | zeroDepth
  /-- Any other reason, in its own words. -/
  | stated (text : String)
  deriving DecidableEq

/-- The wording of the reason. -/
def InvalidConfig.toText : InvalidConfig → String
  | .zeroDepth => "max_expression_depth must be at least 1"
  | .stated text => text

/-- A cause of refusal. -/
inductive Diagnostic where
  /-- A bare NULL stands where the operator takes none. -/
  | nullOperand (operator : String) (operand : Nat) (span : Span)
  /-- Two neighbouring operands cannot be compared. -/
  | notComparable (operator : String) (span : Span)
  /-- The operand has to be a literal. -/
  | notLiteral (operator : String) (operand : Nat) (span : Span)
  /-- The literal operand must not be NULL. -/
  | nullLiteral (operator : String) (operand : Nat) (span : Span)
  /-- The operand types fit no form of the operator. -/
  | signatureMismatch (operator actual allowed : String) (span : Span)
  /-- The number of operands is outside the operator's arity. -/
  | wrongCount (operator : String) (expected : Arity) (actual : Nat) (span : Span)
  /-- The operator takes no DISTINCT or ALL. -/
  | quantifierNotAllowed (operator : String) (span : Span)
  /-- An aggregate stands inside an aggregate. -/
  | nestedAggregate (operator : String) (span : Span)
  /-- An aggregate stands in a WHERE clause. -/
  | aggregateInWhere (operator : String) (span : Span)
  /-- An aggregate stands in a GROUP BY clause. -/
  | aggregateInGroupBy (operator : String) (span : Span)
  /-- No operator has the name. -/
  | unknownFunction (name : String) (span : Span)
  /-- No table in scope has the column. -/
  | columnNotFound (column : String) (span : Span)
  /-- More than one table in scope has the column. -/
  | ambiguousColumn (column : String) (span : Span)
  /-- The expression is nested deeper than the configuration admits. -/
  | tooDeep (maxDepth : Nat) (span : Span)
  /-- The greatest count of an arity is below its least. -/
  | invertedArity (least most : Nat)
  /-- The configuration is unusable. -/
  | invalidConfig (reason : InvalidConfig)
  /-- A value is unusable. -/
  | invalidValue (reason : InvalidValue)
  deriving DecidableEq

namespace Diagnostic

/-- The span that the diagnostic points at, if it points at one. -/
def span? : Diagnostic → Option Span
  | .nullOperand _ _ s | .notComparable _ s | .notLiteral _ _ s | .nullLiteral _ _ s
  | .signatureMismatch _ _ _ s | .wrongCount _ _ _ s | .quantifierNotAllowed _ s
  | .nestedAggregate _ s | .aggregateInWhere _ s | .aggregateInGroupBy _ s
  | .unknownFunction _ s | .columnNotFound _ s | .ambiguousColumn _ s | .tooDeep _ s => some s
  | .invertedArity _ _ | .invalidConfig _ | .invalidValue _ => none

/-- The index of the operand that the diagnostic is about, if it is about one. -/
def operand? : Diagnostic → Option Nat
  | .nullOperand _ i _ | .notLiteral _ i _ | .nullLiteral _ i _ => some i
  | _ => none

/-- The wording of the cause, without its place. -/
def cause : Diagnostic → String
  | .nullOperand _ _ _ => "Illegal use of 'NULL'"
  | .notComparable _ _ => "Parameters must be of the same type"
  | .notLiteral operator _ _ => s!"Argument to function '{operator}' must be a literal"
  | .nullLiteral operator _ _ => s!"Argument to function '{operator}' must not be NULL"
  | .signatureMismatch operator actual allowed _ =>
    s!"Cannot apply '{operator}' to arguments of type {actual}. Supported form(s): {allowed}"
  | .wrongCount operator expected _ _ =>
    s!"Invalid number of arguments to function '{operator}'. " ++
      s!"Was expecting {expected.toText} arguments"
  | .quantifierNotAllowed operator _ => s!"DISTINCT/ALL not allowed with {operator} function"
  | .nestedAggregate _ _ => "Aggregate expressions cannot be nested"
  | .aggregateInWhere _ _ => "Aggregate expression is illegal in WHERE clause"
  | .aggregateInGroupBy _ _ => "Aggregate expression is illegal in GROUP BY clause"
  | .unknownFunction name _ => s!"No match found for function signature {name}"
  | .columnNotFound column _ => s!"Column '{column}' not found in any table"
  | .ambiguousColumn column _ => s!"Column '{column}' is ambiguous"
  | .tooDeep maxDepth _ => s!"Expression nesting exceeds the maximum depth of {maxDepth}"
  | .invertedArity least most =>
    s!"Invalid operand count range: max {most} is less than min {least}"
  | .invalidConfig reason => s!"Invalid configuration: {reason.toText}"
  | .invalidValue reason => s!"Invalid value: {reason.toText}"

/-- The message of a diagnostic: its place, if it has one, and its cause. -/
def message (d : Diagnostic) : String :=
  match d.span? with
  | some span => s!"{span.toText}: {d.cause}"
  | none => d.cause

end Diagnostic

/-- The arity from `least` to `most`, both included, which must not be inverted. -/
def Arity.between (least most : Nat) : Except Diagnostic Arity :=
  if most < least then .error (.invertedArity least most) else .ok (.range least (some most))

end SqlTyping
