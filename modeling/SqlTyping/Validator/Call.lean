/-
Validating one call of an operator, in two gates. Every call is checked as a call: its quantifier,
the number of its operands and their types. An aggregate that passes is then checked as an
aggregate: its quantifier, aggregates inside it, and its place in the query.
-/
import SqlTyping.Expr.Nodes
import SqlTyping.Validator.Derive

namespace SqlTyping

namespace Catalog

/-- The expression is a call of an aggregate. -/
def isAggregateCall (cat : Catalog) (e : Expr) : Bool :=
  e.call?.any (cat.isAggregate ·.name)

/-- The first aggregate call inside the operands of a call, in the order of the text. -/
def nestedAggregate? (cat : Catalog) (c : Call) : Option Call :=
  (c.operands.findSome? (·.expr.find? cat.isAggregateCall)).bind Expr.call?

end Catalog

namespace Operator

/-- The call as a call of an aggregate: DISTINCT and ALL only where allowed, no aggregate inside
it, and admitted by the scope, in this order. -/
def validateAggregate (op : Operator) (cat : Catalog) (scope : Scope) (c : Call) :
    Except Diagnostic Unit :=
  if c.quantifier.isSome && !op.quantifierAllowed then
    .error (.quantifierNotAllowed op.name c.span)
  else
    match cat.nestedAggregate? c with
    | some nested => .error (.nestedAggregate (Text.upper nested.name) nested.span)
    | none => scope.admits c

/-- The typed call as a call of the operator, and of an aggregate if the operator is one. -/
def validateCall (op : Operator) (v : Validator) (scope : Scope) (b : TypedCall) :
    Except Diagnostic Unit := do
  if b.call.quantifier.isSome && !op.isAggregate then
    throw (.quantifierNotAllowed op.name b.call.span)
  op.checkCount b.call
  op.demand (v.context scope) b
  if op.isAggregate then op.validateAggregate v.catalog scope b.call

end Operator

end SqlTyping
