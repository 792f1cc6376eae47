/-
Scopes: what a column name means, and whether an aggregate may stand where the expression stands.
The validator sees a scope only through these two questions. A table scope answers them from the
tables of a FROM clause and the clause that the expression belongs to.
-/
import SqlTyping.Expr.Basic
import SqlTyping.Schema
import SqlTyping.Text.UpperCase

namespace SqlTyping

/-- Where names get their types and aggregates their admission. -/
structure Scope where
  /-- The type of a column, optionally qualified, referred to at a span. -/
  resolve : Option String → String → Span → Except Diagnostic SqlType
  /-- Whether the aggregate call, acceptable in itself, may stand here. -/
  admits : Call → Except Diagnostic Unit

/-- The clause of a query that an expression belongs to. -/
inductive Clause where
  | select
  | whereRows
  | groupBy
  | having
  | orderBy
  deriving DecidableEq

/-- A table of a FROM clause, with its alias if it has one. -/
structure TableRef where
  table : Table
  aliasName : Option String
  deriving DecidableEq

namespace TableRef

/-- The name under which the table is entered: its alias, or its own name without one. -/
def visible (t : TableRef) : String :=
  t.aliasName.getD t.table.name

/-- The qualifier is the table's name or its alias. -/
def answersTo (t : TableRef) (qualifier : String) : Bool :=
  t.table.name == qualifier || t.aliasName == some qualifier

/-- The type of the field `name` of the struct column `struct`, if the table has such a column with
such a field. It is nullable if the column is. -/
def fieldType? (t : TableRef) (struct name : String) : Option SqlType :=
  match t.table.column? struct with
  | none => none
  | some c =>
    match c.type.base with
    | .struct fields =>
      (fields.find? (·.1 == name)).map fun f => if c.nullable then f.2.orNull else f.2
    | _ => none

end TableRef

/-- The tables of a FROM clause, seen from a clause of the query. -/
structure TableScope where
  tables : List TableRef
  clause : Clause
  deriving DecidableEq

namespace TableScope

/-- No tables, seen from the select list. -/
def empty : TableScope :=
  ⟨[], .select⟩

/-- Adds a table to the scope in place, whose visible name must be new: whether it could be added,
and the scope afterwards. -/
def enter (s : TableScope) (entry : TableRef) : Except Diagnostic Unit × TableScope :=
  if s.tables.any (·.visible == entry.visible) then
    (.error (.invalidValue (.duplicateTable entry.visible)), s)
  else (.ok (), { s with tables := s.tables ++ [entry] })

/-- The scope with one more table, if it can be added. -/
def addTable (s : TableScope) (table : Table) (aliasName : Option String) :
    Except Diagnostic TableScope :=
  let entered := s.enter ⟨table, aliasName⟩
  entered.1.map fun _ => entered.2

/-- The same tables, seen from another clause. -/
def inClause (s : TableScope) (clause : Clause) : TableScope :=
  { s with clause }

/-! ## Columns -/

/-- The type of `qualifier.name`. The first table that answers to the qualifier decides; only if
there is none, the qualifier may be a struct column of some table and the name one of its fields. -/
def resolveQualified (s : TableScope) (qualifier name : String) (span : Span) :
    Except Diagnostic SqlType :=
  match s.tables.find? (·.answersTo qualifier) with
  | some t =>
    match t.table.column? name with
    | some c => .ok c.resolvedType
    | none => .error (.columnNotFound (qualifier ++ "." ++ name) span)
  | none =>
    match s.tables.findSome? (·.fieldType? qualifier name) with
    | some type => .ok type
    | none => .error (.columnNotFound (qualifier ++ "." ++ name) span)

/-- The type of an unqualified name, from what has been found of it so far and the tables that are
left. A second table that has the column ends the search. -/
def resolveBareFrom (name : String) (span : Span) (found : Option SqlType) :
    List TableRef → Except Diagnostic SqlType
  | [] =>
    match found with
    | some type => .ok type
    | none => .error (.columnNotFound name span)
  | t :: tables =>
    match t.table.column? name with
    | some c =>
      if found.isSome then .error (.ambiguousColumn name span)
      else resolveBareFrom name span (some c.resolvedType) tables
    | none => resolveBareFrom name span found tables

/-- The type of an unqualified name, which exactly one table must have as a column. -/
def resolveBare (s : TableScope) (name : String) (span : Span) : Except Diagnostic SqlType :=
  resolveBareFrom name span none s.tables

/-- The type of a column reference. -/
def resolve (s : TableScope) : Option String → String → Span → Except Diagnostic SqlType
  | some qualifier, name, span => s.resolveQualified qualifier name span
  | none, name, span => s.resolveBare name span

/-! ## Aggregates -/

/-- Aggregates may stand in every clause but WHERE and GROUP BY. -/
def admits (s : TableScope) (c : Call) : Except Diagnostic Unit :=
  match s.clause with
  | .whereRows => .error (.aggregateInWhere (Text.upper c.name) c.span)
  | .groupBy => .error (.aggregateInGroupBy (Text.upper c.name) c.span)
  | .select | .having | .orderBy => .ok ()

/-- The tables as a scope. -/
def toScope (s : TableScope) : Scope :=
  ⟨s.resolve, s.admits⟩

end TableScope

end SqlTyping
