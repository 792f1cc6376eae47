/-
Columns and tables. A table that is made from a name and columns has a name and no two columns of
one name; the column of a name is the first that has it.
-/
import SqlTyping.Diagnostic
import SqlTyping.SqlType.Basic

namespace SqlTyping

/-- A column of a table. -/
structure Column where
  name : String
  type : SqlType
  nullable : Bool
  deriving DecidableEq

/-- The type of a reference to the column: nullable if the column is. -/
def Column.resolvedType (c : Column) : SqlType :=
  if c.nullable then c.type.orNull else c.type

/-- A table with its columns in order. -/
structure Table where
  name : String
  columns : List Column
  deriving DecidableEq

namespace Table

/-- The first column whose name stands in `seen` or on an earlier column. -/
def firstRepeated (seen : List String) : List Column → Option Column
  | [] => none
  | c :: columns =>
    if c.name ∈ seen then some c else firstRepeated (c.name :: seen) columns

/-- The table of that name and columns. An empty name is refused, then the first column that
repeats the name of an earlier one. -/
def make (name : String) (columns : List Column) : Except Diagnostic Table :=
  if name = "" then .error (.invalidValue .emptyTableName)
  else
    match firstRepeated [] columns with
    | some c => .error (.invalidValue (.duplicateColumn c.name name))
    | none => .ok ⟨name, columns⟩

/-- The first column of that name. -/
def column? (t : Table) (name : String) : Option Column :=
  t.columns.find? (·.name == name)

end Table

end SqlTyping
