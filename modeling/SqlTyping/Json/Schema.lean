/-
The JSON forms of columns, tables and settings: objects with a member per field, in any order and
with any further members, or arrays of the fields in their order. Columns and tables need all their
fields; settings that are not given have their standard value.
-/
import SqlTyping.Config
import SqlTyping.Json.SqlType
import SqlTyping.Schema

namespace SqlTyping

namespace Column

/-- The JSON form of a column. -/
def toJson (c : Column) : Json :=
  .obj [("name", .str c.name), ("datatype", c.type.toJson), ("nullable", .bool c.nullable)]

/-- The column of the JSON forms of its fields. -/
def ofFields? (name type nullable : Json) : Option Column := do
  return ⟨← name.str?, ← SqlType.ofJson? type, ← nullable.bool?⟩

/-- The column of a JSON form. -/
def ofJson? : Json → Option Column
  | .obj members => do
    ofFields? (← members.lookup "name") (← members.lookup "datatype") (← members.lookup "nullable")
  | .arr [name, type, nullable] => ofFields? name type nullable
  | _ => none

end Column

namespace Table

/-- The JSON form of a table. -/
def toJson (t : Table) : Json :=
  .obj [("name", .str t.name), ("columns", .arr (t.columns.map (·.toJson)))]

/-- The table of the JSON forms of its fields. -/
def ofFields? (name columns : Json) : Option Table := do
  return ⟨← name.str?, ← columns.list? Column.ofJson?⟩

/-- The table of a JSON form; its name and the names of its columns are not checked. -/
def ofJson? : Json → Option Table
  | .obj members => do ofFields? (← members.lookup "name") (← members.lookup "columns")
  | .arr [name, columns] => ofFields? name columns
  | _ => none

end Table

namespace Config

/-- The JSON form of settings. -/
def toJson (c : Config) : Json :=
  .obj [("allow_unknown_functions", .bool c.allowUnknown),
        ("max_expression_depth", .ofNat c.maxDepth)]

/-- The settings of the JSON forms of those that are given. -/
def ofFields? (allowUnknown maxDepth : Option Json) : Option Config := do
  let allowUnknown ← match allowUnknown with
    | some j => j.bool?
    | none => some standard.allowUnknown
  let maxDepth ← match maxDepth with
    | some j => j.nat? 64
    | none => some standard.maxDepth
  return ⟨allowUnknown, maxDepth⟩

/-- The settings of a JSON form. -/
def ofJson? : Json → Option Config
  | .obj members =>
    ofFields? (members.lookup "allow_unknown_functions") (members.lookup "max_expression_depth")
  | .arr [] => ofFields? none none
  | .arr [allowUnknown] => ofFields? (some allowUnknown) none
  | .arr [allowUnknown, maxDepth] => ofFields? (some allowUnknown) (some maxDepth)
  | _ => none

end Config

end SqlTyping
