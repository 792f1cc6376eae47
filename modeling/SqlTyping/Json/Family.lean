/-
The JSON form of a family: its name.
-/
import SqlTyping.Family
import SqlTyping.Json.Basic

namespace SqlTyping.Family

/-- The name of a family. -/
def tag : Family → String
  | .boolean => "Boolean"
  | .numeric => "Numeric"
  | .character => "Character"
  | .binary => "Binary"
  | .date => "Date"
  | .time => "Time"
  | .timestamp => "Timestamp"
  | .interval => "Interval"
  | .uuid => "Uuid"
  | .json => "Json"
  | .collection => "Collection"
  | .map => "Map"
  | .struct => "Struct"
  | .null => "Null"
  | .any => "Any"

/-- The JSON form of a family. -/
def toJson (f : Family) : Json :=
  .str f.tag

/-- The family of a JSON form. -/
def ofJson? (j : Json) : Option Family :=
  j.variant?.bind fun name => all.find? (·.tag == name)

theorem ofJson?_toJson (f : Family) : ofJson? f.toJson = some f := by
  cases f <;> decide

end SqlTyping.Family
