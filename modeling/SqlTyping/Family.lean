/-
Families of SQL types: the groups of types whose values compare directly. `any` is the family of
every type; it is written in operator rules and is the family of no single type.
-/

namespace SqlTyping

/-- A group of types whose values compare with each other. -/
inductive Family where
  | boolean
  | numeric
  | character
  | binary
  | date
  | time
  | timestamp
  | interval
  | uuid
  | json
  | collection
  | map
  | struct
  | null
  | any
  deriving DecidableEq

namespace Family

/-- Every family, in the order in which they are listed. -/
def all : List Family :=
  [.boolean, .numeric, .character, .binary, .date, .time, .timestamp, .interval, .uuid, .json,
   .collection, .map, .struct, .null, .any]

theorem mem_all (f : Family) : f ∈ all := by cases f <;> decide

/-- The wording of a family in signatures. -/
def toText : Family → String
  | .boolean => "BOOLEAN"
  | .numeric => "NUMERIC"
  | .character => "CHARACTER"
  | .binary => "BINARY"
  | .date => "DATE"
  | .time => "TIME"
  | .timestamp => "TIMESTAMP"
  | .interval => "INTERVAL"
  | .uuid => "UUID"
  | .json => "JSON"
  | .collection => "COLLECTION"
  | .map => "MAP"
  | .struct => "STRUCT"
  | .null => "NULL"
  | .any => "ANY"

end Family

end SqlTyping
