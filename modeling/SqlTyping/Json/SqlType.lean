/-
The JSON form of a type: the name of a type without parts, or an object whose one member is named
for the type and holds its parts.
-/
import SqlTyping.Json.Basic
import SqlTyping.SqlType.Basic

namespace SqlTyping

/-- The number of bits of an integer type, in digits. -/
def IntWidth.bits : IntWidth → String
  | .tiny => "8"
  | .small => "16"
  | .medium => "32"
  | .big => "64"
  | .huge => "128"

/-- The name of a scalar. -/
def Scalar.tag : Scalar → String
  | .boolean => "Bool"
  | .signed w => "I" ++ w.bits
  | .unsigned w => "U" ++ w.bits
  | .real => "F32"
  | .double => "F64"
  | .decimal _ _ => "Decimal"
  | .string => "Str"
  | .text => "Text"
  | .date => "Date"
  | .time => "Time"
  | .timestamp => "Timestamp"
  | .interval => "Interval"
  | .uuid => "Uuid"
  | .bytes => "Bytea"
  | .json => "Json"

/-- The scalars that are written by their name alone: all but decimals. -/
def Scalar.plain : List Scalar :=
  let widths : List IntWidth := [.tiny, .small, .medium, .big, .huge]
  [.boolean] ++ widths.map .signed ++ widths.map .unsigned ++
    [.real, .double, .string, .text, .date, .time, .timestamp, .interval, .uuid, .bytes, .json]

namespace SqlType

/-- The type that is written by that name alone. -/
def ofTag? (tag : String) : Option SqlType :=
  if tag = "Null" then some .null
  else (Scalar.plain.find? (·.tag == tag)).map .scalar

mutual

/-- The JSON form of a type. -/
def toJson : SqlType → Json
  | .scalar (.decimal p s) => .obj [("Decimal", .arr [.ofNat? p, .ofNat? s])]
  | .scalar s => .str s.tag
  | .array t size => .obj [("Array", .arr [t.toJson, .ofNat? size])]
  | .list t => .obj [("List", t.toJson)]
  | .map k v => .obj [("Map", .arr [k.toJson, v.toJson])]
  | .struct fields => .obj [("Struct", .arr (fieldsToJson fields))]
  | .nullable t => .obj [("Nullable", t.toJson)]
  | .null => .str "Null"
termination_by structural t => t

/-- A field is written as a pair of its name and type. -/
def fieldsToJson : List (String × SqlType) → List Json
  | [] => []
  | (name, t) :: fields => .arr [.str name, t.toJson] :: fieldsToJson fields
termination_by structural fields => fields

end

mutual

/-- The type of a JSON form. -/
def ofJson? : Json → Option SqlType
  | .str tag => ofTag? tag
  | .obj [(tag, .null)] => ofTag? tag
  | .obj [("Decimal", .arr [p, s])] => do
    return .scalar (.decimal (← p.optional (·.nat? 32)) (← s.optional (·.nat? 32)))
  | .obj [("Array", .arr [t, size])] => do
    return .array (← ofJson? t) (← size.optional (·.nat? 64))
  | .obj [("List", t)] => return .list (← ofJson? t)
  | .obj [("Map", .arr [k, v])] => return .map (← ofJson? k) (← ofJson? v)
  | .obj [("Struct", .arr fields)] => return .struct (← fieldsOfJson? fields)
  | .obj [("Nullable", t)] => return .nullable (← ofJson? t)
  | _ => none
termination_by structural j => j

/-- The fields of the JSON forms of fields. -/
def fieldsOfJson? : List Json → Option (List (String × SqlType))
  | [] => some []
  | .arr [.str name, t] :: fields => return (name, ← ofJson? t) :: (← fieldsOfJson? fields)
  | _ => none
termination_by structural fields => fields

end

end SqlType

end SqlTyping
