/-
The SQL text of a type, as it stands in messages and signatures: `INT`, `DECIMAL(10, 2)`,
`VARCHAR[]`, `MAP(INT, DATE)`, `STRUCT(x INT, y INT)`, `TIME NULL`.
-/
import SqlTyping.SqlType.Basic

namespace SqlTyping

/-- The keyword of a signed integer type. -/
def IntWidth.toText : IntWidth → String
  | .tiny => "TINYINT"
  | .small => "SMALLINT"
  | .medium => "INT"
  | .big => "BIGINT"
  | .huge => "HUGEINT"

/-- The SQL text of a scalar. A decimal shows its scale only beside a precision. -/
def Scalar.toText : Scalar → String
  | .boolean => "BOOLEAN"
  | .signed w => w.toText
  | .unsigned w => w.toText ++ " UNSIGNED"
  | .real => "REAL"
  | .double => "DOUBLE PRECISION"
  | .decimal (some p) (some s) => s!"DECIMAL({p}, {s})"
  | .decimal (some p) none => s!"DECIMAL({p})"
  | .decimal none _ => "DECIMAL"
  | .string | .text => "VARCHAR"
  | .date => "DATE"
  | .time => "TIME"
  | .timestamp => "TIMESTAMP"
  | .interval => "INTERVAL"
  | .uuid => "UUID"
  | .bytes => "BYTEA"
  | .json => "JSON"

namespace SqlType

mutual

/-- The SQL text of a type. -/
def toText : SqlType → String
  | .scalar s => s.toText
  | .array t (some size) => s!"{t.toText}[{size}]"
  | .array t none => s!"{t.toText}[]"
  | .list t => s!"{t.toText}[]"
  | .map k v => s!"MAP({k.toText}, {v.toText})"
  | .struct fields => "STRUCT(" ++ ", ".intercalate (fieldTexts fields) ++ ")"
  | .nullable t => s!"{t.toText} NULL"
  | .null => "NULL"
termination_by structural t => t

/-- The text of each field: its name, then its type. -/
def fieldTexts : List (String × SqlType) → List String
  | [] => []
  | (name, t) :: fields => s!"{name} {t.toText}" :: fieldTexts fields
termination_by structural fields => fields

end

theorem fieldTexts_eq_map (fields : List (String × SqlType)) :
    fieldTexts fields = fields.map fun f => s!"{f.1} {f.2.toText}" := by
  induction fields with
  | nil => rfl
  | cons f fields ih => simp [fieldTexts, ih]

end SqlType

end SqlTyping
