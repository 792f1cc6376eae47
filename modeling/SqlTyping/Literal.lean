/-
Literal values and their types. Two literals are the same if they have the same value: decimals by
their number whatever their scale, floats by their 64 bits, everything else as written.
-/
import SqlTyping.Calendar
import SqlTyping.SqlType.Basic

namespace SqlTyping

/-- The decimal number `mantissa / 10 ^ scale`. -/
structure Decimal where
  mantissa : Int
  scale : Nat
  mantissa_bound : mantissa.natAbs < Nat.pow 2 96
  scale_bound : scale ≤ 28
  deriving DecidableEq

namespace Decimal

/-- The decimal with that mantissa and scale, if both are in bounds. -/
def of? (mantissa : Int) (scale : Nat) : Option Decimal :=
  if hm : mantissa.natAbs < Nat.pow 2 96 then
    if hs : scale ≤ 28 then some ⟨mantissa, scale, hm, hs⟩ else none
  else none

/-- The two decimals are the same number. -/
def sameValue (a b : Decimal) : Bool :=
  a.mantissa * Int.pow 10 b.scale == b.mantissa * Int.pow 10 a.scale

end Decimal

/-- A literal value. -/
inductive Literal where
  | null
  | boolean (value : Bool)
  | integer (value : Int)
  | float (bits : UInt64)
  | decimal (value : Decimal)
  | string (value : String)
  | bytes (value : List UInt8)
  | date (value : Date)
  | time (value : TimeOfDay)
  | timestamp (value : Timestamp)
  deriving DecidableEq

namespace Literal

/-- The integer literal of a number, if the number has at most 128 bits. -/
def integer? (n : Int) : Option Literal :=
  if -Int.pow 2 127 ≤ n ∧ n < Int.pow 2 127 then some (.integer n) else none

/-- The type of a literal as written. -/
def type : Literal → SqlType
  | .null => .null
  | .boolean _ => .boolean
  | .integer _ => .bigint
  | .float _ => .double
  | .decimal d => .scalar (.decimal none (some d.scale))
  | .string _ => .text
  | .bytes _ => .scalar .bytes
  | .date _ => .scalar .date
  | .time _ => .scalar .time
  | .timestamp _ => .scalar .timestamp

/-- The two literals have the same value. -/
def same : Literal → Literal → Bool
  | .decimal a, .decimal b => a.sameValue b
  | a, b => a == b

end Literal

end SqlTyping
