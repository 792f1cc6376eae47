/-
JSON values and the pieces that the JSON forms of this library share. A number that is written
without fraction and exponent is an integer; no other number is ever decoded. A variant that carries
no data is written as its name, and read also as an object of that name and null.

What is read here is a JSON value, parsed from its text before. How deep a text may be nested, and
what becomes of a member that stands in an object twice, is settled by the parser; and a reader that
decodes text as it parses it is another one, which takes more forms and refuses doubled members.
-/

namespace SqlTyping

/-- A JSON value. An object is a list of members. -/
inductive Json where
  | null
  | bool (b : Bool)
  | int (n : Int)
  /-- A number with a fraction: `mantissa / 10 ^ places`. -/
  | real (mantissa : Int) (places : Nat)
  | str (s : String)
  | arr (items : List Json)
  | obj (members : List (String × Json))

namespace Json

/-! ## Reading -/

/-- A truth value. -/
def bool? : Json → Option Bool
  | .bool b => some b
  | _ => none

/-- A string. -/
def str? : Json → Option String
  | .str s => some s
  | _ => none

/-- A natural number of at most so many bits. -/
def nat? (bits : Nat) : Json → Option Nat
  | .int n => if 0 ≤ n ∧ n < Int.pow 2 bits then some n.toNat else none
  | _ => none

/-- Null for nothing, or something. -/
def optional {α : Type} (read : Json → Option α) : Json → Option (Option α)
  | .null => some none
  | j => (read j).map some

/-- An array of things. -/
def list? {α : Type} (read : Json → Option α) : Json → Option (List α)
  | .arr items => items.mapM read
  | _ => none

/-- The name of a variant without data. -/
def variant? : Json → Option String
  | .str name => some name
  | .obj [(name, .null)] => some name
  | _ => none

/-! ## Writing -/

/-- A natural number. -/
def ofNat (n : Nat) : Json :=
  .int n

/-- A natural number, or null for none. -/
def ofNat? : Option Nat → Json
  | some n => ofNat n
  | none => .null

end Json

end SqlTyping
