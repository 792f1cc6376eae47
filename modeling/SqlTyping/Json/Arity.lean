/-
The JSON form of an arity: `"Variadic"`, an object with member `Exact`, or one with member `Range`,
whose value has a least count and, unless it is null or missing, a greatest. As read from a JSON
value the range is an object; only a reader that decodes text directly takes an array of the two
counts in its place.
-/
import SqlTyping.Arity
import SqlTyping.Json.Basic

namespace SqlTyping.Arity

/-- The JSON form of an arity. -/
def toJson : Arity → Json
  | .exactly n => .obj [("Exact", .ofNat n)]
  | .range least most =>
    .obj [("Range", .obj [("min", .ofNat least), ("max", .ofNat? most)])]
  | .any => .str "Variadic"

/-- The arity of a JSON value. A range may be inverted. -/
def ofJson? (j : Json) : Option Arity :=
  match j with
  | .obj [("Exact", n)] => (n.nat? 64).map .exactly
  | .obj [("Range", .obj bounds)] => do
    let least ← (← bounds.lookup "min").nat? 64
    let most ← ((bounds.lookup "max").getD .null).optional (·.nat? 64)
    return .range least most
  | _ => if j.variant? = some "Variadic" then some .any else none

end SqlTyping.Arity
