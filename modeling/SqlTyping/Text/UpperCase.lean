/-
Upper-casing of text, character by character and without regard to context: `ß` becomes `SS`,
`ﬁ` becomes `FI`, `ς` becomes `Σ`, and combining marks stay. Names of operators are compared by
their upper-case forms.
-/
import SqlTyping.Text.CaseTable

namespace SqlTyping.Text

/-- The upper-case form of a code point, as code points: a letter of ASCII moves by 32, any other
character follows the tables, and a character of no table stays. -/
def upperCode (n : Nat) : List Nat :=
  if n < 0x80 then
    if 0x61 ≤ n ∧ n ≤ 0x7a then [n - 32] else [n]
  else
    match caseExpansions.lookup n with
    | some codes => codes
    | none =>
      match caseRuns.find? (·.covers n) with
      | some run => [run.image n]
      | none => [n]

/-- The upper-case form of a character. -/
def upperChar (c : Char) : List Char :=
  (upperCode c.toNat).map Char.ofNat

/-- The upper-case form of a text. -/
def upper (s : String) : String :=
  String.ofList (s.toList.flatMap upperChar)

end SqlTyping.Text
