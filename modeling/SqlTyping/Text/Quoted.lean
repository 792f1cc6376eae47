/-
Quoted text: a text between double quotes, with quotes, backslashes and control characters escaped.
-/

namespace SqlTyping.Text

/-- A character between double quotes. -/
def escapeChar (c : Char) : String :=
  match c with
  | '"' => "\\\""
  | '\\' => "\\\\"
  | '\t' => "\\t"
  | '\n' => "\\n"
  | '\r' => "\\r"
  | '\x00' => "\\0"
  | c =>
    if c.toNat < 0x20 ∨ c.toNat = 0x7f then
      "\\u\x7b" ++ String.ofList (Nat.toDigits 16 c.toNat) ++ "\x7d"
    else String.singleton c

/-- A text between double quotes. -/
def quoted (s : String) : String :=
  "\"" ++ String.join (s.toList.map escapeChar) ++ "\""

end SqlTyping.Text
