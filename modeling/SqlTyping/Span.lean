/-
Positions and spans of statement text. Diagnostics point at spans.
-/

namespace SqlTyping

/-- A place in the text of a statement, by line and column. -/
structure Position where
  line : Nat
  column : Nat
  deriving DecidableEq

/-- The text from one position to another, both ends included. -/
structure Span where
  first : Position
  last : Position
  deriving DecidableEq

namespace Span

/-- The span of a node that has no text of its own. -/
def unplaced : Span :=
  ⟨⟨0, 0⟩, ⟨0, 0⟩⟩

/-- The columns `first` to `last` of one line. -/
def onLine (line first last : Nat) : Span :=
  ⟨⟨line, first⟩, ⟨line, last⟩⟩

/-- The wording of a span in messages. -/
def toText (s : Span) : String :=
  s!"From line {s.first.line}, column {s.first.column} to line {s.last.line}, column {s.last.column}"

end Span

end SqlTyping
