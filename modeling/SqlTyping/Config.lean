/-
Settings of validation: whether calls of unknown functions are admitted, and how deep an expression
may be nested.
-/
import SqlTyping.Diagnostic

namespace SqlTyping

/-- Settings of validation. -/
structure Config where
  /-- Calls of unregistered functions are typed as nullable text instead of being refused. -/
  allowUnknown : Bool
  /-- Greatest nesting depth of an expression. -/
  maxDepth : Nat
  deriving DecidableEq

namespace Config

/-- The settings where none are given. -/
def standard : Config :=
  ⟨false, 64⟩

/-- Strict names and shallow nesting. -/
def shallow : Config :=
  ⟨false, 16⟩

/-- The settings are usable: some expression fits into the depth. -/
def check (c : Config) : Except Diagnostic Unit :=
  if c.maxDepth = 0 then .error (.invalidConfig .zeroDepth) else .ok ()

end Config

end SqlTyping
