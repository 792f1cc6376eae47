/-
Arities: how many operands an operator takes. An arity is read through its least and greatest
count; `accepts` decides a count.
-/

namespace SqlTyping

/-- The operand counts that an operator takes. -/
inductive Arity where
  | exactly (count : Nat)
  | range (least : Nat) (most : Option Nat)
  | any
  deriving DecidableEq

namespace Arity

/-- At least so many operands. -/
def atLeast (least : Nat) : Arity :=
  .range least none

/-- The least count. -/
def min : Arity → Nat
  | .exactly n => n
  | .range least _ => least
  | .any => 0

/-- The greatest count, if there is one. -/
def max? : Arity → Option Nat
  | .exactly n => some n
  | .range _ most => most
  | .any => none

/-- The arity has no greatest count. -/
def isVariadic (a : Arity) : Bool :=
  a.max?.isNone

/-- The count lies within the arity. -/
def accepts : Arity → Nat → Bool
  | .exactly n, count => count == n
  | .range least most, count => decide (least ≤ count) && most.all (count ≤ ·)
  | .any, _ => true

/-- A count is accepted exactly if it lies between the bounds. -/
theorem accepts_iff (a : Arity) (count : Nat) :
    a.accepts count = true ↔ a.min ≤ count ∧ ∀ most, a.max? = some most → count ≤ most := by
  cases a with
  | exactly n => simp only [accepts, min, max?, beq_iff_eq, Option.some.injEq, forall_eq']; omega
  | range least most => cases most <;> simp [accepts, min, max?]
  | any => simp [accepts, min, max?]

/-- The wording of an arity in messages; a range with equal ends is written as one number. -/
def toText : Arity → String
  | .exactly n => toString n
  | .range least (some most) => if least = most then toString least else s!"{least} to {most}"
  | .range least none => s!"at least {least}"
  | .any => "any number of"

end Arity

end SqlTyping
