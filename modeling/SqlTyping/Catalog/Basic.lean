/-
The catalog of operators, by upper-case name. Registering an operator replaces the one of its name,
so a name has one operator and the last one registered counts.
-/
import SqlTyping.Operator.Basic

namespace SqlTyping

/-- Operators by name. -/
structure Catalog where
  operators : List Operator

namespace Catalog

/-- No operators. -/
def empty : Catalog :=
  ⟨[]⟩

/-- The catalog with the operator, in place of any other of its name. -/
def register (c : Catalog) (op : Operator) : Catalog :=
  ⟨c.operators.filter (·.name != op.name) ++ [op]⟩

/-- The catalog with all operators of a list, registered in order. -/
def registerAll (c : Catalog) (ops : List Operator) : Catalog :=
  ops.foldl register c

/-- The operator of a name, whatever the case of its letters. -/
def lookup (c : Catalog) (name : String) : Option Operator :=
  c.operators.find? (·.name == Text.upper name)

/-- A registered operator is found under its name, and all other names keep theirs. -/
theorem lookup_register (c : Catalog) (op : Operator) (name : String) :
    (c.register op).lookup name =
      if op.name = Text.upper name then some op else c.lookup name := by
  unfold lookup register
  rw [List.find?_append, List.find?_filter]
  by_cases h : op.name = Text.upper name
  · rw [if_pos h, List.find?_eq_none.2]
    · simp [h]
    · intro o _
      simp [h]
  · have same : (fun o : Operator => decide (o.name != op.name ∧ o.name == Text.upper name)) =
        (·.name == Text.upper name) := by
      funext o
      by_cases ho : o.name = Text.upper name
      · simp [ho, Ne.symm h]
      · simp [ho]
    rw [if_neg h, same]
    simp [h]

/-- The name is that of an aggregate. -/
def isAggregate (c : Catalog) (name : String) : Bool :=
  (c.lookup name).any (·.isAggregate)

/-- The number of operators. -/
def size (c : Catalog) : Nat :=
  c.operators.length

end Catalog

end SqlTyping
