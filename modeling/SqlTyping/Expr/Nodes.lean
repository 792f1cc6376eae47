/-
The nodes of an expression. `nodes` lists them in pre-order: a node before the nodes below it,
operands from left to right. `find?` is a search in that order, and `height` the number of nodes
on a longest path down.
-/
import SqlTyping.Expr.Basic

namespace SqlTyping.Expr

/-! ## Listing -/

mutual

/-- The nodes of the expression, in pre-order. -/
def nodes : Expr → List Expr
  | .literal l => [.literal l]
  | .chain fragments => [.chain fragments]
  | .cast e target => .cast e target :: e.nodes
  | .column qualifier name => [.column qualifier name]
  | .call ⟨name, operands, quantifier, span⟩ =>
    .call ⟨name, operands, quantifier, span⟩ :: nodesOfOperands operands
termination_by structural e => e

/-- The nodes of the operands, one operand after the other. -/
def nodesOfOperands : List Operand → List Expr
  | [] => []
  | ⟨e, _⟩ :: operands => e.nodes ++ nodesOfOperands operands
termination_by structural operands => operands

end

theorem nodesOfOperands_eq_flatMap (operands : List Operand) :
    nodesOfOperands operands = operands.flatMap (·.expr.nodes) := by
  induction operands with
  | nil => rfl
  | cons o operands ih => simp [nodesOfOperands, ih]

theorem nodes_call (c : Call) :
    (Expr.call c).nodes = .call c :: c.operands.flatMap (·.expr.nodes) := by
  rw [← nodesOfOperands_eq_flatMap]; rfl

/-- The calls of the expression, in pre-order. -/
def calls (e : Expr) : List Call :=
  e.nodes.filterMap call?

/-! ## Searching -/

mutual

/-- The first node in pre-order that satisfies the predicate. -/
def find? (p : Expr → Bool) : Expr → Option Expr
  | .literal l => if p (.literal l) then some (.literal l) else none
  | .chain fragments => if p (.chain fragments) then some (.chain fragments) else none
  | .cast e target => if p (.cast e target) then some (.cast e target) else e.find? p
  | .column qualifier name =>
    if p (.column qualifier name) then some (.column qualifier name) else none
  | .call ⟨name, operands, quantifier, span⟩ =>
    if p (.call ⟨name, operands, quantifier, span⟩) then
      some (.call ⟨name, operands, quantifier, span⟩)
    else findInOperands? p operands
termination_by structural e => e

/-- The first node that satisfies the predicate in the first operand that has one. -/
def findInOperands? (p : Expr → Bool) : List Operand → Option Expr
  | [] => none
  | ⟨e, _⟩ :: operands =>
    match e.find? p with
    | some found => some found
    | none => findInOperands? p operands
termination_by structural operands => operands

end

theorem findInOperands?_eq_findSome? (p : Expr → Bool) (operands : List Operand) :
    findInOperands? p operands = operands.findSome? (·.expr.find? p) := by
  induction operands with
  | nil => rfl
  | cons o operands ih =>
    simp only [findInOperands?, List.findSome?_cons, ih]
    cases o.expr.find? p <;> rfl

/-! ## Height -/

mutual

/-- The height of the expression; a leaf has height one. -/
def height : Expr → Nat
  | .literal _ | .chain _ | .column _ _ => 1
  | .cast e _ => e.height + 1
  | .call ⟨_, operands, _, _⟩ => heightOfOperands operands + 1
termination_by structural e => e

/-- The greatest height of an operand, zero if there is none. -/
def heightOfOperands : List Operand → Nat
  | [] => 0
  | ⟨e, _⟩ :: operands => max e.height (heightOfOperands operands)
termination_by structural operands => operands

end

theorem heightOfOperands_le {operands : List Operand} {n : Nat} :
    heightOfOperands operands ≤ n ↔ ∀ o ∈ operands, o.expr.height ≤ n := by
  induction operands with
  | nil => simp [heightOfOperands]
  | cons o operands ih => rw [heightOfOperands, Nat.max_le, ih, List.forall_mem_cons]

end SqlTyping.Expr
