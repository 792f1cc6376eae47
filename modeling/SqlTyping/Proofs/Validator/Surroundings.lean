/-
What stands around a call. A rule of one's own may ask for the scope, for the other operators and
their verdicts, and for the types of expressions, so its verdict on a call may change with them
while the call stays the same. Two validators judge a call alike if no such change reaches the
verdict; standard rules look at the call alone and always do.
-/
import SqlTyping.Proofs.Operator.Appearance
import SqlTyping.Proofs.Operator.Gates

namespace SqlTyping

namespace Operator

theorem demand_eq_of_check {op : Operator} {k k' : Context} {b : TypedCall}
    (h : ∀ mode, op.check k b mode = op.check k' b mode) : op.demand k b = op.demand k' b := by
  unfold demand
  rw [h]

/-- The gates of a call depend on what stands around it in two ways: through the rule of its
operator, and through the aggregates inside it and the say of the scope. -/
theorem validateCall_congr {op : Operator} {v v' : Validator} {s s' : Scope} {b : TypedCall}
    (hcheck : ∀ mode, op.check (v.context s) b mode = op.check (v'.context s') b mode)
    (haggregate :
      op.validateAggregate v.catalog s b.call = op.validateAggregate v'.catalog s' b.call) :
    op.validateCall v s b = op.validateCall v' s' b := by
  rw [validateCall_eq, validateCall_eq, demand_eq_of_check hcheck, haggregate]

end Operator

namespace Validator

/-- A rule that is asked by another one has verdicts with as many levels as it asks for, but with no
more than are left. -/
theorem contextAt_verdict? (v : Validator) (s s' : Scope) (left levels : Nat) (name : String)
    (b : TypedCall) (mode : Mode) :
    (v.contextAt (left + 1) s).verdict? levels name s' b mode =
      v.verdictIn? (v.contextAt (min levels left)) name s' b mode := by
  induction left with
  | zero =>
    rw [Nat.min_zero]
    rfl
  | succ left ih =>
    change (if levels < left + 1 then (v.contextAt (left + 1) s).verdict? levels name s' b mode
      else v.verdictIn? (v.contextAt (left + 1)) name s' b mode) = _
    by_cases h : levels < left + 1
    · rw [if_pos h, ih, Nat.min_eq_left (Nat.le_of_lt_succ h), Nat.min_eq_left (Nat.le_of_lt h)]
    · rw [if_neg h, Nat.min_eq_right (Nat.not_lt.1 h)]

/-- The operator of the call, if it has one, gives the same verdicts on it within both validators
and scopes, whatever the types of its operands. -/
def JudgesAlike (v v' : Validator) (s s' : Scope) (c : Call) : Prop :=
  ∀ op, v.catalog.lookup c.name = some op → ∀ b : TypedCall, b.call = c →
    ∀ mode, op.check (v.context s) b mode = op.check (v'.context s') b mode

theorem judgesAlike_of_standard {v : Validator} (h : v.catalog.Standard) (v' : Validator)
    (s s' : Scope) (c : Call) : JudgesAlike v v' s s' c :=
  fun _ hop b _ mode => Operator.check_congr (h.of_lookup hop) (.refl b) mode

end Validator

/-! ## A function that asks

A function of no operands whose rule asks a question about what stands around its calls. -/

namespace Inquiry

/-- The function, which takes a call exactly if the answer is yes. -/
def operator (ask : Context → TypedCall → Bool) : Operator :=
  let verdict (k : Context) (b : TypedCall) : Verdict := if ask k b then .pass else .fail
  .make "inquire" .function
    (.custom ⟨.exactly 0, fun k _ b _ => verdict k b, fun _ name => name ++ "()"⟩) (.fixed .boolean)

/-- The catalog with nothing but the function. -/
def catalog (ask : Context → TypedCall → Bool) : Catalog :=
  Catalog.empty.register (operator ask)

/-- A call of the function. -/
def call : Call :=
  ⟨"inquire", [], none, .onLine 1 1 9⟩

end Inquiry

end SqlTyping
