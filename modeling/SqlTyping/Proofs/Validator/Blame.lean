/-
Where diagnostics point. Over tables and standard rules every refusal of an expression has a span of
the expression: that of a call it names, that of an operand it counts in such a call, or, for a
column or for depth, that of the innermost operand around the node. What one call can be blamed for
is said first (`BlamesCall`), then read off the site that the walk stopped at.
-/
import SqlTyping.Catalog.Builtin
import SqlTyping.Proofs.Operator.Gates
import SqlTyping.Proofs.Scope
import SqlTyping.Proofs.Validator.Walk

namespace SqlTyping

open SqlTyping.Expr Walk

/-- A column reference as it is written. -/
def columnText : Option String → String → String
  | some qualifier, name => qualifier ++ "." ++ name
  | none, name => name

namespace Diagnostic

/-- The diagnostic names the call in upper case, and points at the call or at the operand that it
gives the position of. -/
def BlamesCall (c : Call) : Diagnostic → Prop
  | .nullOperand operator i span | .notLiteral operator i span | .nullLiteral operator i span =>
    Text.upper c.name = operator ∧ ∃ o, c.operands[i]? = some o ∧ o.span = span
  | .notComparable operator span | .signatureMismatch operator _ _ span
  | .wrongCount operator _ _ span | .quantifierNotAllowed operator span
  | .nestedAggregate operator span | .aggregateInWhere operator span
  | .aggregateInGroupBy operator span | .unknownFunction operator span =>
    Text.upper c.name = operator ∧ c.span = span
  | _ => False

/-- The diagnostic points into the expression: at a call that it blames, at the innermost operand
around a column that it names (at the root if there is none), or, for depth, at any operand or the
root. -/
def PointsInto (e : Expr) : Diagnostic → Prop
  | .columnNotFound written span | .ambiguousColumn written span =>
    ∃ qualifier name, columnText qualifier name = written ∧
      e.Placed (.column qualifier name) e.rootSpan span
  | .tooDeep _ span =>
    (∃ c ∈ e.calls, ∃ o ∈ c.operands, span = o.span) ∨ span = e.rootSpan
  | d => ∃ c ∈ e.calls, d.BlamesCall c

theorem PointsInto.of_blames {e : Expr} {c : Call} {d : Diagnostic} (hc : c ∈ e.calls)
    (h : d.BlamesCall c) : d.PointsInto e := by
  cases d with
  | columnNotFound written span => cases h
  | ambiguousColumn written span => cases h
  | tooDeep maxDepth span => cases h
  | _ => exact ⟨c, hc, h⟩

/-- A diagnostic that points into an expression has a span. -/
theorem PointsInto.span {e : Expr} {d : Diagnostic} (h : d.PointsInto e) :
    ∃ span, d.span? = some span := by
  cases d with
  | invertedArity least most => obtain ⟨_, _, h⟩ := h; cases h
  | invalidConfig reason => obtain ⟨_, _, h⟩ := h; cases h
  | invalidValue reason => obtain ⟨_, _, h⟩ := h; cases h
  | _ => exact ⟨_, rfl⟩

end Diagnostic

open Diagnostic

/-! ## One call -/

theorem Operator.Blames.blamesCall {op : Operator} {b : TypedCall} {d : Diagnostic}
    (h : op.Blames b d) (hname : Text.upper b.call.name = op.name) : d.BlamesCall b.call := by
  cases h with
  | nullOperand ho => exact ⟨hname, _, ho, rfl⟩
  | notLiteral ho => exact ⟨hname, _, ho, rfl⟩
  | nullLiteral ho => exact ⟨hname, _, ho, rfl⟩
  | notComparable => exact ⟨hname, rfl⟩
  | mismatch => exact ⟨hname, rfl⟩

theorem TableScope.blamesCall_of_admits {ts : TableScope} {c : Call} {d : Diagnostic}
    (h : ts.admits c = .error d) : d.BlamesCall c := by
  rcases admits_eq_error h with rfl | rfl <;> exact ⟨rfl, rfl⟩

theorem TableScope.columnText_of_resolve {ts : TableScope} {qualifier : Option String}
    {name : String} {span : Span} {d : Diagnostic} (h : ts.resolve qualifier name span = .error d) :
    d = .columnNotFound (columnText qualifier name) span ∨
    d = .ambiguousColumn (columnText qualifier name) span := by
  rcases resolve_eq_error h with ⟨q, rfl, rfl⟩ | ⟨rfl, rfl | rfl⟩
  · exact .inl rfl
  · exact .inl rfl
  · exact .inr rfl

namespace Validator

variable {v : Validator} {ts : TableScope} {d : Diagnostic}

/-- A call whose operands have types is refused for itself or for a call that stands in it. -/
theorem blamesCall_of_validatedType (hstd : v.catalog.Standard) {b : TypedCall}
    (h : v.validatedType ts.toScope b.call b.types = .error d) :
    ∃ c, (c = b.call ∨ Below c b.call) ∧ d.BlamesCall c := by
  rcases validatedType_eq_error h with h | ⟨op, hop, h⟩
  · rw [resultType_eq_error h]
    exact ⟨b.call, .inl rfl, rfl, rfl⟩
  have hname : Text.upper b.call.name = op.name := (Catalog.name_of_lookup hop).symm
  rcases Operator.validateCall_eq_error h with rfl | rfl | h | ⟨_, ⟨n, hn, rfl⟩ | h⟩
  · exact ⟨b.call, .inl rfl, hname, rfl⟩
  · exact ⟨b.call, .inl rfl, hname, rfl⟩
  · have hblames := Operator.blames_of_demand (hstd.of_lookup hop) h
    exact ⟨b.call, .inl rfl, hblames.blamesCall hname⟩
  · exact ⟨n, .inr (Catalog.nestedAggregate?_eq_some hn).1, rfl, rfl⟩
  · exact ⟨b.call, .inl rfl, TableScope.blamesCall_of_admits h⟩

/-! ## Whole expressions -/

/-- The walk stops at a site with a diagnostic that points into the expression. -/
theorem pointsInto_of_failsAt (hstd : v.catalog.Standard) {e : Expr} {x : Site}
    (hx : x ∈ e.sites e.rootSpan 1)
    (h : (v.validation ts.toScope).FailsAt (v.validateAt ts.toScope) x d) : d.PointsInto e := by
  have hplaced := placed_of_mem_sites hx
  cases h with
  | depth _ =>
    rcases hplaced with ⟨c, hc, o, ho, _, hspan⟩ | ⟨_, hspan⟩
    · exact Or.inl ⟨c, hc, o, ho, hspan⟩
    · exact Or.inr hspan
  | column hnode hres =>
    rw [hnode] at hplaced
    rcases TableScope.columnText_of_resolve hres with rfl | rfl
    · exact ⟨_, _, rfl, hplaced⟩
    · exact ⟨_, _, rfl, hplaced⟩
  | @call outer types _ hnode htypes hcall =>
    have houter : outer ∈ e.calls := (mem_calls_iff_site e.rootSpan 1).2 ⟨x, hx, hnode⟩
    let b : TypedCall := ⟨outer, types, htypes.length_eq⟩
    obtain ⟨c, hc, hblames⟩ := @blamesCall_of_validatedType v ts d hstd b hcall
    rcases hc with rfl | hbelow
    · exact .of_blames houter hblames
    · exact .of_blames (mem_calls_of_below houter hbelow) hblames

/-- Over tables and standard rules, whatever an expression is refused for has a span, and points
into the expression. In particular no expression is refused for an arity, a setting or a value. -/
theorem refusal_points_into_expression (v : Validator) (ts : TableScope) (e : Expr) (d : Diagnostic)
    (hstd : v.catalog.Standard) (h : v.validate ts.toScope e = .error d) :
    (∃ span, d.span? = some span) ∧ d.PointsInto e := by
  obtain ⟨x, hx, hfail⟩ := (v.validateAt_walks ts.toScope).failsAt_of_error h
  have hpoints := pointsInto_of_failsAt hstd hx hfail
  exact ⟨hpoints.span, hpoints⟩

/-- A missing column under two casts is found at the operand around them, and a bare NULL at the
operand that it is. -/
theorem refusals_in_totalOrZero :
    let v : Validator := ⟨.builtin, .standard⟩
    let s := Orders.scope .having
    let refund : Expr := .cast (.cast (.column (some "orders") "refund") .bigint) .double
    let e : Expr := .call ⟨"coalesce", [⟨.call Orders.total, Orders.total.span⟩,
      ⟨refund, .onLine 1 23 60⟩], none, .onLine 1 1 61⟩
    let e' : Expr := .cast (.call ⟨"Greatest", [⟨.call Orders.totalOrZero, .onLine 1 10 33⟩,
      ⟨.literal .null, .onLine 1 36 39⟩], none, .onLine 1 1 40⟩) .double
    v.catalog.Standard ∧
      v.validate s.toScope e = .error (.columnNotFound "orders.refund" (.onLine 1 23 60)) ∧
      (Diagnostic.columnNotFound "orders.refund" (.onLine 1 23 60)).PointsInto e ∧
      v.validate s.toScope e' = .error (.nullOperand "GREATEST" 1 (.onLine 1 36 39)) ∧
      (Diagnostic.nullOperand "GREATEST" 1 (.onLine 1 36 39)).PointsInto e' := by
  intro v s refund e e'
  have hstd : v.catalog.Standard := by decide
  have hmissing : v.validate s.toScope e =
      .error (.columnNotFound "orders.refund" (.onLine 1 23 60)) := rfl
  have hnull : v.validate s.toScope e' =
      .error (.nullOperand "GREATEST" 1 (.onLine 1 36 39)) := rfl
  exact ⟨hstd, hmissing, (refusal_points_into_expression v s e _ hstd hmissing).2,
    hnull, (refusal_points_into_expression v s e' _ hstd hnull).2⟩

end Validator

end SqlTyping
