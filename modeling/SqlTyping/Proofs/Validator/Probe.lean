/-
The probe of a call against its validation. The probe looks the operator up before it types the
operands, takes their types without checks, and leaves out the depth of the call itself, the calls
inside its operands and the gate of aggregates. A call that is accepted is still always probed with
success; for a plain call whose operands are valid the converse holds too; and the probe fails, in
place of answering no, only where the call cannot be bound.
-/
import SqlTyping.Catalog.Builtin
import SqlTyping.Proofs.Operator.Gates
import SqlTyping.Proofs.Scope
import SqlTyping.Proofs.Validator.Agreement

namespace SqlTyping

open SqlTyping.Expr Outcome Walk

/-- The cause is a name without a meaning, or an expression that is nested too deep. -/
def Diagnostic.preventsBinding : Diagnostic → Bool
  | .unknownFunction _ _ | .columnNotFound _ _ | .ambiguousColumn _ _ | .tooDeep _ _ => true
  | _ => false

namespace Validator

variable {v : Validator} {s : Scope} {c : Call}

/-! ## The answers of the probe -/

/-- A call without an operator is probed with success if it is known. -/
theorem probe_of_lookup_none (hop : v.catalog.lookup c.name = none) (hk : v.Known c) :
    v.probe s c = .ok true := by
  unfold probe
  rw [operatorOf_eq_ok.2 ⟨hk, hop⟩]
  rfl

/-- A call of an operator whose operands have types is probed for its number of operands and for
their types. -/
theorem probe_of_lookup {b : TypedCall} {op : Operator}
    (hop : v.catalog.lookup b.call.name = some op)
    (htypes : v.deriveOperands s b.call.operands 2 = .ok b.types) :
    v.probe s b.call =
      .ok (op.arity.accepts b.call.operands.length && op.accepts (v.context s) b) := by
  have hk : v.operatorOf b.call = .ok (some op) :=
    operatorOf_eq_ok.2 ⟨.inl (by rw [hop]; rfl), hop⟩
  unfold probe
  simp only [hk, htypes, bind_typed op b, bind, Except.bind]
  cases op.arity.accepts b.call.operands.length <;> rfl

/-- Whatever keeps the probe from an answer comes from the lookup or from an operand. -/
theorem probe_eq_error {d : Diagnostic} (h : v.probe s c = .error d) :
    d = .unknownFunction (Text.upper c.name) c.span ∨ v.deriveOperands s c.operands 2 = .error d := by
  rcases bind_eq_error.1 h with h | ⟨op?, _, h⟩
  · exact .inl (operatorOf_eq_error.1 h).2
  cases op? with
  | none => exact absurd h pure_ne_error
  | some op =>
    rcases bind_eq_error.1 h with h | ⟨types, htypes, h⟩
    · exact .inr h
    have hbind : op.bind c types = .ok ⟨c, types, (deriveOperands_eq_ok.1 htypes).length_eq⟩ :=
      bind_typed op ⟨c, types, _⟩
    split at h
    · rw [hbind] at h; cases h
    · cases h

/-! ## Typing without checks over tables -/

/-- Over tables, typing without checks fails only for a name without a meaning or too deep
nesting. -/
theorem preventsBinding_of_deriveAt {ts : TableScope} {e : Expr} {span : Span} {depth : Nat}
    {d : Diagnostic} (h : v.deriveAt ts.toScope e span depth = .error d) :
    d.preventsBinding = true := by
  obtain ⟨x, _, hx⟩ := (v.deriveAt_walks ts.toScope).failsAt_of_error h
  cases hx with
  | depth _ => rfl
  | column _ hres =>
    rcases TableScope.resolve_eq_error hres with ⟨q, _, rfl⟩ | ⟨_, rfl | rfl⟩ <;> rfl
  | call _ _ hcall =>
    rw [resultType_eq_error hcall]; rfl

/-! ## Agreement with validation -/

/-- A call that is accepted is probed with success. -/
theorem probe_of_validate (hstd : v.catalog.Standard) {t : SqlType}
    (h : v.validate s (.call c) = .ok t) : v.probe s c = .ok true := by
  obtain ⟨_, b, rfl, htypes, ⟨hk, hgates⟩, _⟩ := validateAt_call_eq_ok.1 h
  cases hop : v.catalog.lookup b.call.name with
  | none => exact probe_of_lookup_none hop hk
  | some op =>
    have hstandard := hstd.of_lookup hop
    have htakes := (Operator.validateCall_eq_ok_iff hstandard).1 (hgates op hop)
    have haccepts : op.accepts (v.context s) b = true :=
      (Operator.accepts_iff_pass hstandard _ b).2 (htakes.operands .explain)
    have hderived : v.deriveOperands s b.call.operands 2 = .ok b.types :=
      deriveOperands_eq_ok.2 (htypes.imp fun o _ t => deriveAt_of_validateAt)
    rw [probe_of_lookup hop hderived, htakes.count, haccepts]
    rfl

/-- Where nothing is asked of aggregates, an operator takes a call that it accepts. -/
theorem takes_of_accepts {op : Operator} {b : TypedCall} (hstandard : op.rule.isStandard = true)
    (hquant : b.call.quantifier = none) (hplain : op.isAggregate = false)
    (hcount : op.arity.accepts b.call.operands.length = true)
    (haccepts : op.accepts (v.context s) b = true) : op.Takes v s b := by
  have hpass := (Operator.accepts_iff_pass hstandard _ b).1 haccepts
  refine ⟨fun hq => ?_, hcount, fun mode => ?_, fun ha => ?_, fun ha => ?_⟩
  · rw [hquant] at hq; cases hq
  · exact ((Operator.check_uniform hstandard _ b).pass_iff .explain mode).1 hpass
  · rw [hplain] at ha; cases ha
  · rw [hplain] at ha; cases ha

/-- A plain call, without quantifier and of no aggregate, that is probed with success is accepted
if its operands are. -/
theorem validate_of_probe (hstd : v.catalog.Standard) (hconfig : v.config.check = .ok ())
    (hquant : c.quantifier = none) (hagg : v.catalog.isAggregate c.name = false)
    (hoperands : ∀ o ∈ c.operands, ∃ t, v.validateAt s o.expr o.span 2 = .ok t)
    (h : v.probe s c = .ok true) : ∃ t, v.validate s (.call c) = .ok t := by
  have hdepth : 1 ≤ v.config.maxDepth := by
    unfold Config.check at hconfig
    split at hconfig
    · cases hconfig
    · omega
  -- the lookup comes first, so a probe that answers has found the call known
  have hk : v.Known c := by
    obtain ⟨op?, hop?, _⟩ := bind_eq_ok.1 h
    exact (operatorOf_eq_ok.1 hop?).1
  obtain ⟨types, htypes⟩ := OperandTypes.of_forall_ok hoperands
  let b : TypedCall := ⟨c, types, htypes.length_eq⟩
  have hgates : ∀ op, v.catalog.lookup b.call.name = some op →
      op.validateCall v s b = .ok () := by
    intro op hop
    have hderived : v.deriveOperands s b.call.operands 2 = .ok b.types :=
      deriveOperands_eq_ok.2 (htypes.imp fun o _ t => deriveAt_of_validateAt)
    have hprobe : v.probe s b.call = .ok true := h
    rw [probe_of_lookup hop hderived] at hprobe
    simp only [Except.ok.injEq, Bool.and_eq_true] at hprobe
    have hplain : op.isAggregate = false := by
      rw [← Catalog.isAggregate_of_lookup hop]; exact hagg
    have hstandard := hstd.of_lookup hop
    exact (Operator.validateCall_eq_ok_iff hstandard).2
      (takes_of_accepts hstandard hquant hplain hprobe.1 hprobe.2)
  exact ⟨_, validateAt_call_eq_ok.2 ⟨hdepth, b, rfl, htypes, ⟨hk, hgates⟩, rfl⟩⟩

/-- The probe agrees with validation over a catalog of standard rules: an accepted call is probed
with success, and a plain call with valid operands that is probed with success is accepted under
usable settings. Over tables, whatever the rules, the probe fails only where the call cannot be
bound. -/
theorem probe_agrees_with_validate (v : Validator) (c : Call) :
    (v.catalog.Standard → ∀ s : Scope,
      ((∃ t, v.validate s (.call c) = .ok t) → v.probe s c = .ok true) ∧
      (v.config.check = .ok () → c.quantifier = none → v.catalog.isAggregate c.name = false →
        (∀ o ∈ c.operands, ∃ t, v.validateAt s o.expr o.span 2 = .ok t) →
        v.probe s c = .ok true → ∃ t, v.validate s (.call c) = .ok t)) ∧
    ∀ (ts : TableScope) (d : Diagnostic), v.probe ts.toScope c = .error d →
      d.preventsBinding = true := by
  refine ⟨fun hstd s => ⟨?_, validate_of_probe hstd⟩, fun ts d h => ?_⟩
  · rintro ⟨t, ht⟩
    exact probe_of_validate hstd ht
  · rcases probe_eq_error h with rfl | h
    · rfl
    · rw [deriveOperands_eq_mapM] at h
      obtain ⟨o, _, h⟩ := mapM_eq_error h
      exact preventsBinding_of_deriveAt h

theorem validate_of_probe_totalOrZero :
    let v : Validator := ⟨.builtin, .standard⟩
    let s := (Orders.scope .select).toScope
    v.catalog.Standard ∧ v.probe s Orders.totalOrZero = .ok true ∧
      (∃ t, v.validate s (.call Orders.totalOrZero) = .ok t) ∧
      v.probe TableScope.empty.toScope Orders.total =
        .error (.columnNotFound "amount" (.onLine 1 14 19)) ∧
      (Diagnostic.columnNotFound "amount" (.onLine 1 14 19)).preventsBinding = true := by
  intro v s
  have hstd : v.catalog.Standard := by decide
  have hprobe : v.probe s Orders.totalOrZero = .ok true := rfl
  have hoperands : ∀ o ∈ Orders.totalOrZero.operands,
      ∃ t, v.validateAt s o.expr o.span 2 = .ok t := by
    intro o ho
    rcases List.mem_cons.1 ho with rfl | ho
    · exact ⟨.nullable .bigint, rfl⟩
    · cases List.mem_singleton.1 ho; exact ⟨.bigint, rfl⟩
  have hfails : v.probe TableScope.empty.toScope Orders.total =
      .error (.columnNotFound "amount" (.onLine 1 14 19)) := rfl
  have hagree := (probe_agrees_with_validate v Orders.totalOrZero).1 hstd s
  exact ⟨hstd, hprobe, hagree.2 rfl rfl (by decide) hoperands hprobe, hfails,
    (probe_agrees_with_validate v Orders.total).2 TableScope.empty _ hfails⟩

end Validator

end SqlTyping
