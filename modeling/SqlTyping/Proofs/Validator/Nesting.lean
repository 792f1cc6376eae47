/-
Aggregates inside aggregates. Each aggregate call searches its own operands for another one, on the
way up; together these searches keep every way from the root of an accepted expression to a leaf
free of a second aggregate. Where one is found, the call that is blamed has passed all gates
itself: it contains no aggregate and the scope admits it, so in a clause that admits none the
refusal is another one.
-/
import SqlTyping.Catalog.Builtin
import SqlTyping.Proofs.Operator.Gates
import SqlTyping.Proofs.Scope
import SqlTyping.Proofs.Validator.Walk

namespace SqlTyping

open SqlTyping.Expr Walk

/-! ## Accepted aggregates -/

namespace Validator

variable {v : Validator} {s : Scope} {e : Expr} {span : Span} {depth : Nat} {t : SqlType}

/-- An aggregate call that is accepted where it stands contains no aggregate call, and the scope
admits it. -/
theorem aggregate_of_validateAt {c : Call} (h : v.validateAt s (.call c) span depth = .ok t)
    (hagg : v.catalog.isAggregate c.name = true) :
    (∀ d, Below d c → v.catalog.isAggregate d.name = false) ∧ s.admits c = .ok () := by
  obtain ⟨_, b, rfl, _, ⟨_, hgates⟩, _⟩ := validateAt_call_eq_ok.1 h
  obtain ⟨op, hop, hopagg⟩ := Catalog.lookup_of_isAggregate hagg
  have hall := Operator.validateAggregate_of_validateCall (hgates op hop) hopagg
  exact (Operator.validateAggregate_eq_ok_iff.1 hall).2

/-- On a way down an accepted expression there is at most one aggregate call. -/
theorem countP_descent_le_one {path : List Expr} (hp : Descent e path)
    (h : v.validateAt s e span depth = .ok t) : path.countP v.catalog.isAggregateCall ≤ 1 := by
  induction hp generalizing span depth t with
  | literal l => exact List.countP_le_length
  | chain fragments => exact List.countP_le_length
  | column qualifier name => exact List.countP_le_length
  | bare _ => exact List.countP_le_length
  | cast target _ ih =>
    obtain ⟨_, u, hu, _⟩ := (v.validateAt_walks s).ok_cast.1 h
    rw [List.countP_cons_of_neg (by simp [Catalog.isAggregateCall, call?])]
    exact ih hu
  | @operand c o path ho hpath ih =>
    by_cases hagg : v.catalog.isAggregateCall (.call c) = true
    · -- below an aggregate there is none at all
      have hnone : path.countP v.catalog.isAggregateCall = 0 := by
        rw [List.countP_eq_zero]
        intro n hn hn'
        obtain ⟨d, rfl, hd⟩ := Catalog.call_of_isAggregateCall hn'
        have hbelow : Below d c := ⟨o, ho, mem_calls.2 (hpath.mem_nodes hn)⟩
        rw [(aggregate_of_validateAt h hagg).1 d hbelow] at hd; cases hd
      rw [List.countP_cons_of_pos hagg]
      omega
    · rw [List.countP_cons_of_neg hagg]
      obtain ⟨_, types, htypes, _⟩ := (v.validateAt_walks s).ok_call.1 h
      obtain ⟨u, hu⟩ := htypes.ok_of_mem ho
      exact ih hu

/-! ## The call that is blamed -/

/-- What is accepted at some place is accepted by itself. -/
theorem validate_of_validateAt {c : Call} (hdepth : 1 ≤ depth)
    (h : v.validateAt s (.call c) span depth = .ok t) : v.validate s (.call c) = .ok t := by
  have hroot : v.validateAt s (.call c) span 1 = .ok t :=
    (v.validateAt_walks s).ok_mono (v.validateAt_walks s) (fun _ _ _ _ h => h) (fun _ _ _ h => h)
      (by omega) h
  -- the span of a call matters only to the depth limit
  exact (v.validateAt_walks s).ok_call.2 ((v.validateAt_walks s).ok_call.1 hroot)

/-- Over tables and standard rules, only an aggregate call with valid operands reports an aggregate
call inside it, and it reports one that is there. -/
theorem nested_of_failsAt {ts : TableScope} (hstd : v.catalog.Standard) {x : Site}
    {operator : String} (h : (v.validation ts.toScope).FailsAt (v.validateAt ts.toScope) x
      (.nestedAggregate operator span)) :
    ∃ inner outer types, x.node = .call outer ∧
      OperandTypes (v.validateAt ts.toScope) outer.operands (x.depth + 1) types ∧
      v.catalog.isAggregate outer.name = true ∧ Below inner outer ∧
      v.catalog.isAggregate inner.name = true ∧ operator = Text.upper inner.name ∧
      span = inner.span := by
  generalize hd : Diagnostic.nestedAggregate operator span = d at h
  cases h with
  | depth _ => cases hd
  | column _ hres =>
    subst hd
    rcases TableScope.resolve_eq_error hres with ⟨q, _, h⟩ | ⟨_, h | h⟩ <;> cases h
  | @call outer types _ hnode htypes hcall =>
    subst hd
    let b : TypedCall := ⟨outer, types, htypes.length_eq⟩
    rcases @validatedType_eq_error v ts.toScope _ b hcall with h | ⟨op, hop, hgate⟩
    · cases resultType_eq_error h
    rcases Operator.validateCall_eq_error hgate with h | h | h | ⟨hagg, ⟨n, hn, h⟩ | h⟩
    · cases h
    · cases h
    · cases Operator.blames_of_demand (hstd.of_lookup hop) h
    · cases h
      have houter : v.catalog.isAggregate outer.name = true := by
        rw [Catalog.isAggregate_of_lookup hop]; exact hagg
      obtain ⟨hbelow, hnagg⟩ := Catalog.nestedAggregate?_eq_some hn
      exact ⟨n, outer, types, hnode, htypes, houter, hbelow, hnagg,
        rfl, rfl⟩
    · rcases TableScope.admits_eq_error h with h | h <;> cases h

/-- On every way down an accepted expression there is at most one aggregate call. Over tables and
standard rules, the call that is blamed for standing inside an aggregate is an aggregate call of
the expression that does so, contains none itself, and is accepted by itself; and in a clause that
admits no aggregates none is blamed for this. -/
theorem no_nested_aggregates (v : Validator) (e : Expr) :
    (∀ s t, v.validate s e = .ok t → ∀ path, Descent e path →
      path.countP v.catalog.isAggregateCall ≤ 1) ∧
    (v.catalog.Standard → ∀ (ts : TableScope) operator span,
      v.validate ts.toScope e = .error (.nestedAggregate operator span) →
      (∃ inner ∈ e.calls, ∃ outer ∈ e.calls, Below inner outer ∧
        v.catalog.isAggregate inner.name = true ∧ v.catalog.isAggregate outer.name = true ∧
        Text.upper inner.name = operator ∧ inner.span = span ∧
        (∀ d, Below d inner → v.catalog.isAggregate d.name = false) ∧
        ∃ t, v.validate ts.toScope (.call inner) = .ok t) ∧
      ts.clause ≠ .whereRows ∧ ts.clause ≠ .groupBy) := by
  refine ⟨fun s t h path hp => countP_descent_le_one hp h, fun hstd ts operator span h => ?_⟩
  obtain ⟨x, hx, hfail⟩ := (v.validateAt_walks ts.toScope).failsAt_of_error h
  obtain ⟨inner, outer, types, hnode, htypes, houter, ⟨o, ho, hmem⟩, hinner, rfl, rfl⟩ :=
    nested_of_failsAt hstd hfail
  -- the operands of the outer call are valid, and with them all that stands in them
  obtain ⟨u, hu⟩ := htypes.ok_of_mem ho
  obtain ⟨y, hy, hynode⟩ := (mem_calls_iff_site o.span (x.depth + 1)).1 hmem
  obtain ⟨t, ht⟩ := (v.validateAt_walks ts.toScope).ok_of_site hu hy
  rw [hynode] at ht
  obtain ⟨hnone, hadmits⟩ := aggregate_of_validateAt ht hinner
  have hdepth : 1 ≤ y.depth := by have := le_depth_of_mem_sites hy; omega
  have hyx : y ∈ x.node.sites x.span x.depth := by
    rw [hnode]; exact mem_sites_call.2 (.inr ⟨o, ho, hy⟩)
  have hye : inner ∈ e.calls := (mem_calls_iff_site e.rootSpan 1).2 ⟨y, sites_trans hx hyx, hynode⟩
  have hxe : outer ∈ e.calls := (mem_calls_iff_site e.rootSpan 1).2 ⟨x, hx, hnode⟩
  exact ⟨⟨inner, hye, outer, hxe, ⟨o, ho, hmem⟩, hinner, houter, rfl, rfl, hnone, t,
    validate_of_validateAt hdepth ht⟩, TableScope.admits_eq_ok_iff.1 hadmits⟩

/-- The search for a nested aggregate crosses the plain call and the cast between the two. -/
theorem nested_total_in_max :
    let v : Validator := ⟨.builtin, .standard⟩
    let s := Orders.scope .select
    let e : Expr := .call ⟨"MAX", [⟨.cast (.call Orders.totalOrZero) .double, .onLine 1 5 38⟩], none,
      .onLine 1 1 39⟩
    v.catalog.Standard ∧
      v.validate s.toScope e = .error (.nestedAggregate "SUM" Orders.total.span) ∧
      (∃ inner ∈ e.calls, inner.span = Orders.total.span ∧
        ∃ t, v.validate s.toScope (.call inner) = .ok t) ∧
      v.validate s.toScope (.call Orders.totalOrZero) = .ok .bigint ∧
      [Expr.call Orders.totalOrZero, .call Orders.total, .column none "amount"].countP
        v.catalog.isAggregateCall ≤ 1 := by
  intro v s e
  have hstd : v.catalog.Standard := by decide
  have hnested : v.validate s.toScope e = .error (.nestedAggregate "SUM" Orders.total.span) := rfl
  have hok : v.validate s.toScope (.call Orders.totalOrZero) = .ok .bigint := rfl
  have hdown : Descent (.call Orders.totalOrZero)
      [.call Orders.totalOrZero, .call Orders.total, .column none "amount"] :=
    .operand List.mem_cons_self (.operand List.mem_cons_self (.column none "amount"))
  obtain ⟨⟨inner, hinner, _, _, _, _, _, _, hspan, _, haccepted⟩, _⟩ :=
    (no_nested_aggregates v e).2 hstd s _ _ hnested
  exact ⟨hstd, hnested, ⟨inner, hinner, hspan, haccepted⟩, hok,
    (no_nested_aggregates v (.call Orders.totalOrZero)).1 _ _ hok _ hdown⟩

end Validator

end SqlTyping
