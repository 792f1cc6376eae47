/-
The scope's say on aggregates, taken apart from the rest of validation. The scope is asked about an
aggregate call last, when nothing else stands against the call, and its answer changes nothing but
whether the walk goes on. So against a scope that admits every aggregate, an expression is accepted
if the scope admits each aggregate call in it, and refused for the first one that it does not
admit, from left to right; and an expression that is refused without the scope's say is refused
with it. Between the clauses of a query this leaves one difference, aggregates in WHERE and
GROUP BY. All this is said of expressions whose calls are judged alike in both scopes, since a rule
of one's own may ask the scope for its say too.
-/
import SqlTyping.Proofs.Validator.Nesting
import SqlTyping.Proofs.Validator.Surroundings

namespace SqlTyping

open SqlTyping.Expr Outcome Walk

/-! ## Aggregate calls in order -/

namespace Catalog

/-- The aggregate calls of an expression, in pre-order. Where none stands inside another one, this
is their order from left to right. -/
def aggregateCalls (cat : Catalog) (e : Expr) : List Call :=
  e.calls.filter (cat.isAggregate ·.name)

variable {cat : Catalog}

theorem mem_aggregateCalls {e : Expr} {c : Call} :
    c ∈ cat.aggregateCalls e ↔ c ∈ e.calls ∧ cat.isAggregate c.name = true :=
  List.mem_filter

theorem aggregateCalls_cast (e : Expr) (target : SqlType) :
    cat.aggregateCalls (.cast e target) = cat.aggregateCalls e := rfl

theorem aggregateCalls_call (c : Call) :
    cat.aggregateCalls (.call c) =
      (if cat.isAggregate c.name then [c] else []) ++
        c.operands.flatMap (cat.aggregateCalls ·.expr) := by
  unfold aggregateCalls
  rw [calls_call, List.filter_cons, List.filter_flatMap]
  split
  · rfl
  · rfl

/-- No aggregate call stands in the operands of a call exactly if none stands below it. -/
theorem aggregateCalls_operands_eq_nil {c : Call} :
    c.operands.flatMap (cat.aggregateCalls ·.expr) = [] ↔
      ∀ d, Below d c → cat.isAggregate d.name = false := by
  rw [List.flatMap_eq_nil_iff]
  constructor
  · rintro h d ⟨o, ho, hd⟩
    have hnone := List.filter_eq_nil_iff.1 (h o ho) d hd
    simpa using hnone
  · intro h o ho
    refine List.filter_eq_nil_iff.2 fun d hd => ?_
    simp [h d ⟨o, ho, hd⟩]

end Catalog

/-! ## One call -/

namespace Operator

variable {v : Validator} {s s₀ : Scope}

theorem validateAggregate_eq_bind (h₀ : ∀ c, s₀.admits c = .ok ()) (op : Operator) (cat : Catalog)
    (c : Call) :
    op.validateAggregate cat s c = op.validateAggregate cat s₀ c >>= fun _ => s.admits c := by
  unfold validateAggregate
  split
  · rfl
  · split
    · rfl
    · rw [h₀]; rfl

/-- The scope is asked about an aggregate call after all other gates. -/
theorem validateCall_eq_bind (h₀ : ∀ c, s₀.admits c = .ok ()) {op : Operator} {b : TypedCall}
    (hcheck : ∀ mode, op.check (v.context s) b mode = op.check (v.context s₀) b mode) :
    op.validateCall v s b = op.validateCall v s₀ b >>= fun _ =>
      if op.isAggregate then s.admits b.call else .ok () := by
  rw [validateCall_eq, validateCall_eq, demand_eq_of_check hcheck]
  split
  · rfl
  · cases op.checkCount b.call with
    | error d => rfl
    | ok u =>
      cases op.demand (v.context s₀) b with
      | error d => rfl
      | ok u =>
        split
        · exact validateAggregate_eq_bind h₀ op v.catalog b.call
        · rfl

end Operator

namespace Validator

variable {v : Validator} {s s₀ : Scope}

/-- What the scope adds to the check of a call, whatever the call. -/
def admission (v : Validator) (s : Scope) (c : Call) : Except Diagnostic Unit :=
  if v.catalog.isAggregate c.name then s.admits c else .ok ()

theorem call_of_bind {op : Operator} {c : Call} {types : List SqlType} {b : TypedCall}
    (h : op.bind c types = .ok b) : b.call = c := by
  unfold Operator.bind at h
  split at h
  · cases h; rfl
  · cases h

/-- A call that is judged alike is checked as under a scope that admits everything, and then
admitted or not. -/
theorem validatedType_eq_bind (h₀ : ∀ c, s₀.admits c = .ok ()) {c : Call}
    (hjudges : JudgesAlike v v s s₀ c) (types : List SqlType) :
    v.validatedType s c types = v.validatedType s₀ c types >>= fun t =>
      v.admission s c >>= fun _ => .ok t := by
  cases hop : v.catalog.lookup c.name with
  | none =>
    have hadm : v.admission s c = .ok () := by
      unfold admission Catalog.isAggregate
      rw [hop]; rfl
    rw [validatedType_of_lookup_none hop, validatedType_of_lookup_none hop, hadm]
    cases v.resultType c types <;> rfl
  | some op =>
    have hknown : v.operatorOf c = .ok (some op) :=
      operatorOf_eq_ok.2 ⟨.inl (by rw [hop]; rfl), hop⟩
    simp only [validatedType, hknown, bind, Except.bind]
    cases hb : op.bind c types with
    | error d => rfl
    | ok b =>
      obtain rfl := call_of_bind hb
      have hgates := Operator.validateCall_eq_bind h₀ (hjudges op hop b rfl)
      simp only [hgates, admission, Catalog.isAggregate_of_lookup hop, bind, Except.bind]
      cases op.validateCall v s₀ b with
      | error d => rfl
      | ok u => cases (if op.isAggregate = true then s.admits b.call else .ok ()) <;> rfl

/-! ## Whole expressions -/

/-- What is accepted by a scope that admits everything is, under another one, accepted as far as
the scope admits the aggregate calls in it, from left to right. -/
theorem validateAt_eq_bind (hresolve : s.resolve = s₀.resolve) (h₀ : ∀ c, s₀.admits c = .ok ())
    {e : Expr} (hjudges : ∀ c ∈ e.calls, JudgesAlike v v s s₀ c) {span : Span} {depth : Nat}
    {t : SqlType} (h : v.validateAt s₀ e span depth = .ok t) :
    v.validateAt s e span depth =
      forM (v.catalog.aggregateCalls e) s.admits >>= fun _ => .ok t := by
  have hs := v.validateAt_walks s
  have hs₀ := v.validateAt_walks s₀
  induction e generalizing span depth t with
  | literal l => exact hs.ok_iff_rule.2 (hs₀.ok_iff_rule.1 h)
  | chain fragments => exact hs.ok_iff_rule.2 (hs₀.ok_iff_rule.1 h)
  | cast e target ih =>
    obtain ⟨hle, u, hu, rfl⟩ := hs₀.ok_cast.1 h
    rw [hs.eq_rule _ _ hle, rule, ih hjudges hu, Catalog.aggregateCalls_cast]
    cases forM (v.catalog.aggregateCalls e) s.admits <;> rfl
  | column qualifier name =>
    obtain ⟨hle, ht⟩ := hs₀.ok_column.1 h
    refine hs.ok_column.2 ⟨hle, ?_⟩
    rw [← ht]
    exact congrFun (congrFun (congrFun hresolve qualifier) name) span
  | call c ih =>
    obtain ⟨hle, types, htypes, ht⟩ := hs₀.ok_call.1 h
    rw [calls_call, List.forall_mem_cons] at hjudges
    have hbelow := fun o ho t => @ih o ho
      (fun d hd => hjudges.2 d (List.mem_flatMap.2 ⟨o, ho, hd⟩)) o.span (depth + 1) t
    have hoperands := mapM_eq_forM_bind <|
      ((List.forall₂_and_left _ _).2 ⟨hbelow, htypes⟩).imp fun o t h => h.1 t h.2
    have hcall : (v.validation s).call c types = v.admission s c >>= fun _ => .ok t := by
      have hbind := validatedType_eq_bind h₀ hjudges.1 types
      rwa [show v.validatedType s₀ c types = .ok t from ht] at hbind
    rw [hs.eq_rule _ _ hle, rule, hoperands, Catalog.aggregateCalls_call]
    by_cases hagg : v.catalog.isAggregate c.name = true
    · -- the operands of an accepted aggregate hold no other one, so that the scope is asked once
      rw [Catalog.aggregateCalls_operands_eq_nil.2 (aggregate_of_validateAt h hagg).1, if_pos hagg]
      rw [admission, if_pos hagg] at hcall
      refine hcall.trans ?_
      rw [List.append_nil, List.forM_cons, List.forM_nil]
      cases s.admits c <;> rfl
    · rw [admission, if_neg hagg] at hcall
      rw [if_neg hagg, List.nil_append]
      cases forM (c.operands.flatMap (v.catalog.aggregateCalls ·.expr)) s.admits with
      | error d => rfl
      | ok u => exact hcall

theorem validatedType_eq_or_error (h₀ : ∀ c, s₀.admits c = .ok ()) {c : Call}
    (hjudges : JudgesAlike v v s s₀ c) (types : List SqlType) :
    v.validatedType s c types = v.validatedType s₀ c types ∨
      ∃ d, v.validatedType s c types = .error d := by
  rw [validatedType_eq_bind h₀ hjudges]
  cases v.validatedType s₀ c types with
  | error d => exact .inl rfl
  | ok t =>
    cases v.admission s c with
    | error d => exact .inr ⟨d, rfl⟩
    | ok u => exact .inl rfl

/-- A call that is refused, though not under a scope that admits everything, is an aggregate call
that the scope does not admit. -/
theorem admits_of_refuses (h₀ : ∀ c, s₀.admits c = .ok ()) {x : Site} {d : Diagnostic}
    (hjudges : ∀ c, x.node = .call c → JudgesAlike v v s s₀ c)
    (h : Walks.Refuses (v.validation s) (v.validation s₀) (v.validateAt s) (v.validateAt s₀) x d) :
    ∃ c, x.node = .call c ∧ v.catalog.isAggregate c.name = true ∧ s.admits c = .error d := by
  obtain ⟨c, types, hx, _, _, hrefused, hother⟩ := h
  refine ⟨c, hx, ?_⟩
  have hbind : v.validatedType s c types = .error d := hrefused
  rw [validatedType_eq_bind h₀ (hjudges c hx)] at hbind
  rcases bind_eq_error.1 hbind with h | ⟨t, _, h⟩
  · exact absurd h hother
  rcases bind_eq_error.1 h with h | ⟨_, _, h⟩
  · unfold admission at h
    split at h
    · rename_i hagg; exact ⟨hagg, h⟩
    · cases h
  · cases h

/-- What is refused by a scope that admits everything is refused by another one for the same cause
or for an aggregate call that this one does not admit. -/
theorem validateAt_of_error (hresolve : s.resolve = s₀.resolve) (h₀ : ∀ c, s₀.admits c = .ok ())
    {e : Expr} (hjudges : ∀ c ∈ e.calls, JudgesAlike v v s s₀ c) {span : Span} {depth : Nat}
    {d : Diagnostic} (h : v.validateAt s₀ e span depth = .error d) :
    v.validateAt s e span depth = .error d ∨
      ∃ c ∈ v.catalog.aggregateCalls e, ∃ d', s.admits c = .error d' ∧
        v.validateAt s e span depth = .error d' := by
  rcases (v.validateAt_walks s).eq_or_refuses (v.validateAt_walks s₀) rfl hresolve
    (fun c hc => validatedType_eq_or_error h₀ (hjudges c hc)) span depth with
    heq | ⟨d', ⟨x, hx, hrefuses⟩, h'⟩
  · exact .inl (by rw [heq, h])
  · have hmem (c : Call) (hnode : x.node = .call c) : c ∈ e.calls :=
      (mem_calls_iff_site span depth).2 ⟨x, hx, hnode⟩
    obtain ⟨c, hnode, hagg, hadmits⟩ :=
      admits_of_refuses h₀ (fun c hnode => hjudges c (hmem c hnode)) hrefuses
    exact .inr ⟨c, Catalog.mem_aggregateCalls.2 ⟨hmem c hnode, hagg⟩, d', hadmits, h'⟩

/-- In a clause without aggregates an expression is accepted exactly if it is in the select list and
has no aggregate call. -/
theorem validate_inClause_eq_ok {ts : TableScope} {clause : Clause}
    (hclause : clause = .whereRows ∨ clause = .groupBy) {e : Expr}
    (hjudges : ∀ c ∈ e.calls,
      JudgesAlike v v (ts.inClause clause).toScope (ts.inClause .select).toScope c) {t : SqlType} :
    v.validate (ts.inClause clause).toScope e = .ok t ↔
      v.validate (ts.inClause .select).toScope e = .ok t ∧
        ∀ c ∈ e.calls, v.catalog.isAggregate c.name = false := by
  have hnone : (∀ c ∈ e.calls, v.catalog.isAggregate c.name = false) ↔
      v.catalog.aggregateCalls e = [] := by
    unfold Catalog.aggregateCalls
    simp only [List.filter_eq_nil_iff, Bool.not_eq_true]
  have hdenies : ∀ c, (ts.inClause clause).toScope.admits c ≠ .ok () := by
    intro c h
    obtain ⟨hwhere, hgroup⟩ := TableScope.admits_eq_ok_iff.1 h
    rcases hclause with rfl | rfl
    · exact hwhere rfl
    · exact hgroup rfl
  have hresolve := ts.toScope_resolve_inClause clause .select
  have hselect : ∀ c, (ts.inClause .select).toScope.admits c = .ok () := fun _ => rfl
  rw [hnone]
  constructor
  · intro h
    rcases ok_or_error (v.validate (ts.inClause .select).toScope e) with ⟨u, hu⟩ | ⟨d, hd⟩
    · have hbind : v.validate (ts.inClause clause).toScope e = _ :=
        validateAt_eq_bind hresolve hselect hjudges hu
      rw [h] at hbind
      cases haggs : v.catalog.aggregateCalls e with
      | nil => rw [haggs] at hbind; cases hbind; exact ⟨hu, rfl⟩
      | cons c rest =>
        rw [haggs, List.forM_cons] at hbind
        obtain ⟨_, hrun, _⟩ := bind_eq_ok.1 hbind.symm
        obtain ⟨_, hc, _⟩ := bind_eq_ok.1 hrun
        exact absurd hc (hdenies c)
    · rcases validateAt_of_error hresolve hselect hjudges hd with h' | ⟨_, _, _, _, h'⟩
      · cases h.symm.trans h'
      · cases h.symm.trans h'
  · rintro ⟨h, hnil⟩
    have hbind : v.validate (ts.inClause clause).toScope e = _ :=
      validateAt_eq_bind hresolve hselect hjudges h
    rw [hbind, hnil]; rfl

/-- The scope's say on aggregates factors out. Take two scopes that resolve columns alike, one of
which admits every aggregate, and an expression whose calls are judged alike in both. What that one
accepts, the other accepts with the same type if it admits every aggregate call in the expression,
and else refuses for the first that it does not admit, from left to right. What that one refuses,
the other refuses too, for the same cause or for an aggregate call that it does not admit. Over
tables every expression has the same result in the select list, in HAVING and in ORDER BY, and one
whose calls are judged alike in WHERE (or GROUP BY) and in the select list is accepted there exactly
if it is accepted in the select list and has no aggregate call. -/
theorem admission_factors_out (v : Validator) (e : Expr) :
    (∀ s s₀ : Scope, s.resolve = s₀.resolve → (∀ c, s₀.admits c = .ok ()) →
      (∀ c ∈ e.calls, JudgesAlike v v s s₀ c) →
      (∀ t, v.validate s₀ e = .ok t →
        ((∀ c ∈ v.catalog.aggregateCalls e, s.admits c = .ok ()) ∧ v.validate s e = .ok t) ∨
        ∃ before c after d, v.catalog.aggregateCalls e = before ++ c :: after ∧
          (∀ b ∈ before, s.admits b = .ok ()) ∧ s.admits c = .error d ∧
          v.validate s e = .error d) ∧
      ∀ x, v.validate s₀ e = .error x →
        v.validate s e = .error x ∨ ∃ c ∈ v.catalog.aggregateCalls e, ∃ d,
          s.admits c = .error d ∧ v.validate s e = .error d) ∧
    ∀ ts : TableScope,
      v.validate (ts.inClause .having).toScope e = v.validate (ts.inClause .select).toScope e ∧
      v.validate (ts.inClause .orderBy).toScope e = v.validate (ts.inClause .select).toScope e ∧
      ∀ clause, clause = .whereRows ∨ clause = .groupBy →
        (∀ c ∈ e.calls,
          JudgesAlike v v (ts.inClause clause).toScope (ts.inClause .select).toScope c) → ∀ t,
        (v.validate (ts.inClause clause).toScope e = .ok t ↔
          v.validate (ts.inClause .select).toScope e = .ok t ∧
            ∀ c ∈ e.calls, v.catalog.isAggregate c.name = false) := by
  refine ⟨fun s s₀ hresolve h₀ hjudges => ⟨fun t h => ?_, fun x h => ?_⟩, fun ts => ⟨?_, ?_, ?_⟩⟩
  · have hbind : v.validate s e = _ := validateAt_eq_bind hresolve h₀ hjudges h
    rcases forM_cases s.admits (v.catalog.aggregateCalls e) with
      ⟨hall, hrun⟩ | ⟨before, c, after, d, hsplit, hbefore, hc, hrun⟩
    · exact .inl ⟨hall, by rw [hbind, hrun]; rfl⟩
    · exact .inr ⟨before, c, after, d, hsplit, hbefore, hc, by rw [hbind, hrun]; rfl⟩
  · exact validateAt_of_error hresolve h₀ hjudges h
  · rw [ts.toScope_inClause_eq_select (by simp) (by simp)]
  · rw [ts.toScope_inClause_eq_select (by simp) (by simp)]
  · intro clause hclause hjudges t
    exact validate_inClause_eq_ok hclause hjudges

/-- Of two aggregate calls the first is admitted and the second is not; in WHERE neither is. -/
theorem first_refused_of_totalOrGreatest :
    let v : Validator := ⟨.builtin, .standard⟩
    let e : Expr := .call Orders.totalOrGreatest
    v.catalog.aggregateCalls e = [Orders.total, Orders.greatest] ∧
      v.validate (Orders.scope .select).toScope e = .ok (.nullable .bigint) ∧
      (∃ before c after d, [Orders.total, Orders.greatest] = before ++ c :: after ∧
        (∀ b ∈ before, Orders.sumsOnly.admits b = .ok ()) ∧
        Orders.sumsOnly.admits c = .error d ∧ v.validate Orders.sumsOnly e = .error d) ∧
      v.validate (Orders.scope .whereRows).toScope e ≠ .ok (.nullable .bigint) := by
  intro v e
  have hcalls : v.catalog.aggregateCalls e = [Orders.total, Orders.greatest] := rfl
  have hok : v.validate (Orders.scope .select).toScope e = .ok (.nullable .bigint) := rfl
  have hrefused : Orders.sumsOnly.admits Orders.greatest ≠ .ok () := by decide
  have hstd : v.catalog.Standard := by decide
  refine ⟨hcalls, hok, ?_, fun h => ?_⟩
  · rcases ((admission_factors_out v e).1 Orders.sumsOnly (Orders.scope .select).toScope rfl
      (fun _ => rfl) fun c _ => judgesAlike_of_standard hstd v _ _ c).1 _ hok with
      ⟨hall, _⟩ | hfirst
    · exact absurd (hall Orders.greatest (by rw [hcalls]; simp)) hrefused
    · exact hfirst
  · have hnone := (((admission_factors_out v e).2 (Orders.scope .select)).2.2 .whereRows (.inl rfl)
      (fun c _ => judgesAlike_of_standard hstd v _ _ c) _).1 h
    have hmem : Orders.total ∈ e.calls := List.mem_cons_of_mem _ List.mem_cons_self
    cases hnone.2 Orders.total hmem

/-- A rule that asks the scope about its call takes it in the select list and refuses it in WHERE,
though it is no aggregate. So the scope's say reaches expressions without aggregates, and WHERE does
not accept all of them that the select list accepts. -/
theorem admission_seen_by_rule :
    (¬ ∀ (v : Validator) (e : Expr) (s s₀ : Scope), s.resolve = s₀.resolve →
      (∀ c, s₀.admits c = .ok ()) → ∀ t, v.validate s₀ e = .ok t →
      (∀ c ∈ v.catalog.aggregateCalls e, s.admits c = .ok ()) → v.validate s e = .ok t) ∧
    ¬ ∀ (v : Validator) (e : Expr) (ts : TableScope) (t : SqlType),
      v.validate (ts.inClause .select).toScope e = .ok t →
      (∀ c ∈ e.calls, v.catalog.isAggregate c.name = false) →
      v.validate (ts.inClause .whereRows).toScope e = .ok t := by
  let v : Validator := ⟨Inquiry.catalog fun k b => (k.scope.admits b.call).isOk, .standard⟩
  let e : Expr := .call Inquiry.call
  let ts := Orders.scope .select
  have htaken : v.validate (ts.inClause .select).toScope e = .ok .boolean := rfl
  have hrefused : v.validate (ts.inClause .whereRows).toScope e ≠ .ok .boolean := by decide
  have hnone : ∀ c ∈ e.calls, v.catalog.isAggregate c.name = false := by decide
  have hno : ∀ c ∈ v.catalog.aggregateCalls e,
      (ts.inClause .whereRows).toScope.admits c = .ok () := by decide
  constructor
  · intro h
    exact hrefused (h v e (ts.inClause .whereRows).toScope (ts.inClause .select).toScope rfl
      (fun _ => rfl) _ htaken hno)
  · intro h
    exact hrefused (h v e ts _ htaken hnone)

end Validator

end SqlTyping
