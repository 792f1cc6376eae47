/-
What it means for an expression to be accepted, said of all its nodes at once. `typeOf` is the type
of an expression from the leaves up, without a depth limit and without a check; it is there for
every expression, and a column that does not resolve counts as NULL in it. An expression is
accepted with a type exactly if it is not too high, all its names have a meaning, this is its type,
and every registered call in it is one that its operator takes.

Both walks are read off one induction: a walk that types a call by `callType` where a condition
holds, and refuses it elsewhere, types an expression by `typeOf` where every site meets what the
walk asks of it.
-/
import SqlTyping.Catalog.Builtin
import SqlTyping.Proofs.Operator.Gates
import SqlTyping.Proofs.Scope
import SqlTyping.Proofs.Validator.Walk

namespace SqlTyping

open SqlTyping.Expr Walk

/-- The type of a column reference, that of NULL where it does not resolve. -/
def Scope.columnType (s : Scope) (qualifier : Option String) (name : String) (span : Span) :
    SqlType :=
  match s.resolve qualifier name span with
  | .ok t => t
  | .error _ => .null

theorem Scope.columnType_eq {s : Scope} {qualifier : Option String} {name : String} {span : Span}
    {t : SqlType} (h : s.resolve qualifier name span = .ok t) :
    s.columnType qualifier name span = t := by
  unfold columnType; rw [h]

namespace Validator

/-! ## Types from the leaves up -/

mutual

/-- The type of an expression at a span, from the leaves up. -/
def typeOf (v : Validator) (s : Scope) : Expr → Span → SqlType
  | .literal l, _ => l.type
  | .chain fragments, _ => chainType fragments
  | .cast e target, span => castType (v.typeOf s e span) target
  | .column qualifier name, span => s.columnType qualifier name span
  | .call ⟨name, operands, quantifier, place⟩, _ =>
    v.callType ⟨name, operands, quantifier, place⟩ (v.typesOf s operands)
termination_by structural e => e

/-- The types of operands, each at its own span. -/
def typesOf (v : Validator) (s : Scope) : List Operand → List SqlType
  | [] => []
  | ⟨e, span⟩ :: operands => v.typeOf s e span :: v.typesOf s operands
termination_by structural operands => operands

end

theorem typesOf_eq_map (v : Validator) (s : Scope) (operands : List Operand) :
    v.typesOf s operands = operands.map fun o => v.typeOf s o.expr o.span := by
  induction operands with
  | nil => rfl
  | cons o operands ih => rw [typesOf, ih, List.map_cons]

theorem length_typesOf (v : Validator) (s : Scope) (operands : List Operand) :
    (v.typesOf s operands).length = operands.length := by
  rw [typesOf_eq_map, List.length_map]

/-- The call with the types of its operands. -/
def typed (v : Validator) (s : Scope) (c : Call) : TypedCall :=
  ⟨c, v.typesOf s c.operands, v.length_typesOf s c.operands⟩

/-! ## One walk -/

/-- What a walk asks of a site: that it is within the limit, that a column resolves, and of a call
whatever the walk asks of calls. -/
def Meets (s : Scope) (limit : Nat) (P : Call → Prop) (x : Site) : Prop :=
  x.depth ≤ limit ∧
    match x.node with
    | .column qualifier name => ∃ t, s.resolve qualifier name x.span = .ok t
    | .call c => P c
    | _ => True

theorem operandTypes_iff {f : TypingFn} {operands : List Operand} {depth : Nat}
    {types : List SqlType} {R : Operand → Prop} {τ : Operand → SqlType}
    (h : ∀ o ∈ operands, ∀ t, f o.expr o.span depth = .ok t ↔ R o ∧ τ o = t) :
    OperandTypes f operands depth types ↔ (∀ o ∈ operands, R o) ∧ operands.map τ = types := by
  induction operands generalizing types with
  | nil => simp [OperandTypes, eq_comm]
  | cons o operands ih =>
    have ho := h o List.mem_cons_self
    have hos := fun types => @ih types fun o' ho' => h o' (List.mem_cons_of_mem _ ho')
    unfold OperandTypes at hos ⊢
    rw [List.forall₂_cons_left_iff, List.forall_mem_cons, List.map_cons]
    constructor
    · rintro ⟨t, ts, ht, hts, rfl⟩
      obtain ⟨hR, rfl⟩ := (ho t).1 ht
      obtain ⟨hRs, rfl⟩ := (hos ts).1 hts
      exact ⟨⟨hR, hRs⟩, rfl⟩
    · rintro ⟨⟨hR, hRs⟩, rfl⟩
      exact ⟨_, _, (ho _).2 ⟨hR, rfl⟩, (hos _).2 ⟨hRs, rfl⟩, rfl⟩

/-- A walk that types a call by `callType` where a condition on its typed operands holds, and
refuses it elsewhere, types an expression by `typeOf` if every site meets what is asked of it, and
refuses it otherwise. -/
theorem ok_iff_meets {v : Validator} {s : Scope} {w : Walk} {f : TypingFn}
    {Q : TypedCall → Prop} (hf : w.Walks f) (hres : w.resolve = s.resolve)
    (hcall : ∀ b t, w.call b.call b.types = .ok t ↔ Q b ∧ v.callType b.call b.types = t)
    {e : Expr} {span : Span} {depth : Nat} {t : SqlType} :
    f e span depth = .ok t ↔
      (∀ x ∈ e.sites span depth, Meets s w.limit (fun c => Q (v.typed s c)) x) ∧
      v.typeOf s e span = t := by
  induction e generalizing span depth t with
  | literal l =>
    rw [hf.ok_iff_rule, sites, List.forall_mem_singleton]
    simp [rule, Meets, typeOf]
  | chain fragments =>
    rw [hf.ok_iff_rule, sites, List.forall_mem_singleton]
    simp [rule, Meets, typeOf]
  | cast e target ih =>
    rw [hf.ok_cast, sites, List.forall_mem_cons]
    constructor
    · rintro ⟨hle, u, hu, rfl⟩
      obtain ⟨hsites, rfl⟩ := ih.1 hu
      exact ⟨⟨⟨hle, trivial⟩, hsites⟩, rfl⟩
    · rintro ⟨⟨⟨hle, -⟩, hsites⟩, rfl⟩
      exact ⟨hle, _, ih.2 ⟨hsites, rfl⟩, rfl⟩
  | column qualifier name =>
    rw [hf.ok_column, hres, sites, List.forall_mem_singleton]
    constructor
    · rintro ⟨hle, h⟩
      exact ⟨⟨hle, t, h⟩, Scope.columnType_eq h⟩
    · rintro ⟨⟨hle, u, h⟩, rfl⟩
      refine ⟨hle, ?_⟩
      rw [typeOf, Scope.columnType_eq h]; exact h
  | call c ih =>
    -- by induction, the only types that the operands can have are those of `typesOf`
    have hos : ∀ types, OperandTypes f c.operands (depth + 1) types ↔
        (∀ o ∈ c.operands, ∀ x ∈ o.expr.sites o.span (depth + 1),
          Meets s w.limit (fun c => Q (v.typed s c)) x) ∧
        v.typesOf s c.operands = types := by
      intro types
      rw [typesOf_eq_map]
      exact operandTypes_iff fun o ho t => ih o ho
    rw [hf.ok_call, sites_call, List.forall_mem_cons]
    constructor
    · rintro ⟨hle, types, htypes, hc⟩
      obtain ⟨hsites, rfl⟩ := (hos types).1 htypes
      obtain ⟨hQ, rfl⟩ := (hcall (v.typed s c) t).1 hc
      refine ⟨⟨⟨hle, hQ⟩, fun x hx => ?_⟩, rfl⟩
      obtain ⟨o, ho, hx⟩ := List.mem_flatMap.1 hx
      exact hsites o ho x hx
    · rintro ⟨⟨⟨hle, hQ⟩, hsites⟩, rfl⟩
      have hbelow : ∀ o ∈ c.operands, ∀ x ∈ o.expr.sites o.span (depth + 1),
          Meets s w.limit (fun c => Q (v.typed s c)) x := fun o ho x hx =>
        hsites x (List.mem_flatMap.2 ⟨o, ho, hx⟩)
      exact ⟨hle, _, (hos _).2 ⟨hbelow, rfl⟩, (hcall (v.typed s c) _).2 ⟨hQ, rfl⟩⟩

/-- Every site meets what is asked exactly if the expression is not too high, every column in it
resolves, and every call in it meets what is asked of calls. -/
theorem forall_meets_iff {s : Scope} {limit : Nat} {P : Call → Prop} {e : Expr} {span : Span}
    {depth : Nat} :
    (∀ x ∈ e.sites span depth, Meets s limit P x) ↔
      depth + e.height ≤ limit + 1 ∧
      (∀ x ∈ e.sites span depth, ∀ qualifier name, x.node = .column qualifier name →
        ∃ t, s.resolve qualifier name x.span = .ok t) ∧
      ∀ c ∈ e.calls, P c := by
  rw [← @sites_depth_le_iff e span depth limit]
  constructor
  · intro h
    refine ⟨fun x hx => (h x hx).1, fun x hx qualifier name hn => ?_, fun c hc => ?_⟩
    · have := (h x hx).2
      rw [hn] at this; exact this
    · obtain ⟨x, hx, hn⟩ := (mem_calls_iff_site span depth).1 hc
      have := (h x hx).2
      rw [hn] at this; exact this
  · rintro ⟨hdepth, hcolumns, hcalls⟩ x hx
    refine ⟨hdepth x hx, ?_⟩
    cases hn : x.node with
    | literal l => trivial
    | chain fragments => trivial
    | cast e target => trivial
    | column qualifier name => exact hcolumns x hx qualifier name hn
    | call c => exact hcalls c ((mem_calls_iff_site span depth).2 ⟨x, hx, hn⟩)

/-! ## The two walks -/

variable {v : Validator} {s : Scope} {e : Expr} {span : Span} {depth : Nat} {t : SqlType}

/-- Without checks an expression has its type if it is within the limit and its names have a
meaning. -/
theorem deriveAt_eq_ok_iff :
    v.deriveAt s e span depth = .ok t ↔
      (∀ x ∈ e.sites span depth, Meets s v.config.maxDepth v.Known x) ∧ v.typeOf s e span = t :=
  ok_iff_meets (v.deriveAt_walks s) rfl fun _ _ => resultType_eq_ok

/-- With checks an expression has its type if moreover the gates let every registered call in it
through. -/
theorem validateAt_eq_ok_iff :
    v.validateAt s e span depth = .ok t ↔
      (∀ x ∈ e.sites span depth, Meets s v.config.maxDepth (fun c => v.Known c ∧
        ∀ op, v.catalog.lookup c.name = some op →
          op.validateCall v s (v.typed s c) = .ok ()) x) ∧ v.typeOf s e span = t :=
  ok_iff_meets (v.validateAt_walks s) rfl fun _ _ => validatedType_eq_ok_iff

/-! ## Acceptance -/

/-- An expression is accepted with a type exactly if its height is within the limit, every column
in it resolves, every call in it is known, this is its type, and every registered call in it, bound
to the types of its operands, is one that its operator takes. -/
theorem validate_eq_ok_iff (v : Validator) (s : Scope) (e : Expr) (t : SqlType)
    (hstd : v.catalog.Standard) :
    v.validate s e = .ok t ↔
      e.height ≤ v.config.maxDepth ∧
      (∀ x ∈ e.sites e.rootSpan 1, ∀ qualifier name, x.node = .column qualifier name →
        ∃ u, s.resolve qualifier name x.span = .ok u) ∧
      (∀ c ∈ e.calls, v.Known c) ∧
      v.typeOf s e e.rootSpan = t ∧
      ∀ c ∈ e.calls, ∀ op, v.catalog.lookup c.name = some op →
        op.Takes v s (v.typed s c) := by
  have htakes : ∀ c op, v.catalog.lookup c.name = some op →
      (op.validateCall v s (v.typed s c) = .ok () ↔ op.Takes v s (v.typed s c)) :=
    fun c op hop => Operator.validateCall_eq_ok_iff (hstd.of_lookup hop)
  unfold validate
  rw [validateAt_eq_ok_iff, forall_meets_iff]
  constructor
  · rintro ⟨⟨hheight, hcolumns, hcalls⟩, ht⟩
    refine ⟨by omega, hcolumns, fun c hc => (hcalls c hc).1, ht, fun c hc op hop => ?_⟩
    exact (htakes c op hop).1 ((hcalls c hc).2 op hop)
  · rintro ⟨hheight, hcolumns, hknown, ht, hcalls⟩
    refine ⟨⟨by omega, hcolumns, fun c hc => ⟨hknown c hc, fun op hop => ?_⟩⟩, ht⟩
    exact (htakes c op hop).2 (hcalls c hc op hop)

theorem takes_of_validate_totalOrZero :
    let v : Validator := ⟨.builtin, .standard⟩
    let s := (Orders.scope .having).toScope
    v.catalog.Standard ∧ v.validate s (.call Orders.totalOrZero) = .ok .bigint ∧
      v.typeOf s (.call Orders.totalOrZero) Orders.totalOrZero.span = .bigint ∧
      Orders.total ∈ (Expr.call Orders.totalOrZero).calls ∧
      ∀ op, v.catalog.lookup Orders.total.name = some op →
        op.Takes v s (v.typed s Orders.total) := by
  intro v s
  have hstd : v.catalog.Standard := by decide
  have hok : v.validate s (.call Orders.totalOrZero) = .ok .bigint := rfl
  have hmem : Orders.total ∈ (Expr.call Orders.totalOrZero).calls :=
    List.mem_cons_of_mem _ List.mem_cons_self
  obtain ⟨_, _, _, htype, htakes⟩ := (validate_eq_ok_iff v s _ _ hstd).1 hok
  exact ⟨hstd, hok, htype, hmem, htakes Orders.total hmem⟩

end Validator

end SqlTyping
