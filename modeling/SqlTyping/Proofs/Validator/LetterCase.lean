/-
The case of names. Calls are looked up, searched for aggregates and named in diagnostics by their
upper-case names only, so over tables and standard rules two expressions that differ in the case of
names of calls have the same types, are refused with the same diagnostics, and get the same answers
from the probe.
-/
import SqlTyping.Catalog.Builtin
import SqlTyping.Proofs.Operator.Appearance
import SqlTyping.Proofs.Operator.Gates
import SqlTyping.Proofs.Scope
import SqlTyping.Proofs.Validator.Lockstep

namespace SqlTyping

open SqlTyping.Expr Outcome

/-- The calls differ at most in the case of their names and in their operands. -/
structure SameUpToCase (c c' : Call) : Prop where
  name : Text.upper c.name = Text.upper c'.name
  quantifier : c.quantifier = c'.quantifier
  span : c.span = c'.span

/-! ## One call -/

namespace SameUpToCase

variable {c c' : Call}

theorem lookup_eq (h : SameUpToCase c c') (cat : Catalog) :
    cat.lookup c.name = cat.lookup c'.name := by
  unfold Catalog.lookup
  rw [h.name]

theorem isAggregate_eq (h : SameUpToCase c c') (cat : Catalog) :
    cat.isAggregate c.name = cat.isAggregate c'.name := by
  unfold Catalog.isAggregate
  rw [h.lookup_eq]

theorem operatorOf_eq (h : SameUpToCase c c') (v : Validator) :
    v.operatorOf c = v.operatorOf c' := by
  unfold Validator.operatorOf
  rw [h.lookup_eq, h.name, h.span]

theorem admits_eq (h : SameUpToCase c c') (ts : TableScope) : ts.admits c = ts.admits c' := by
  unfold TableScope.admits
  rw [h.name, h.span]

/-- The calls inside the two calls are related one by one, in the order of the text. -/
def Inside (c c' : Call) : Prop :=
  List.Forall₂ SameUpToCase (c.operands.flatMap (·.expr.calls)) (c'.operands.flatMap (·.expr.calls))

theorem inside (h : Corresponds SameUpToCase (.call c) (.call c')) : Inside c c' :=
  List.rel_flatMap h.operands fun _ _ ho => ho.expr.calls

/-- The searches for an aggregate inside the calls find calls in the same place, or none. -/
theorem nestedAggregate?_related (h : Inside c c') (cat : Catalog) :
    Option.Rel SameUpToCase (cat.nestedAggregate? c) (cat.nestedAggregate? c') := by
  rw [Catalog.nestedAggregate?_eq_find?, Catalog.nestedAggregate?_eq_find?]
  exact find?_related h fun _ _ h => h.isAggregate_eq cat

theorem validateAggregate_eq (hc : SameUpToCase c c') (hinside : Inside c c') {s s' : Scope}
    (hadmits : s.admits c = s'.admits c') (op : Operator) (cat : Catalog) :
    op.validateAggregate cat s c = op.validateAggregate cat s' c' := by
  have hnested := nestedAggregate?_related hinside cat
  unfold Operator.validateAggregate
  rw [hc.quantifier, hc.span, hadmits]
  generalize cat.nestedAggregate? c = nested at hnested ⊢
  generalize cat.nestedAggregate? c' = nested' at hnested ⊢
  cases hnested with
  | none => rfl
  | some hn => simp only [hn.name, hn.span]

/-- The gates treat calls alike that differ in the case of names and look alike. -/
theorem validateCall_eq {op : Operator} (hrule : op.rule.isStandard = true) {b b' : TypedCall}
    (hb : b.Resembles b') (hc : SameUpToCase b.call b'.call) (hinside : Inside b.call b'.call)
    {s s' : Scope} (hadmits : s.admits b.call = s'.admits b'.call) (v : Validator) :
    op.validateCall v s b = op.validateCall v s' b' := by
  rw [Operator.validateCall_eq, Operator.validateCall_eq, hc.quantifier, hb.span,
    Operator.checkCount_congr hb, Operator.demand_congr hrule hb,
    validateAggregate_eq hc hinside hadmits]

theorem looksLike {b b' : TypedCall} (h : Corresponds SameUpToCase (.call b.call) (.call b'.call))
    (htypes : b.types = b'.types) : b.LooksLike b' where
  span := h.calls_related.span
  types := htypes
  operands := h.operands.imp fun _ _ ho =>
    ⟨ho.span_eq, ho.expr.isNull_eq false, ho.expr.literalClass_eq⟩

end SameUpToCase

/-! ## Whole expressions -/

namespace Validator

theorem inStep_of_sameUpToCase (v : Validator) (s : Scope) :
    InStep v v s s (fun _ => False) SameUpToCase where
  limit := .inl rfl
  resolve := rfl
  span _ _ h := h.span
  operator _ _ h := .inl (h.operatorOf_eq v)

theorem gatesAgree_of_standard {v : Validator} (hstd : v.catalog.Standard) (ts : TableScope) :
    GatesAgree v v ts.toScope ts.toScope SameUpToCase := by
  intro op b b' hop htypes hcalls
  have hb := (SameUpToCase.looksLike hcalls htypes).resembles
  have hc := hcalls.calls_related
  have hadmits : ts.toScope.admits b.call = ts.toScope.admits b'.call := hc.admits_eq ts
  exact hc.validateCall_eq (hstd.of_lookup hop) hb (SameUpToCase.inside hcalls) hadmits v

theorem probesAgree_of_standard {v : Validator} (hstd : v.catalog.Standard) (s : Scope)
    {c c' : Call} (hc : Corresponds SameUpToCase (.call c) (.call c')) :
    ProbesAgree v v s s c c' := by
  rintro op b b' hop rfl rfl htypes
  have hb := (SameUpToCase.looksLike hc htypes).resembles
  unfold Operator.accepts
  rw [Operator.check_congr (hstd.of_lookup hop) hb]

/-- Over tables and standard rules the case of names of calls does not matter: expressions that are
the same but for it have the same types and the same diagnostics, to the last field, with and
without checks, and such calls get the same answer from the probe. -/
theorem validation_ignores_case_of_names (v : Validator) (ts : TableScope)
    (hstd : v.catalog.Standard) :
    (∀ e e', Corresponds SameUpToCase e e' →
      v.validate ts.toScope e = v.validate ts.toScope e' ∧
      v.derive ts.toScope e = v.derive ts.toScope e') ∧
    ∀ c c', Corresponds SameUpToCase (.call c) (.call c') →
      v.probe ts.toScope c = v.probe ts.toScope c' := by
  have hstep := inStep_of_sameUpToCase v ts.toScope
  refine ⟨fun e e' he => ⟨?_, ?_⟩, fun c c' hc => ?_⟩
  · exact (hstep.validate_agree (gatesAgree_of_standard hstd ts) he).eq_of_never
  · exact (hstep.derive_agree he).eq_of_never
  · exact (hstep.probe_agree (probesAgree_of_standard hstd _ hc) hc).eq_of_never

/-- Long s is a lower-case S: the sum is found, and named as SUM where it may not stand. -/
theorem totalOrZero_in_other_letters :
    let v : Validator := ⟨.builtin, .standard⟩
    let total : Call := { Orders.total with name := "ſuM" }
    let c : Call := ⟨"Coaleſce", [⟨.call total, total.span⟩,
      ⟨.literal (.integer 0), .onLine 1 23 23⟩], none, .onLine 1 1 24⟩
    Corresponds SameUpToCase (.call Orders.totalOrZero) (.call c) ∧
      v.validate (Orders.scope .having).toScope (.call c) = .ok .bigint ∧
      v.validate (Orders.scope .whereRows).toScope (.call c) =
        .error (.aggregateInWhere "SUM" Orders.total.span) ∧
      v.probe (Orders.scope .having).toScope c = .ok true := by
  intro v total c
  have hstd : v.catalog.Standard := by decide
  have htotal : Corresponds SameUpToCase (.call Orders.total) (.call total) :=
    .call ⟨by decide, rfl, rfl⟩ (.cons ⟨_, .column none "amount"⟩ .nil)
  have hc : Corresponds SameUpToCase (.call Orders.totalOrZero) (.call c) :=
    .call ⟨by decide, rfl, rfl⟩ (.cons ⟨_, htotal⟩ (.cons ⟨_, .literal (.integer 0)⟩ .nil))
  have hhaving := validation_ignores_case_of_names v (Orders.scope .having) hstd
  have hwhere := validation_ignores_case_of_names v (Orders.scope .whereRows) hstd
  refine ⟨hc, ?_, ?_, ?_⟩
  · rw [← (hhaving.1 _ _ hc).1]; rfl
  · rw [← (hwhere.1 _ _ hc).1]; rfl
  · rw [← hhaving.2 _ _ hc]; rfl

end Validator

end SqlTyping
