/-
What validation asks of the catalog. The catalog is looked into for the operator of a call and, at
an aggregate, for every call inside it, so two catalogs that have the same operators under the
names of the calls in an expression give the same results on it, and registering an operator under
another name changes nothing. What the rules of those operators ask of the catalog is theirs: where
it changes no verdict on a call, it changes no result.
-/
import Mathlib.Data.List.Find
import SqlTyping.Catalog.Builtin
import SqlTyping.Proofs.Operator.Gates
import SqlTyping.Proofs.Scope
import SqlTyping.Proofs.Validator.Lockstep

namespace SqlTyping

open SqlTyping.Expr Outcome

/-! ## One call -/

theorem Catalog.nestedAggregate?_congr {cat cat' : Catalog} {c : Call}
    (h : ∀ d, Below d c → cat.lookup d.name = cat'.lookup d.name) :
    cat.nestedAggregate? c = cat'.nestedAggregate? c := by
  rw [nestedAggregate?_eq_find?, nestedAggregate?_eq_find?]
  refine List.find?_congr fun d hd => ?_
  obtain ⟨o, ho, hd⟩ := List.mem_flatMap.1 hd
  unfold isAggregate
  rw [h d ⟨o, ho, hd⟩]

namespace Validator

variable {cat cat' : Catalog} {config : Config} {s : Scope} {e : Expr}

/-- The calls are one call, and the catalogs have the same operators for it and the calls in it. -/
def SameOperators (cat cat' : Catalog) (c c' : Call) : Prop :=
  c = c' ∧ ∀ d ∈ (Expr.call c).calls, cat.lookup d.name = cat'.lookup d.name

theorem inStep_of_sameOperators (cat cat' : Catalog) (config : Config) (s : Scope) :
    InStep ⟨cat, config⟩ ⟨cat', config⟩ s s (fun _ => False) (SameOperators cat cat') where
  limit := .inl rfl
  resolve := rfl
  span _ _ h := by rw [h.1]
  operator c c' h := by
    obtain ⟨rfl, hsame⟩ := h
    have hc : cat.lookup c.name = cat'.lookup c.name := hsame c (mem_calls.2 (self_mem_nodes _))
    unfold operatorOf
    rw [hc]
    exact .refl _ _

theorem SameOperators.validateAggregate_eq {c : Call} (h : SameOperators cat cat' c c)
    (op : Operator) (s : Scope) : op.validateAggregate cat s c = op.validateAggregate cat' s c := by
  have hself : c ∈ (Expr.call c).calls := mem_calls.2 (self_mem_nodes _)
  unfold Operator.validateAggregate
  rw [Catalog.nestedAggregate?_congr fun d hd => h.2 d (mem_calls_of_below hself hd)]

/-! ## Whole expressions -/

/-- The validators give the same result on the expression without checks. If they judge its calls
alike they give the same one with checks, and the same answer on every call in it that they judge
alike. -/
structure SameResults (v v' : Validator) (s : Scope) (e : Expr) : Prop where
  derive : v.derive s e = v'.derive s e
  validate : (∀ c ∈ e.calls, JudgesAlike v v' s s c) → v.validate s e = v'.validate s e
  probe : ∀ c ∈ e.calls, JudgesAlike v v' s s c → v.probe s c = v'.probe s c

theorem sameResults_of_lookup (h : ∀ c ∈ e.calls, cat.lookup c.name = cat'.lookup c.name) :
    SameResults ⟨cat, config⟩ ⟨cat', config⟩ s e := by
  have hstep := inStep_of_sameOperators cat cat' config s
  -- what is asked of the calls of an expression holds for each call with those in it
  have hsame : ∀ c ∈ e.calls, SameOperators cat cat' c c := fun c hc =>
    ⟨rfl, fun d hd => h d (mem_calls_trans hc hd)⟩
  refine ⟨(hstep.derive_agree (.refl hsame)).eq_of_never, fun hjudges => ?_, fun c hc hjudges => ?_⟩
  · exact (hstep.validate_agree_of_judgesAlike hsame hjudges
      fun op c hc => hc.validateAggregate_eq op s).eq_of_never
  · exact (hstep.probe_agree_of_judgesAlike (fun d hd => hsame d (mem_calls_trans hc hd))
      hjudges).eq_of_never

/-- Validation is local to the names used, as far as rules are: catalogs that have the same operators
under the names of all calls in an expression give the same result on it without checks, and with
checks and from the probe where these operators judge the calls alike within both. So does a
catalog with one more operator, registered under none of these names. -/
theorem validation_local_to_names (config : Config) (s : Scope) (e : Expr) :
    (∀ cat cat' : Catalog, (∀ c ∈ e.calls, cat.lookup c.name = cat'.lookup c.name) →
      SameResults ⟨cat, config⟩ ⟨cat', config⟩ s e) ∧
    ∀ (cat : Catalog) (op : Operator), (∀ c ∈ e.calls, op.name ≠ Text.upper c.name) →
      SameResults ⟨cat.register op, config⟩ ⟨cat, config⟩ s e := by
  refine ⟨fun cat cat' h => sameResults_of_lookup h, fun cat op hnew => ?_⟩
  refine sameResults_of_lookup fun c hc => ?_
  rw [Catalog.lookup_register, if_neg (hnew c hc)]

/-- Another aggregate in the catalog is of no concern to a sum; another sum is. -/
theorem totalOrZero_beside_median :
    let median := Operator.make "median" (.aggregate true) (.families [.numeric]) .firstOrNull
    let sum := Operator.make "sum" .function (.families [.character]) .first
    let e : Expr := .call Orders.totalOrZero
    let s := (Orders.scope .select).toScope
    (∀ c ∈ e.calls, median.name ≠ Text.upper c.name) ∧
      validate ⟨Catalog.builtin.register median, .standard⟩ s e = .ok .bigint ∧
      probe ⟨Catalog.builtin.register median, .standard⟩ s Orders.total = .ok true ∧
      probe ⟨Catalog.builtin.register sum, .standard⟩ s Orders.total = .ok false := by
  intro median sum e s
  have hnew : ∀ c ∈ e.calls, median.name ≠ Text.upper c.name := by decide
  have hmem : Orders.total ∈ e.calls := List.mem_cons_of_mem _ List.mem_cons_self
  have hstd : (Catalog.builtin.register median).Standard := by decide
  have hjudges (c : Call) :
      JudgesAlike ⟨.register .builtin median, .standard⟩ ⟨.builtin, .standard⟩ s s c :=
    judgesAlike_of_standard hstd _ s s c
  have hresults := (validation_local_to_names .standard s e).2 .builtin median hnew
  refine ⟨hnew, ?_, ?_, rfl⟩
  · rw [hresults.validate fun c _ => hjudges c]; rfl
  · rw [hresults.probe _ hmem (hjudges _)]; rfl

/-- A rule that takes its calls only as long as there is no median refuses them once there is one,
though they have nothing to do with it. -/
theorem registration_seen_by_rule :
    ¬ ∀ (config : Config) (s : Scope) (e : Expr) (cat : Catalog) (op : Operator),
      (∀ c ∈ e.calls, op.name ≠ Text.upper c.name) →
      validate ⟨cat.register op, config⟩ s e = validate ⟨cat, config⟩ s e := by
  intro h
  let cat := Inquiry.catalog fun k _ => (k.declared? "median").isNone
  let median := Operator.make "median" (.aggregate true) (.families [.numeric]) .firstOrNull
  let s := (Orders.scope .select).toScope
  have hnew : ∀ c ∈ (Expr.call Inquiry.call).calls, median.name ≠ Text.upper c.name := by decide
  have htaken : validate ⟨cat, .standard⟩ s (.call Inquiry.call) = .ok .boolean := rfl
  have hrefused : validate ⟨cat.register median, .standard⟩ s (.call Inquiry.call) ≠
      .ok .boolean := by decide
  exact hrefused ((h .standard s _ cat median hnew).trans htaken)

end Validator

end SqlTyping
