/-
The gates of one call. A standard rule has one verdict in two forms: it passes in both modes, or
refuses in both for the same cause, and the causes are few (`Blames`). From this, a call is let
through exactly if it meets the conditions of `Takes`, and a refused one is refused for one of the
causes that `validateCall_eq_error` lists, in the order of the gates.
-/
import SqlTyping.Proofs.Expr.Sites
import SqlTyping.Proofs.Outcome
import SqlTyping.Validator.Call

namespace SqlTyping

/-! ## Verdicts in both modes -/

namespace Verdict

/-- The check passes in both modes, or refuses in both for one cause that satisfies `P`. -/
def Uniform (P : Diagnostic → Prop) (verdict : Mode → Verdict) : Prop :=
  (∀ mode, verdict mode = .pass) ∨ ∃ d, P d ∧ ∀ mode, verdict mode = .refuse mode d

theorem run_refuseM (mode : Mode) (d : Diagnostic) :
    Id.run (refuseM mode (pure d)) = refuse mode d := rfl

theorem refuse_ne_pass (mode : Mode) (d : Diagnostic) : refuse mode d ≠ .pass := by
  cases mode <;> simp [refuse, refuseM]

theorem isPass_refuse (mode : Mode) (d : Diagnostic) : (refuse mode d).isPass = false := by
  cases mode <;> rfl

theorem Uniform.pass_iff {P : Diagnostic → Prop} {verdict : Mode → Verdict} (h : Uniform P verdict)
    (mode mode' : Mode) : verdict mode = .pass ↔ verdict mode' = .pass := by
  rcases h with h | ⟨d, _, h⟩
  · rw [h, h]
  · rw [h, h]; simp only [refuse_ne_pass]

/-- A uniform check that does not pass is explained by one of its causes. -/
theorem Uniform.explained {P : Diagnostic → Prop} {verdict : Mode → Verdict} (h : Uniform P verdict)
    (hp : verdict .explain ≠ .pass) : ∃ d, P d ∧ verdict .explain = .rejected d := by
  rcases h with h | ⟨d, hd, h⟩
  · exact absurd (h _) hp
  · exact ⟨d, hd, h .explain⟩

theorem Uniform.rejected {P : Diagnostic → Prop} {verdict : Mode → Verdict} {d : Diagnostic}
    (h : Uniform P verdict) (hr : verdict .explain = .rejected d) : P d := by
  obtain ⟨d', hd', hr'⟩ := h.explained (by rw [hr]; simp)
  rw [hr] at hr'; cases hr'; exact hd'

/-- The first refusal of uniform checks is uniform. -/
theorem uniform_firstRefusal {α : Type} {P : Diagnostic → Prop} {f : α → Mode → Verdict} :
    ∀ {xs : List α}, (∀ x ∈ xs, Uniform P (f x)) →
      Uniform P fun mode => firstRefusal (xs.map fun x => f x mode)
  | [], _ => .inl fun _ => rfl
  | x :: xs, h => by
    have hxs := uniform_firstRefusal fun y hy => h y (List.mem_cons_of_mem _ hy)
    rcases h x List.mem_cons_self with hx | ⟨d, hd, hx⟩
    · simpa only [List.map_cons, firstRefusal, hx, isPass, if_true] using hxs
    · refine .inr ⟨d, hd, fun mode => ?_⟩
      simp only [List.map_cons, firstRefusal, hx, isPass_refuse, Bool.false_eq_true, if_false]

end Verdict

namespace Operator

open Verdict SqlTyping.Expr

/-! ## Standard rules -/

/-- The causes for which a standard rule refuses a typed call: one operand, named by its position
and span, or the call as a whole. -/
inductive Blames (op : Operator) (b : TypedCall) : Diagnostic → Prop
  | nullOperand {i : Nat} {o : Operand} (h : b.call.operands[i]? = some o) :
      Blames op b (.nullOperand op.name i o.span)
  | notLiteral {i : Nat} {o : Operand} (h : b.call.operands[i]? = some o) :
      Blames op b (.notLiteral op.name i o.span)
  | nullLiteral {i : Nat} {o : Operand} (h : b.call.operands[i]? = some o) :
      Blames op b (.nullLiteral op.name i o.span)
  | notComparable : Blames op b (.notComparable op.name b.call.span)
  | mismatch : Blames op b (op.signatureMismatch b)

theorem getElem?_of_firstOf {α : Type} {count : Option Nat} {xs : List α} {i : Nat} {x : α}
    (h : (firstOf count xs)[i]? = some x) : xs[i]? = some x := by
  cases count with
  | none => exact h
  | some n =>
    rw [firstOf, List.getElem?_take] at h
    split at h
    · exact h
    · cases h

theorem checkSameType_uniform (op : Operator) (count : Option Nat) (b : TypedCall) :
    Uniform (op.Blames b) (op.checkSameType count b) := by
  unfold checkSameType
  cases hf : (firstOf count b.call.operands).zipIdx.find? (·.1.expr.isNull false) with
  | some found =>
    obtain ⟨o, i⟩ := found
    have ho := List.mem_zipIdx_iff_getElem?.1 (List.mem_of_find?_eq_some hf)
    exact .inr ⟨_, .nullOperand (getElem?_of_firstOf ho), fun _ => rfl⟩
  | none =>
    simp only
    split
    · exact .inl fun _ => rfl
    · exact .inr ⟨_, .notComparable, fun _ => rfl⟩

theorem checkLiteral_uniform (op : Operator) (allowNull : Bool) {P : Diagnostic → Prop}
    {o : Operand} {i : Nat} (hnull : P (.nullLiteral op.name i o.span))
    (hother : P (.notLiteral op.name i o.span)) : Uniform P (op.checkLiteral allowNull o i) := by
  unfold checkLiteral literalVerdict
  cases o.expr.literalClass with
  | null =>
    simp only
    split
    · exact .inl fun _ => rfl
    · exact .inr ⟨_, hnull, fun _ => rfl⟩
  | literal => exact .inl fun _ => rfl
  | chain => exact .inl fun _ => rfl
  | other => exact .inr ⟨_, hother, fun _ => rfl⟩

theorem checkFirstLiteral_uniform (op : Operator) (allowNull : Bool) (b : TypedCall) :
    Uniform (op.Blames b) (op.checkFirstLiteral allowNull b) := by
  unfold checkFirstLiteral
  cases ho : b.call.operands.head? with
  | some o =>
    rw [List.head?_eq_getElem?] at ho
    exact checkLiteral_uniform op allowNull (.nullLiteral ho) (.notLiteral ho)
  | none => exact .inr ⟨_, .mismatch, fun _ => rfl⟩

theorem checkFamily_uniform (op : Operator) (families : List Family) {P : Diagnostic → Prop}
    {b : TypedCall} {slot : Operand × SqlType} {i : Nat}
    (hnull : P (.nullOperand op.name i slot.1.span)) (hmismatch : P (op.signatureMismatch b)) :
    Uniform P (op.checkFamily families b slot i) := by
  unfold checkFamily familyVerdict
  split
  · exact .inr ⟨_, hmismatch, fun _ => rfl⟩
  · exact .inl fun _ => rfl
  · split
    · exact .inr ⟨_, hnull, fun _ => rfl⟩
    · simp only [pure_bind]
      split
      · exact .inl fun _ => rfl
      · exact .inr ⟨_, hmismatch, fun _ => rfl⟩

theorem checkFamilies_uniform (op : Operator) (families : List Family) (b : TypedCall) :
    Uniform (op.Blames b) (op.checkFamilies families b) := by
  let verdict (p : (Operand × SqlType) × Nat) := op.checkFamily families b p.1 p.2
  have hall : ∀ p ∈ b.slots.zipIdx, Uniform (op.Blames b) (verdict p) := by
    rintro ⟨slot, i⟩ hp
    have hslot := List.mem_zipIdx_iff_getElem?.1 hp
    unfold TypedCall.slots at hslot
    rw [List.getElem?_zip_eq_some] at hslot
    exact checkFamily_uniform op families (.nullOperand hslot.1) .mismatch
  exact uniform_firstRefusal hall

/-- A standard rule passes a call in both modes, or refuses it in both for one of its causes. -/
theorem check_uniform {op : Operator} (h : op.rule.isStandard = true) (k : Context)
    (b : TypedCall) : Uniform (op.Blames b) (op.check k b) := by
  unfold check
  cases hr : op.rule with
  | sameType count => exact checkSameType_uniform op count b
  | literal allowNull => exact checkFirstLiteral_uniform op allowNull b
  | families fs => exact checkFamilies_uniform op fs b
  | custom r => rw [hr] at h; cases h

end Operator

/-- Every operator of the catalog has a standard rule. -/
def Catalog.Standard (cat : Catalog) : Prop :=
  ∀ op ∈ cat.operators, op.rule.isStandard = true

instance (cat : Catalog) : Decidable cat.Standard :=
  inferInstanceAs (Decidable (∀ op ∈ cat.operators, op.rule.isStandard = true))

theorem Catalog.name_of_lookup {cat : Catalog} {name : String} {op : Operator}
    (hop : cat.lookup name = some op) : op.name = Text.upper name := by
  simpa using List.find?_some hop

theorem Catalog.Standard.of_lookup {cat : Catalog} (h : cat.Standard) {name : String}
    {op : Operator} (hop : cat.lookup name = some op) : op.rule.isStandard = true :=
  h op (List.mem_of_find?_eq_some hop)

namespace Operator

open Verdict

variable {op : Operator} {k : Context} {b : TypedCall}

theorem accepts_iff_pass (h : op.rule.isStandard = true) (k : Context) (b : TypedCall) :
    op.accepts k b = true ↔ op.check k b .explain = .pass := by
  unfold accepts
  rw [isPass_iff]
  exact (check_uniform h k b).pass_iff .probe .explain

theorem demand_eq_ok_iff : op.demand k b = .ok () ↔ op.check k b .explain = .pass := by
  unfold demand
  cases op.check k b .explain <;> simp

/-- A standard rule that is demanded in vain gives one of its causes. -/
theorem blames_of_demand (h : op.rule.isStandard = true) {d : Diagnostic}
    (hd : op.demand k b = .error d) : op.Blames b d := by
  unfold demand at hd
  split at hd
  · cases hd
  · cases hd; exact .mismatch
  · rename_i hr; cases hd; exact (check_uniform h k b).rejected hr

end Operator

/-! ## Aggregates inside aggregates -/

namespace Catalog

open SqlTyping.Expr

theorem isAggregate_of_lookup {cat : Catalog} {name : String} {op : Operator}
    (hop : cat.lookup name = some op) : cat.isAggregate name = op.isAggregate := by
  unfold isAggregate; rw [hop]; rfl

theorem lookup_of_isAggregate {cat : Catalog} {name : String} (h : cat.isAggregate name = true) :
    ∃ op, cat.lookup name = some op ∧ op.isAggregate = true := by
  cases hop : cat.lookup name with
  | none => unfold isAggregate at h; rw [hop] at h; cases h
  | some op => exact ⟨op, rfl, by rw [← isAggregate_of_lookup hop]; exact h⟩

theorem call_of_isAggregateCall {cat : Catalog} {e : Expr} (h : cat.isAggregateCall e = true) :
    ∃ c, e = .call c ∧ cat.isAggregate c.name = true := by
  cases e with
  | call c => exact ⟨c, rfl, h⟩
  | literal l => cases h
  | chain fragments => cases h
  | cast e target => cases h
  | column qualifier name => cases h

/-- The search through the operands of a call is one through the calls in them, in order. -/
theorem nestedAggregate?_eq_find? (cat : Catalog) (c : Call) :
    cat.nestedAggregate? c =
      (c.operands.flatMap (·.expr.calls)).find? (cat.isAggregate ·.name) := by
  unfold nestedAggregate? calls
  simp only [find?_eq_nodes_find?]
  rw [← List.filterMap_flatMap, List.find?_filterMap, List.find?_flatMap]
  rfl

/-- No aggregate call stands inside a call exactly if none is found. -/
theorem nestedAggregate?_eq_none_iff {cat : Catalog} {c : Call} :
    cat.nestedAggregate? c = none ↔ ∀ d, Below d c → cat.isAggregate d.name = false := by
  rw [nestedAggregate?_eq_find?, List.find?_eq_none]
  constructor
  · rintro h d ⟨o, ho, hd⟩
    have hnone := h d (List.mem_flatMap.2 ⟨o, ho, hd⟩)
    simpa using hnone
  · intro h d hd
    obtain ⟨o, ho, hd⟩ := List.mem_flatMap.1 hd
    simp [h d ⟨o, ho, hd⟩]

/-- What is found inside a call is an aggregate call that stands there. -/
theorem nestedAggregate?_eq_some {cat : Catalog} {c d : Call} (h : cat.nestedAggregate? c = some d) :
    Below d c ∧ cat.isAggregate d.name = true := by
  rw [nestedAggregate?_eq_find?] at h
  have hagg := List.find?_some h
  obtain ⟨o, ho, hd⟩ := List.mem_flatMap.1 (List.mem_of_find?_eq_some h)
  exact ⟨⟨o, ho, hd⟩, hagg⟩

end Catalog

namespace Operator

open SqlTyping.Expr Outcome

/-! ## The gates in order -/

/-- What the gates ask of a typed call of the operator. -/
structure Takes (op : Operator) (v : Validator) (s : Scope) (b : TypedCall) : Prop where
  quantifier : b.call.quantifier.isSome = true →
    op.isAggregate = true ∧ op.quantifierAllowed = true
  count : op.arity.accepts b.call.operands.length = true
  operands : ∀ mode, op.check (v.context s) b mode = .pass
  alone : op.isAggregate = true → ∀ d, Below d b.call → v.catalog.isAggregate d.name = false
  admitted : op.isAggregate = true → s.admits b.call = .ok ()

theorem checkCount_eq_ok_iff {op : Operator} {c : Call} :
    op.checkCount c = .ok () ↔ op.arity.accepts c.operands.length = true := by
  unfold checkCount
  split <;> simp_all

theorem validateAggregate_eq_ok_iff {op : Operator} {cat : Catalog} {s : Scope} {c : Call} :
    op.validateAggregate cat s c = .ok () ↔
      (c.quantifier.isSome = true → op.quantifierAllowed = true) ∧
      (∀ d, Below d c → cat.isAggregate d.name = false) ∧ s.admits c = .ok () := by
  rw [← Catalog.nestedAggregate?_eq_none_iff]
  unfold validateAggregate
  by_cases hq : (c.quantifier.isSome && !op.quantifierAllowed) = true
  · rw [if_pos hq]
    simp only [Bool.and_eq_true, Bool.not_eq_true'] at hq
    simp [hq]
  · rw [if_neg hq]
    simp only [Bool.and_eq_true, Bool.not_eq_true', not_and, Bool.not_eq_false] at hq
    cases cat.nestedAggregate? c with
    | some n => simp
    | none => simp only [true_and]; exact ⟨fun h => ⟨hq, h⟩, fun h => h.2⟩

/-- The gates in the order in which they are passed. -/
theorem validateCall_eq (op : Operator) (v : Validator) (s : Scope) (b : TypedCall) :
    op.validateCall v s b =
      if b.call.quantifier.isSome && !op.isAggregate then
        .error (.quantifierNotAllowed op.name b.call.span)
      else
        op.checkCount b.call >>= fun _ => op.demand (v.context s) b >>= fun _ =>
          if op.isAggregate then op.validateAggregate v.catalog s b.call else .ok () := by
  unfold validateCall
  split
  · rfl
  · rfl

/-- A call of an aggregate that is let through is let through as one. -/
theorem validateAggregate_of_validateCall {op : Operator} {v : Validator} {s : Scope}
    {b : TypedCall} (h : op.validateCall v s b = .ok ()) (hagg : op.isAggregate = true) :
    op.validateAggregate v.catalog s b.call = .ok () := by
  simp only [validateCall_eq, hagg, Bool.not_true, Bool.and_false, Bool.false_eq_true, if_false,
    if_true] at h
  obtain ⟨_, _, h⟩ := bind_eq_ok.1 h
  obtain ⟨_, _, h⟩ := bind_eq_ok.1 h
  exact h

/-- A call of an operator with a standard rule is let through exactly if the operator takes it. -/
theorem validateCall_eq_ok_iff {op : Operator} (h : op.rule.isStandard = true) {v : Validator}
    {s : Scope} {b : TypedCall} : op.validateCall v s b = .ok () ↔ op.Takes v s b := by
  constructor
  · intro hok
    have hagg := fun ha => validateAggregate_eq_ok_iff.1 (validateAggregate_of_validateCall hok ha)
    rw [validateCall_eq] at hok
    split at hok
    · cases hok
    rename_i hq
    simp only [Bool.and_eq_true, Bool.not_eq_true', not_and, Bool.not_eq_false] at hq
    obtain ⟨_, hcount, hok⟩ := bind_eq_ok.1 hok
    obtain ⟨_, hdemand, _⟩ := bind_eq_ok.1 hok
    have hpass : ∀ mode, op.check (v.context s) b mode = .pass := fun mode =>
      ((check_uniform h _ b).pass_iff .explain mode).1 (demand_eq_ok_iff.1 hdemand)
    exact ⟨fun hsome => ⟨hq hsome, (hagg (hq hsome)).1 hsome⟩, checkCount_eq_ok_iff.1 hcount, hpass,
      fun ha => (hagg ha).2.1, fun ha => (hagg ha).2.2⟩
  · rintro ⟨hq, hcount, hpass, halone, hadm⟩
    rw [validateCall_eq, if_neg]
    · refine bind_eq_ok.2 ⟨(), checkCount_eq_ok_iff.2 hcount, ?_⟩
      refine bind_eq_ok.2 ⟨(), demand_eq_ok_iff.2 (hpass .explain), ?_⟩
      split
      · rename_i ha
        exact validateAggregate_eq_ok_iff.2 ⟨fun hsome => (hq hsome).2, halone ha, hadm ha⟩
      · rfl
    · simp only [Bool.and_eq_true, Bool.not_eq_true', not_and, Bool.not_eq_false]
      exact fun hsome => (hq hsome).1

/-- Why a call is refused, in the order of the gates: its quantifier, the number of its operands,
their types, and for aggregates one that stands inside it, or the scope. -/
theorem validateCall_eq_error {op : Operator} {v : Validator} {s : Scope} {b : TypedCall}
    {d : Diagnostic} (h : op.validateCall v s b = .error d) :
    d = .quantifierNotAllowed op.name b.call.span ∨
    d = .wrongCount op.name op.arity b.call.operands.length b.call.span ∨
    op.demand (v.context s) b = .error d ∨
    op.isAggregate = true ∧
      ((∃ n, v.catalog.nestedAggregate? b.call = some n ∧
        d = .nestedAggregate (Text.upper n.name) n.span) ∨
      s.admits b.call = .error d) := by
  rw [validateCall_eq] at h
  split at h
  · cases h; exact .inl rfl
  rcases bind_eq_error.1 h with h | ⟨_, _, h⟩
  · unfold checkCount at h
    split at h
    · cases h
    · cases h; exact .inr (.inl rfl)
  rcases bind_eq_error.1 h with h | ⟨_, _, h⟩
  · exact .inr (.inr (.inl h))
  split at h
  · rename_i ha
    unfold validateAggregate at h
    split at h
    · cases h; exact .inl rfl
    · cases hn : v.catalog.nestedAggregate? b.call with
      | some n => rw [hn] at h; cases h; exact .inr (.inr (.inr ⟨ha, .inl ⟨n, rfl, rfl⟩⟩))
      | none => rw [hn] at h; exact .inr (.inr (.inr ⟨ha, .inr h⟩))
  · cases h

end Operator

end SqlTyping
