/-
Two validators in lockstep. They may have other operators, settings and scopes, and may be given
other expressions, as long as the expressions correspond. If they find the same operators for every
pair of calls, unless the first refuses for a cause that satisfies `P`, then typing without checks
gives the same results, unless the first refuses for such a cause. If the operators let the same
calls through as well, so does typing with checks, and if they accept the same operands, the probe.
Both walk in the same order, so a refusal of the second that the first does not share comes after
it.
-/
import SqlTyping.Proofs.Expr.Correspondence
import SqlTyping.Proofs.Validator.Surroundings
import SqlTyping.Proofs.Validator.Walk

namespace SqlTyping

open SqlTyping.Expr Outcome

theorem TypedCall.eq_of_parts {b b' : TypedCall} (hcall : b.call = b'.call)
    (htypes : b.types = b'.types) : b = b' := by
  obtain ⟨c, types, aligned⟩ := b
  obtain ⟨c', types', aligned'⟩ := b'
  cases hcall
  cases htypes
  rfl

/-! ## Walks -/

namespace Walk

/-- The walks have one limit, or the second goes further and `P` allows the first to stop; they
resolve columns alike, and do the same at calls that correspond. -/
structure InStep (w w' : Walk) (P : Diagnostic → Prop) (Q : Call → Call → Prop) : Prop where
  limit : w.limit = w'.limit ∨ (w.limit ≤ w'.limit ∧ ∀ span, P (.tooDeep w.limit span))
  resolve : w.resolve = w'.resolve
  call : ∀ b b' : TypedCall, b.types = b'.types → Corresponds Q (.call b.call) (.call b'.call) →
    AgreeUnless P (w.call b.call b.types) (w'.call b'.call b'.types)

namespace InStep

variable {w w' : Walk} {P : Diagnostic → Prop} {Q : Call → Call → Prop} {f g : TypingFn}

/-- At one node the walks agree if its rules do. -/
theorem agree_of_rule (h : InStep w w' P Q) (hf : w.Walks f) (hg : w'.Walks g) {e e' : Expr}
    {span : Span} {depth : Nat}
    (hrule : AgreeUnless P (w.rule f e span depth) (w'.rule g e' span depth)) :
    AgreeUnless P (f e span depth) (g e' span depth) := by
  by_cases hlt : w.limit < depth
  · rw [hf.eq_tooDeep e span hlt]
    rcases h.limit with heq | ⟨_, hP⟩
    · rw [hg.eq_tooDeep e' span (by omega), heq]
      exact .refl P _
    · exact .inr ⟨_, hP span, rfl⟩
  · have hle : depth ≤ w'.limit := by
      rcases h.limit with heq | ⟨hle, _⟩ <;> omega
    rw [hf.eq_rule e span (by omega), hg.eq_rule e' span hle]
    exact hrule

theorem mapM_agree {R : Expr → Expr → Prop} {operands operands' : List Operand} {depth : Nat}
    (hR : List.Forall₂ (AtOneSpan R) operands operands')
    (h : ∀ o ∈ operands, ∀ e', R o.expr e' →
      AgreeUnless P (f o.expr o.span depth) (g e' o.span depth)) :
    AgreeUnless P (operands.mapM fun o => f o.expr o.span depth)
      (operands'.mapM fun o => g o.expr o.span depth) := by
  refine AgreeUnless.mapM (((List.forall₂_and_left _ _).2 ⟨h, hR⟩).imp ?_)
  rintro o o' ⟨hagree, hspan⟩
  cases hspan with
  | mk span hR => exact hagree _ hR

/-- Walks in step agree on expressions that correspond. -/
theorem agree (h : InStep w w' P Q) (hf : w.Walks f) (hg : w'.Walks g) {e e' : Expr}
    (he : Corresponds Q e e') (span : Span) (depth : Nat) :
    AgreeUnless P (f e span depth) (g e' span depth) := by
  induction e generalizing e' span depth with
  | literal l => cases he; exact h.agree_of_rule hf hg (.refl P _)
  | chain fragments => cases he; exact h.agree_of_rule hf hg (.refl P _)
  | cast e target ih =>
    cases he with
    | cast _ he =>
      have hinner := ih he span (depth + 1)
      exact h.agree_of_rule hf hg (hinner.bind fun _ _ => .refl P _)
  | column qualifier name =>
    cases he
    refine h.agree_of_rule hf hg ?_
    rw [rule, rule, h.resolve]
    exact .refl P _
  | call c ih =>
    cases he with
    | @call _ c' hQ hoperands =>
      refine h.agree_of_rule hf hg ((mapM_agree hoperands fun o ho e' he' =>
        ih o ho he' o.span (depth + 1)).bind fun types htypes => ?_)
      -- the operands of both calls have these types, one each
      have hlen : types.length = c.operands.length := (mapM_eq_ok.1 htypes).length_eq.symm
      let b : TypedCall := ⟨c, types, hlen⟩
      let b' : TypedCall := ⟨c', types, hlen.trans hoperands.length_eq⟩
      exact h.call b b' rfl (.call hQ hoperands)

end InStep

end Walk

/-! ## Validators -/

namespace Validator

/-- The validators, each with its scope, find the same operators for calls that correspond. -/
structure InStep (v v' : Validator) (s s' : Scope) (P : Diagnostic → Prop)
    (Q : Call → Call → Prop) : Prop where
  limit : v.config.maxDepth = v'.config.maxDepth ∨
    (v.config.maxDepth ≤ v'.config.maxDepth ∧ ∀ span, P (.tooDeep v.config.maxDepth span))
  resolve : s.resolve = s'.resolve
  span : ∀ c c', Q c c' → c.span = c'.span
  operator : ∀ c c', Q c c' → AgreeUnless P (v.operatorOf c) (v'.operatorOf c')

/-- The operators let the same calls through, of those that correspond. -/
def GatesAgree (v v' : Validator) (s s' : Scope) (Q : Call → Call → Prop) : Prop :=
  ∀ op b b', v.catalog.lookup b.call.name = some op → b.types = b'.types →
    Corresponds Q (.call b.call) (.call b'.call) →
    op.validateCall v s b = op.validateCall v' s' b'

/-- The operator of the call, if it has one, accepts the same operand types of both calls. -/
def ProbesAgree (v v' : Validator) (s s' : Scope) (c c' : Call) : Prop :=
  ∀ op b b', v.catalog.lookup c.name = some op → b.call = c → b'.call = c' → b.types = b'.types →
    op.accepts (v.context s) b = op.accepts (v'.context s') b'

namespace InStep

variable {v v' : Validator} {s s' : Scope} {P : Diagnostic → Prop} {Q : Call → Call → Prop}

theorem mono {R : Call → Call → Prop} (h : InStep v v' s s' P Q) (hQ : ∀ c c', R c c' → Q c c') :
    InStep v v' s s' P R :=
  ⟨h.limit, h.resolve, fun c c' hR => h.span c c' (hQ c c' hR),
    fun c c' hR => h.operator c c' (hQ c c' hR)⟩

theorem derivation (h : InStep v v' s s' P Q) :
    Walk.InStep (v.derivation s) (v'.derivation s') P Q where
  limit := h.limit
  resolve := h.resolve
  call b b' htypes hcalls := by
    refine (h.operator _ _ hcalls.calls_related).bind fun op? _ => ?_
    cases op? with
    | none => exact .refl P _
    | some op => rw [htypes]; exact .refl P _

theorem validation (h : InStep v v' s s' P Q) (hgates : GatesAgree v v' s s' Q) :
    Walk.InStep (v.validation s) (v'.validation s') P Q where
  limit := h.limit
  resolve := h.resolve
  call b b' htypes hcalls := by
    refine (h.operator _ _ hcalls.calls_related).bind fun op? hop? => ?_
    cases op? with
    | none => exact .refl P _
    | some op =>
      have hgate := hgates op b b' (operatorOf_eq_ok.1 hop?).2 htypes hcalls
      simp only [bind_typed op b, bind_typed op b']
      show AgreeUnless P (op.validateCall v s b >>= fun _ => .ok (op.returns.apply b.types))
        (op.validateCall v' s' b' >>= fun _ => .ok (op.returns.apply b'.types))
      rw [hgate, htypes]
      exact .refl P _

theorem rootSpan_eq (h : InStep v v' s s' P Q) {e e' : Expr} (he : Corresponds Q e e') :
    e.rootSpan = e'.rootSpan := by
  cases he with
  | call hQ _ => exact h.span _ _ hQ
  | _ => rfl

theorem validate_agree (h : InStep v v' s s' P Q) (hgates : GatesAgree v v' s s' Q) {e e' : Expr}
    (he : Corresponds Q e e') : AgreeUnless P (v.validate s e) (v'.validate s' e') := by
  unfold validate
  rw [h.rootSpan_eq he]
  exact (h.validation hgates).agree (v.validateAt_walks s) (v'.validateAt_walks s') he _ 1

theorem derive_agree (h : InStep v v' s s' P Q) {e e' : Expr} (he : Corresponds Q e e') :
    AgreeUnless P (v.derive s e) (v'.derive s' e') := by
  unfold derive
  rw [h.rootSpan_eq he]
  exact h.derivation.agree (v.deriveAt_walks s) (v'.deriveAt_walks s') he _ 1

theorem probe_agree (h : InStep v v' s s' P Q) {c c' : Call} (hprobes : ProbesAgree v v' s s' c c')
    (hc : Corresponds Q (.call c) (.call c')) : AgreeUnless P (v.probe s c) (v'.probe s' c') := by
  have hoperands : AgreeUnless P (v.deriveOperands s c.operands 2)
      (v'.deriveOperands s' c'.operands 2) := by
    rw [deriveOperands_eq_mapM, deriveOperands_eq_mapM]
    exact Walk.InStep.mapM_agree hc.operands fun o _ e' he =>
      h.derivation.agree (v.deriveAt_walks s) (v'.deriveAt_walks s') he o.span 2
  have hcount : c.operands.length = c'.operands.length := hc.operands.length_eq
  refine (h.operator c c' hc.calls_related).bind fun op? hop? => ?_
  cases op? with
  | none => exact .refl P _
  | some op =>
    refine hoperands.bind fun types htypes => ?_
    have hlen : types.length = c.operands.length := (deriveOperands_eq_ok.1 htypes).length_eq
    let b : TypedCall := ⟨c, types, hlen⟩
    let b' : TypedCall := ⟨c', types, hlen.trans hcount⟩
    have haccepts := hprobes op b b' (operatorOf_eq_ok.1 hop?).2 rfl rfl rfl
    have hb : op.bind c types = .ok b := bind_typed op b
    have hb' : op.bind c' types = .ok b' := bind_typed op b'
    simp only [hb, hb', hcount]
    split
    · exact .inl (congrArg Except.ok haccepts)
    · exact .refl P _

/-! ## One expression -/

/-- Validators in step agree on an expression whose calls they judge alike, if they agree on what is
asked of aggregates only. -/
theorem validate_agree_of_judgesAlike (h : InStep v v' s s' P Q) {e : Expr}
    (hsame : ∀ c ∈ e.calls, Q c c) (hjudges : ∀ c ∈ e.calls, JudgesAlike v v' s s' c)
    (haggregate : ∀ op c, Q c c →
      Operator.validateAggregate op v.catalog s c = op.validateAggregate v'.catalog s' c) :
    AgreeUnless P (v.validate s e) (v'.validate s' e) := by
  let R : Call → Call → Prop := fun c c' => c = c' ∧ Q c c' ∧ JudgesAlike v v' s s' c
  have hgates : GatesAgree v v' s s' R := by
    intro op b b' hop htypes hcalls
    obtain ⟨hcall, hQ, hjudges⟩ := hcalls.calls_related
    obtain rfl := TypedCall.eq_of_parts hcall htypes
    exact Operator.validateCall_congr (hjudges op hop b rfl) (haggregate op _ hQ)
  have hself : Corresponds R e e := .refl fun c hc => ⟨rfl, hsame c hc, hjudges c hc⟩
  exact (h.mono fun _ _ hR => hR.2.1).validate_agree hgates hself

/-- Validators in step answer the probe of a call alike that they judge alike. -/
theorem probe_agree_of_judgesAlike (h : InStep v v' s s' P Q) {c : Call}
    (hsame : ∀ d ∈ (Expr.call c).calls, Q d d) (hjudges : JudgesAlike v v' s s' c) :
    AgreeUnless P (v.probe s c) (v'.probe s' c) := by
  refine h.probe_agree (fun op b b' hop hb hb' htypes => ?_) (.refl hsame)
  obtain rfl := TypedCall.eq_of_parts (hb.trans hb'.symm) htypes
  unfold Operator.accepts
  rw [hjudges op hop b hb .probe]

end InStep

end Validator

end SqlTyping
