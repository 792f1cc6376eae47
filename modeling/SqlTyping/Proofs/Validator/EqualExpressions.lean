/-
Expressions that are the same are typed alike. Two decimals of one number may be written with other
scales, and the type of a literal records its scale, so the types need not be equal. But the scale
is neither in the skeleton nor in the text of a type, and no rule looks at more of a type than these
and its nullability: the difference reaches the result, and never a check or a diagnostic.
-/
import SqlTyping.Catalog.Builtin
import SqlTyping.Proofs.Expr.Equality
import SqlTyping.Proofs.Validator.LetterCase

namespace SqlTyping

open SqlTyping.Expr Outcome

/-! ## Types that differ in a scale -/

namespace SqlType

/-- The types are equal, or they are the types of two decimal literals that `L` relates, bare or
both made nullable. -/
inductive UpToScale (L : Decimal → Decimal → Prop) : SqlType → SqlType → Prop
  | refl (t : SqlType) : UpToScale L t t
  | decimal {a b : Decimal} :
      L a b → UpToScale L (.scalar (.decimal none (some a.scale)))
        (.scalar (.decimal none (some b.scale)))
  | nullable {a b : Decimal} :
      L a b → UpToScale L (.nullable (.scalar (.decimal none (some a.scale))))
        (.nullable (.scalar (.decimal none (some b.scale))))

namespace UpToScale

variable {L : Decimal → Decimal → Prop} {t u : SqlType}

theorem resembles (h : UpToScale L t u) : t.Resembles u := by
  cases h with
  | refl => exact .refl t
  | decimal _ => exact ⟨rfl, rfl⟩
  | nullable _ => exact ⟨rfl, rfl⟩

theorem isNullable_eq (h : UpToScale L t u) : t.isNullable = u.isNullable := by
  cases h <;> rfl

theorem bne_null_eq (h : UpToScale L t u) : (t != .null) = (u != .null) := by
  cases h <;> rfl

theorem orNull (h : UpToScale L t u) : UpToScale L t.orNull u.orNull := by
  cases h with
  | refl => exact .refl t.orNull
  | decimal hab => exact .nullable hab
  | nullable hab => exact .nullable hab

theorem headD {ts us : List SqlType} (h : List.Forall₂ (UpToScale L) ts us) :
    UpToScale L (ts.headD .null) (us.headD .null) := by
  cases h with
  | nil => exact .refl .null
  | cons ht _ => exact ht

end UpToScale

end SqlType

open SqlType

/-- Literals of one value have types that differ at most in a scale. -/
theorem Literal.type_upToScale {L : Decimal → Decimal → Prop} {a b : Literal}
    (h : a.same b = true)
    (hL : ∀ d d', a = .decimal d → b = .decimal d' → d.sameValue d' = true → L d d') :
    UpToScale L a.type b.type := by
  rcases Literal.same_cases h with rfl | ⟨d, d', rfl, rfl, hvalue⟩
  · exact .refl a.type
  · exact .decimal (hL d d' rfl rfl hvalue)

theorem chainType_eq {as bs : List Literal}
    (h : List.Forall₂ (fun a b => a.same b = true) as bs) : chainType as = chainType bs := by
  cases h with
  | nil => rfl
  | cons hab _ => rcases Literal.same_cases hab with rfl | ⟨d, d', rfl, rfl, _⟩ <;> rfl

/-- A cast to one type hides the scale of what is cast. -/
theorem castType_eq {L : Decimal → Decimal → Prop} {t u : SqlType} (h : UpToScale L t u)
    (target : SqlType) : castType t target = castType u target := by
  unfold castType
  rw [h.isNullable_eq]

/-- No return rule chooses by the scale of an operand. -/
theorem ReturnRule.apply_upToScale {L : Decimal → Decimal → Prop} {ts us : List SqlType}
    (h : List.Forall₂ (UpToScale L) ts us) (r : ReturnRule) :
    UpToScale L (r.apply ts) (r.apply us) := by
  cases r with
  | boolean =>
    have hnullable := map_eq_of_related h fun _ _ htu => htu.isNullable_eq
    have hany : ts.any (·.isNullable) = us.any (·.isNullable) := by
      simpa [List.any_map] using congrArg (·.any id) hnullable
    rw [apply, apply, hany]
    exact .refl _
  | fixed t => exact .refl t
  | first => exact UpToScale.headD h
  | firstOrNull => exact (UpToScale.headD h).orNull
  | coalesce =>
    have hfirst := find?_related h (p := fun t => !t.isNullable) (q := fun t => !t.isNullable)
      fun _ _ htu => congrArg (!·) htu.isNullable_eq
    have hother := find?_related h (p := fun t => t != .null) (q := fun t => t != .null)
      fun _ _ htu => htu.bne_null_eq
    rw [apply, apply]
    generalize ts.find? (fun t => !t.isNullable) = t at hfirst ⊢
    generalize us.find? (fun t => !t.isNullable) = u at hfirst ⊢
    cases hfirst with
    | some htu => exact htu
    | none =>
      generalize ts.find? (fun t => t != .null) = t at hother ⊢
      generalize us.find? (fun t => t != .null) = u at hother ⊢
      cases hother with
      | some htu => exact htu
      | none => exact .refl .null

/-! ## One node -/

theorem SameUpToCase.of_name_eq {c c' : Call} (hname : c.name = c'.name)
    (hquantifier : c.quantifier = c'.quantifier) (hspan : c.span = c'.span) : SameUpToCase c c' :=
  ⟨by rw [hname], hquantifier, hspan⟩

namespace Expr.Same

variable {c c' : Call}

theorem sameUpToCase (h : Same (.call c) (.call c')) : SameUpToCase c c' := by
  cases h with
  | call hname hquantifier hspan _ => exact .of_name_eq hname hquantifier hspan

theorem inside (h : Same (.call c) (.call c')) : SameUpToCase.Inside c c' := by
  cases h with
  | call _ _ _ hoperands =>
    exact List.rel_flatMap hoperands fun _ _ ho => ho.expr.calls fun _ _ => .of_name_eq

/-- To the rules, calls that are the same look alike whatever the scales of their operands. -/
theorem resembles {L : Decimal → Decimal → Prop} {b b' : TypedCall}
    (h : Same (.call b.call) (.call b'.call))
    (htypes : List.Forall₂ (UpToScale L) b.types b'.types) : b.Resembles b' where
  span := h.sameUpToCase.span
  types := htypes.imp fun _ _ ht => ht.resembles
  operands := by
    cases h with
    | call _ _ _ hoperands =>
      exact hoperands.imp fun _ _ ho =>
        ⟨ho.span_eq, ho.expr.isNull_eq false, ho.expr.literalClass_eq⟩

end Expr.Same

/-- A walk has related results at two nodes if their rules do: both are beyond the limit, or
neither is. -/
theorem Walk.Walks.related_of_rule {w : Walk} {f : TypingFn} (hf : w.Walks f)
    {R : SqlType → SqlType → Prop} {e e' : Expr} {span : Span} {depth : Nat}
    (h : Related R (w.rule f e span depth) (w.rule f e' span depth)) :
    Related R (f e span depth) (f e' span depth) := by
  rw [hf e, hf e']
  split
  · exact .error _
  · exact h

namespace Validator

variable {v : Validator} {s : Scope} {L : Decimal → Decimal → Prop}

theorem validatedType_related (hstd : v.catalog.Standard) (b b' : TypedCall)
    (h : Same (.call b.call) (.call b'.call)) (hadmits : s.admits b.call = s.admits b'.call)
    (htypes : List.Forall₂ (UpToScale L) b.types b'.types) :
    Related (UpToScale L) (v.validatedType s b.call b.types)
      (v.validatedType s b'.call b'.types) := by
  have hc := h.sameUpToCase
  unfold validatedType
  rw [← hc.operatorOf_eq v]
  refine (Related.refl (fun _ => rfl) (v.operatorOf b.call)).bind ?_
  rintro op? _ hop? _ rfl
  cases op? with
  | none => exact .ok (.refl unknownType)
  | some op =>
    have hrule := hstd.of_lookup (operatorOf_eq_ok.1 hop?).2
    have hgates := SameUpToCase.validateCall_eq hrule (h.resembles htypes) hc h.inside hadmits
      v
    simp only [bind_typed op b, bind_typed op b']
    show Related _ (op.validateCall v s b >>= fun _ => .ok (op.returns.apply b.types))
      (op.validateCall v s b' >>= fun _ => .ok (op.returns.apply b'.types))
    rw [hgates]
    exact (Related.refl (fun _ => rfl) _).bind fun _ _ _ _ _ =>
      .ok (op.returns.apply_upToScale htypes)

/-! ## Whole expressions -/

/-- The decimals are one number, and stand as literals in the expressions, one in each. -/
structure SameDecimals (e e' : Expr) (a b : Decimal) : Prop where
  left : .literal (.decimal a) ∈ e.nodes
  right : .literal (.decimal b) ∈ e'.nodes
  sameValue : a.sameValue b = true

/-- At any place, expressions that are the same are refused alike or have types that differ at most
in the scale of literals of one number. -/
theorem validateAt_related (hstd : v.catalog.Standard)
    (hadmits : ∀ c c', Same (.call c) (.call c') → s.admits c = s.admits c') {e e' : Expr}
    (h : Same e e') (hL : ∀ a b, SameDecimals e e' a b → L a b) (span : Span) (depth : Nat) :
    Related (UpToScale L) (v.validateAt s e span depth) (v.validateAt s e' span depth) := by
  induction e generalizing e' span depth with
  | literal a =>
    refine (v.validateAt_walks s).related_of_rule ?_
    cases h with
    | @literal _ b hab =>
      refine .ok (Literal.type_upToScale hab ?_)
      rintro d d' rfl rfl hvalue
      exact hL d d' ⟨self_mem_nodes _, self_mem_nodes _, hvalue⟩
  | chain as =>
    refine (v.validateAt_walks s).related_of_rule ?_
    cases h with
    | chain hab => rw [Walk.rule, Walk.rule, chainType_eq hab]; exact .ok (.refl _)
  | cast e target ih =>
    refine (v.validateAt_walks s).related_of_rule ?_
    cases h with
    | @cast _ e' _ he =>
      have hinner := ih he (fun a b hab => hL a b
        ⟨List.mem_cons_of_mem _ hab.left, List.mem_cons_of_mem _ hab.right, hab.sameValue⟩)
        span (depth + 1)
      refine hinner.bind fun t u _ _ htu => ?_
      rw [castType_eq htu]
      exact .ok (.refl _)
  | column qualifier name =>
    cases h
    exact .refl .refl _
  | call c ih =>
    refine (v.validateAt_walks s).related_of_rule ?_
    cases h with
    | @call _ c' hname hquantifier hspan hoperands =>
      -- decimals of two operands in one place are decimals of the calls, so `hL` goes down to them
      have hpairs := List.forall₂_iff_zip.1 hoperands
      have hsteps : List.Forall₂ (fun o o' => Related (UpToScale L)
          (v.validateAt s o.expr o.span (depth + 1)) (v.validateAt s o'.expr o'.span (depth + 1)))
          c.operands c'.operands := by
        refine List.forall₂_iff_zip.2 ⟨hpairs.1, fun {o o'} hmem => ?_⟩
        obtain ⟨ho, ho'⟩ := List.of_mem_zip hmem
        have hoo' := hpairs.2 hmem
        rw [← hoo'.span_eq]
        refine ih o ho hoo'.expr (fun a b hab => hL a b ⟨?_, ?_, hab.sameValue⟩) o.span (depth + 1)
        · exact mem_nodes_call.2 (.inr ⟨o, ho, hab.left⟩)
        · exact mem_nodes_call.2 (.inr ⟨o', ho', hab.right⟩)
      refine (Related.mapM hsteps).bind fun types types' htypes htypes' hrelated => ?_
      let b : TypedCall := ⟨c, types, (mapM_eq_ok.1 htypes).length_eq.symm⟩
      let b' : TypedCall := ⟨c', types', (mapM_eq_ok.1 htypes').length_eq.symm⟩
      have hcalls : Same (.call b.call) (.call b'.call) := .call hname hquantifier hspan hoperands
      exact validatedType_related hstd b b' hcalls (hadmits c c' hcalls) hrelated

/-- Over standard rules, and where the scope admits calls that are the same alike, expressions that
are the same are refused with one diagnostic, or have types that are equal but for the scale of two
decimal literals of one number, one of each expression. Such types have one text, and values of one
can be compared with values of the other. -/
theorem equal_expressions_are_validated_alike (v : Validator) (s : Scope)
    (hstd : v.catalog.Standard)
    (hadmits : ∀ c c', (Expr.call c).same (.call c') = true → s.admits c = s.admits c')
    (e₁ e₂ : Expr) (h : e₁.same e₂ = true) :
    (∃ d, v.validate s e₁ = .error d ∧ v.validate s e₂ = .error d) ∨
    ∃ t₁ t₂, v.validate s e₁ = .ok t₁ ∧ v.validate s e₂ = .ok t₂ ∧
      UpToScale (SameDecimals e₁ e₂) t₁ t₂ ∧ t₁.toText = t₂.toText ∧
      t₁.comparable t₂ = true ∧ t₂.comparable t₁ = true := by
  have hsame : Same e₁ e₂ := same_iff.1 h
  have hrelated := validateAt_related hstd (fun c c' hc => hadmits c c' (same_iff.2 hc)) hsame
    (fun _ _ hab => hab) e₁.rootSpan 1
  unfold validate
  rw [← hsame.rootSpan_eq]
  generalize v.validateAt s e₁ e₁.rootSpan 1 = x at hrelated ⊢
  generalize v.validateAt s e₂ e₁.rootSpan 1 = y at hrelated ⊢
  cases hrelated with
  | error d => exact .inl ⟨d, rfl, rfl⟩
  | @ok t₁ t₂ ht =>
    have hcomparable : t₁.comparable t₂ = true := by
      rw [comparable_congr ht.resembles.skeleton rfl]
      exact comparable_refl t₂
    refine .inr ⟨t₁, t₂, rfl, rfl, ht, ht.resembles.text, hcomparable, ?_⟩
    rw [comparable_comm]
    exact hcomparable

namespace Places

/-- The operators with one that rounds to a number of places. -/
def withRound : Validator :=
  ⟨Catalog.builtin.registerAll [.make "ROUND" .function (.families [.numeric, .numeric]) .first],
    .standard⟩

/-- One, written with one place. -/
def one : Decimal := ⟨10, 1, by decide, by decide⟩

/-- One, written with two places. -/
def longerOne : Decimal := ⟨100, 2, by decide, by decide⟩

/-- The sum of all amounts, or the number if it is greater. -/
def atLeast (d : Decimal) : Expr :=
  .call ⟨"GREATEST", [⟨.call Orders.total, Orders.total.span⟩,
    ⟨.literal (.decimal d), .onLine 1 23 26⟩], none, .onLine 1 1 27⟩

/-- The number, rounded to a text. -/
def rounded (d : Decimal) : Expr :=
  .call ⟨"ROUND", [⟨.literal (.decimal d), .onLine 1 7 10⟩,
    ⟨.literal (.string "two"), .onLine 1 13 17⟩], none, .onLine 1 1 18⟩

end Places

/-- With another place the greater of one and the sum has another type, of the same text, and
rounding one to a text is refused in the same words. -/
theorem one_with_more_places :
    let v := Places.withRound
    let s : Scope := (Orders.scope .having).toScope
    v.validate s (Places.atLeast Places.one) ≠ v.validate s (Places.atLeast Places.longerOne) ∧
      (∃ t, v.validate s (Places.atLeast Places.longerOne) = .ok t ∧ t.toText = "DECIMAL") ∧
      v.validate s (Places.rounded Places.longerOne) = .error (.signatureMismatch "ROUND"
        "'ROUND(<DECIMAL>, <VARCHAR>)'" "'ROUND(<NUMERIC>, <NUMERIC>)'" (.onLine 1 1 18)) := by
  intro v s
  have hstd : v.catalog.Standard := by decide
  have hadmits : ∀ c c' : Call, (Expr.call c).same (.call c') = true → s.admits c = s.admits c' :=
    fun _ _ _ => rfl
  have hone : v.validate s (Places.atLeast Places.one) =
      .ok (.scalar (.decimal none (some 1))) := by rfl
  have hlonger : v.validate s (Places.atLeast Places.longerOne) =
      .ok (.scalar (.decimal none (some 2))) := by rfl
  have hrounded : v.validate s (Places.rounded Places.one) = .error (.signatureMismatch "ROUND"
      "'ROUND(<DECIMAL>, <VARCHAR>)'" "'ROUND(<NUMERIC>, <NUMERIC>)'" (.onLine 1 1 18)) := by rfl
  refine ⟨by rw [hone, hlonger]; exact nofun, ?_, ?_⟩
  · rcases equal_expressions_are_validated_alike v s hstd hadmits (Places.atLeast Places.one)
      (Places.atLeast Places.longerOne) (by decide) with ⟨d, hd, _⟩ | ⟨t, u, ht, hu, _, htext, _⟩
    · rw [hone] at hd; cases hd
    · rw [hone] at ht
      cases ht
      exact ⟨u, hu, htext.symm⟩
  · rcases equal_expressions_are_validated_alike v s hstd hadmits (Places.rounded Places.one)
      (Places.rounded Places.longerOne) (by decide) with ⟨d, hd, hd'⟩ | ⟨t, u, ht, _⟩
    · rw [hd', ← hd, hrounded]
    · rw [hrounded] at ht; cases ht

end Validator

end SqlTyping
