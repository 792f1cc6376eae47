/-
Acceptance and the skeletons of column types. Where every operator gives no NULL of its own, two
scopes that give each column types of one skeleton, without NULL, accept the same expressions with
types of one skeleton: NULL comes into an expression only by a bare literal, which no rule that
looks at types lets through, and whichever operand COALESCE takes its type from, all have the same
skeleton. The operators that are there from the start are of this kind. So whether an expression is
accepted does not depend on whether its columns may be NULL, on their widths or on field names.
-/
import SqlTyping.Catalog.Builtin
import SqlTyping.Proofs.Operator.Skeletons
import SqlTyping.Proofs.Scope

namespace SqlTyping

open SqlTyping.Expr Walk

/-! ## Two scopes -/

/-- The scopes resolve the same columns, to types of one skeleton that have NULL at no level, and
admit the same aggregate calls. -/
structure Scope.SameSkeletons (s s' : Scope) : Prop where
  columns : ∀ qualifier name span,
    (∃ t t', s.resolve qualifier name span = .ok t ∧ s'.resolve qualifier name span = .ok t' ∧
      t.nullFree = true ∧ t'.nullFree = true ∧ t.skeleton = t'.skeleton) ∨
    ∃ d d', s.resolve qualifier name span = .error d ∧ s'.resolve qualifier name span = .error d'
  admits : ∀ c, s.admits c = .ok () ↔ s'.admits c = .ok ()

namespace Scope.SameSkeletons

variable {s s' : Scope}

theorem symm (h : s.SameSkeletons s') : s'.SameSkeletons s where
  columns qualifier name span := by
    rcases h.columns qualifier name span with
      ⟨t, t', ht, ht', hfree, hfree', hskeleton⟩ | ⟨d, d', hd, hd'⟩
    · exact .inl ⟨t', t, ht', ht, hfree', hfree, hskeleton.symm⟩
    · exact .inr ⟨d', d, hd', hd⟩
  admits c := (h.admits c).symm

theorem resolve (h : s.SameSkeletons s') {qualifier : Option String} {name : String} {span : Span}
    {t : SqlType} (ht : s.resolve qualifier name span = .ok t) :
    ∃ t', s'.resolve qualifier name span = .ok t' ∧ Alike (.column qualifier name) t t' := by
  rcases h.columns qualifier name span with ⟨u, t', hu, ht', hfree, _, hskeleton⟩ | ⟨d, _, hd, _⟩
  · rw [ht] at hu
    cases hu
    exact ⟨t', ht', hskeleton, fun _ => hfree⟩
  · rw [ht] at hd
    cases hd

end Scope.SameSkeletons

/-! ## Literals and casts -/

theorem alike_literal (l : Literal) : Alike (.literal l) l.type l.type := by
  refine ⟨rfl, fun h => ?_⟩
  cases l with
  | null => cases h
  | _ => rfl

theorem alike_chain (fragments : List Literal) :
    Alike (.chain fragments) (chainType fragments) (chainType fragments) := by
  refine ⟨rfl, fun _ => ?_⟩
  unfold chainType
  split <;> rfl

theorem skeleton_castType (t target : SqlType) :
    (castType t target).skeleton = target.skeleton := by
  unfold castType
  split
  · exact SqlType.skeleton_orNull target
  · rfl

theorem alike_cast {target : SqlType} (htarget : target.nullFree = true) (e : Expr)
    (t t' : SqlType) : Alike (.cast e target) (castType t target) (castType t' target) := by
  refine ⟨by rw [skeleton_castType, skeleton_castType], fun _ => ?_⟩
  rw [SqlType.nullFree_congr (skeleton_castType t target)]
  exact htarget

/-! ## Calls -/

/-- No operator of the catalog gives a type of NULL where its rule lets none in. -/
def Catalog.GivesNoNull (cat : Catalog) : Prop :=
  ∀ op ∈ cat.operators, op.givesNoNull = true

instance (cat : Catalog) : Decidable cat.GivesNoNull :=
  inferInstanceAs (Decidable (∀ op ∈ cat.operators, op.givesNoNull = true))

theorem Catalog.standard_builtin : Catalog.builtin.Standard := by decide

theorem Catalog.givesNoNull_builtin : Catalog.builtin.GivesNoNull := by decide

namespace Validator

variable {v : Validator} {s s' : Scope}

/-- The node brings in no type of NULL: a cast has a target without, and a call of an operator that
gives the type of some operand has an operand. -/
def NoNullMade (v : Validator) : Expr → Prop
  | .cast _ target => target.nullFree = true
  | .call c => ∀ op, v.catalog.lookup c.name = some op → op.returns = .coalesce → c.operands ≠ []
  | _ => True

theorem validatedType_alike (hstd : v.catalog.Standard) (hgives : v.catalog.GivesNoNull)
    (hadmits : ∀ c, s.admits c = .ok () → s'.admits c = .ok ()) {c : Call}
    {types types' : List SqlType} {t : SqlType} (hmade : v.NoNullMade (.call c))
    (h : Aligned Alike c.operands types types') (ht : v.validatedType s c types = .ok t) :
    ∃ t', v.validatedType s' c types' = .ok t' ∧ Alike (.call c) t t' := by
  let b : TypedCall := ⟨c, types, h.length_left⟩
  let b' : TypedCall := ⟨c, types', h.length_right⟩
  obtain ⟨⟨hknown, hgates⟩, rfl⟩ := (@validatedType_eq_ok_iff v s t b).1 ht
  have htakes : ∀ op, v.catalog.lookup c.name = some op → op.Takes v s b := fun op hop =>
    (Operator.validateCall_eq_ok_iff (hstd.of_lookup hop)).1 (hgates op hop)
  have hgates' : ∀ op, v.catalog.lookup c.name = some op →
      op.validateCall v s' b' = .ok () := by
    intro op hop
    have hrule := hstd.of_lookup hop
    refine (Operator.validateCall_eq_ok_iff hrule).2 ?_
    exact Operator.takes_of_alike hrule hadmits (b := b) rfl h (htakes op hop)
  refine ⟨v.callType c types', (@validatedType_eq_ok_iff v s' _ b').2 ⟨⟨hknown, hgates'⟩, rfl⟩, ?_⟩
  unfold callType
  cases hop : v.catalog.lookup c.name with
  | none => exact ⟨rfl, fun _ => rfl⟩
  | some op =>
    obtain ⟨_, hcount, hoperands, _, _⟩ := htakes op hop
    obtain ⟨hskeleton, hfree⟩ := @Operator.apply_alike op _ b b' .explain
      (hgives op (List.mem_of_find?_eq_some hop)) hcount (hoperands .explain) (hmade op hop) h
    exact ⟨hskeleton, fun _ => hfree⟩

/-! ## Whole expressions -/

theorem validation_simulates (hstd : v.catalog.Standard) (hgives : v.catalog.GivesNoNull)
    (hs : s.SameSkeletons s') :
    (v.validation s).Simulates (v.validation s') Alike v.NoNullMade where
  limit := rfl
  literal := alike_literal
  chain := alike_chain
  cast e _ t t' htarget _ := alike_cast htarget e t t'
  column _ _ _ _ := hs.resolve
  call _ _ _ _ := validatedType_alike hstd hgives fun c => (hs.admits c).1

/-- An expression that brings in no type of NULL is accepted in one scope if it is in the other,
with types of one skeleton. -/
theorem validate_alike (hstd : v.catalog.Standard) (hgives : v.catalog.GivesNoNull)
    (hs : s.SameSkeletons s') {e : Expr} (hmade : ∀ n ∈ e.nodes, v.NoNullMade n) {t : SqlType}
    (h : v.validate s e = .ok t) :
    ∃ t', v.validate s' e = .ok t' ∧ t.skeleton = t'.skeleton := by
  obtain ⟨t', ht', halike⟩ := (validation_simulates hstd hgives hs).ok_related
    (v.validateAt_walks s) (v.validateAt_walks s') hmade h
  exact ⟨t', ht', halike.skeleton⟩

/-! ## The operators that are there from the start -/

/-- The functions that give the type of one of their operands, whichever this is. -/
def coalescing : List String :=
  ["COALESCE", "GREATEST", "LEAST"]

theorem noNullMade_builtin {config : Config} {e : Expr}
    (hcasts : ∀ inner target, .cast inner target ∈ e.nodes → target.nullFree = true)
    (hcalls : ∀ c ∈ e.calls, Text.upper c.name ∈ coalescing → c.operands ≠ []) :
    ∀ n ∈ e.nodes, NoNullMade ⟨.builtin, config⟩ n := by
  have hnames : ∀ op ∈ Catalog.builtin.operators,
      op.returns = .coalesce → op.name ∈ coalescing := by decide
  intro n hn
  cases n with
  | cast inner target => exact hcasts inner target hn
  | call c =>
    intro op hop hreturns
    refine hcalls c (mem_calls.2 hn) ?_
    rw [← Catalog.name_of_lookup hop]
    exact hnames op (List.mem_of_find?_eq_some hop) hreturns
  | literal l => trivial
  | chain fragments => trivial
  | column qualifier name => trivial

/-- Over the operators that are there from the start, acceptance depends on the skeletons of column
types only. Take two scopes that resolve the same columns, to types of one skeleton without NULL at
any level, and admit the same aggregate calls, and an expression that casts to types without NULL
and calls COALESCE, GREATEST and LEAST with an operand. It is accepted in one scope exactly if it is
in the other, and the two types have one skeleton. -/
theorem validate_builtin_depends_on_skeletons (config : Config) (s s' : Scope) (e : Expr)
    (hs : s.SameSkeletons s')
    (hcasts : ∀ inner target, .cast inner target ∈ e.nodes → target.nullFree = true)
    (hcalls : ∀ c ∈ e.calls, Text.upper c.name ∈ coalescing → c.operands ≠ []) :
    let v : Validator := ⟨.builtin, config⟩
    ((∃ t, v.validate s e = .ok t) ↔ ∃ t', v.validate s' e = .ok t') ∧
      ∀ t t', v.validate s e = .ok t → v.validate s' e = .ok t' → t.skeleton = t'.skeleton := by
  intro v
  have hstd : v.catalog.Standard := Catalog.standard_builtin
  have hgives : v.catalog.GivesNoNull := Catalog.givesNoNull_builtin
  have hmade := @noNullMade_builtin config e hcasts hcalls
  refine ⟨⟨?_, ?_⟩, fun t t' ht ht' => ?_⟩
  · rintro ⟨t, ht⟩
    obtain ⟨t', ht', _⟩ := validate_alike hstd hgives hs hmade ht
    exact ⟨t', ht'⟩
  · rintro ⟨t', ht'⟩
    obtain ⟨t, ht, _⟩ := validate_alike hstd hgives hs.symm hmade ht'
    exact ⟨t, ht⟩
  · -- the other scope gives one type only
    obtain ⟨u', hu', hskeleton⟩ := validate_alike hstd hgives hs hmade ht
    rw [ht'] at hu'
    cases hu'
    exact hskeleton

/-- Amounts that may be missing and amounts of another width make no difference but in the width of
the result: with the former the call gives the type of zero, with the latter that of the amount. -/
theorem amountOrZero_of_decimal_amounts :
    let v : Validator := ⟨.builtin, .standard⟩
    let decimal : SqlType := .scalar (.decimal (some 10) (some 2))
    let e : Expr := .call Orders.amountOrZero
    (Orders.amounts (.nullable .bigint)).SameSkeletons (Orders.amounts decimal) ∧
      v.validate (Orders.amounts (.nullable .bigint)) e = .ok (.nullable .bigint) ∧
      ∃ t, v.validate (Orders.amounts decimal) e = .ok t ∧ t ≠ .nullable .bigint ∧
        (SqlType.nullable .bigint).skeleton = t.skeleton := by
  intro v decimal e
  have hs : (Orders.amounts (.nullable .bigint)).SameSkeletons (Orders.amounts decimal) := by
    refine ⟨fun _ name span => ?_, fun c => Iff.rfl⟩
    by_cases hname : name = "amount"
    · exact .inl ⟨_, _, if_pos hname, if_pos hname, rfl, rfl, rfl⟩
    · exact .inr ⟨_, _, if_neg hname, if_neg hname⟩
  have hok : v.validate (Orders.amounts (.nullable .bigint)) e = .ok (.nullable .bigint) := rfl
  have hok' : v.validate (Orders.amounts decimal) e = .ok (.nullable decimal) := rfl
  have hcasts : ∀ inner target, .cast inner target ∈ e.nodes → target.nullFree = true := by
    intro inner target h
    have hcast : inner = .literal .null ∧ target = .double := by
      simpa [e, Orders.amountOrZero, nodes, nodesOfOperands] using h
    rw [hcast.2]; rfl
  have hcalls : ∀ c ∈ e.calls, Text.upper c.name ∈ coalescing → c.operands ≠ [] := by
    intro c h _ hnone
    simp [e, Orders.amountOrZero, calls, nodes, nodesOfOperands, call?] at h
    rcases h with rfl | rfl <;> cases hnone
  obtain ⟨haccepted, hskeleton⟩ :=
    validate_builtin_depends_on_skeletons .standard _ _ e hs hcasts hcalls
  obtain ⟨t, ht⟩ := haccepted.1 ⟨_, hok⟩
  refine ⟨hs, hok, t, ht, ?_, hskeleton _ _ hok ht⟩
  cases hok'.symm.trans ht
  decide

end Validator

end SqlTyping
