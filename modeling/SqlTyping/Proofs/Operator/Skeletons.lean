/-
What an operator sees of the types of its operands. The types that an operand has in two scopes are
alike if they have one skeleton and, unless the operand is a bare NULL, NULL at no level. A standard
rule passes calls with alike types alike, since it compares skeletons and families only. The types
of a call that is passed are then alike too, for operators that give no type of NULL where their
rule lets none in (`givesNoNull`).
-/
import SqlTyping.Proofs.Operator.Gates
import SqlTyping.Proofs.SqlType.Skeleton
import SqlTyping.Proofs.Validator.Walk

namespace SqlTyping

open Walk

/-- Types of one skeleton for an expression; they have NULL at some level only if it is a bare
NULL. -/
structure Alike (e : Expr) (t t' : SqlType) : Prop where
  skeleton : t.skeleton = t'.skeleton
  nullFree : e.isNull false = false → t.nullFree = true

theorem SqlType.nullFree_congr {t t' : SqlType} (h : t.skeleton = t'.skeleton) :
    t.nullFree = t'.nullFree := by
  rw [Bool.eq_iff_iff, nullFree_iff, nullFree_iff, h]

theorem Alike.symm {e : Expr} {t t' : SqlType} (h : Alike e t t') : Alike e t' t :=
  ⟨h.skeleton.symm, fun he => by rw [← SqlType.nullFree_congr h.skeleton]; exact h.nullFree he⟩

/-! ## Lists of alike types -/

namespace Walk.Aligned

variable {R : Expr → SqlType → SqlType → Prop} {operands : List Operand}
  {types types' : List SqlType}

theorem length_left (h : Aligned R operands types types') : types.length = operands.length := by
  induction h with
  | nil => rfl
  | cons _ _ ih => simp [ih]

theorem length_right (h : Aligned R operands types types') : types'.length = operands.length := by
  induction h with
  | nil => rfl
  | cons _ _ ih => simp [ih]

theorem firstOf (h : Aligned R operands types types') (count : Option Nat) :
    Aligned R (firstOf count operands) (firstOf count types) (firstOf count types') := by
  cases count with
  | none => exact h
  | some n =>
    simp only [SqlTyping.firstOf]
    induction h generalizing n with
    | nil => simpa using Aligned.nil
    | cons hR _ ih =>
      cases n with
      | zero => exact .nil
      | succ n => exact .cons hR (ih n)

/-- At every position the operand stands with related types in both lists. -/
theorem slot (h : Aligned R operands types types') {i : Nat} {o : Operand} {t : SqlType}
    (hi : (operands.zip types)[i]? = some (o, t)) :
    ∃ t', (operands.zip types')[i]? = some (o, t') ∧ R o.expr t t' := by
  induction h generalizing i with
  | nil => cases hi
  | @cons o' u u' _ _ _ hR _ ih =>
    cases i with
    | zero => cases hi; exact ⟨u', rfl, hR⟩
    | succ i => exact ih hi

theorem symm (h : Aligned Alike operands types types') : Aligned Alike operands types' types := by
  induction h with
  | nil => exact .nil
  | cons hR _ ih => exact .cons hR.symm ih

theorem map_skeleton (h : Aligned Alike operands types types') :
    types.map (·.skeleton) = types'.map (·.skeleton) := by
  induction h with
  | nil => rfl
  | cons hR _ ih => rw [List.map_cons, List.map_cons, hR.skeleton, ih]

/-- Operands none of which is a bare NULL have types without NULL. -/
theorem nullFree (h : Aligned Alike operands types types')
    (hnull : ∀ o ∈ operands, o.expr.isNull false = false) : ∀ t ∈ types, t.nullFree = true := by
  induction h with
  | nil => exact fun _ h => nomatch h
  | cons hR _ ih =>
    rw [List.forall_mem_cons] at hnull ⊢
    exact ⟨hR.nullFree hnull.1, ih hnull.2⟩

end Walk.Aligned

/-! ## The same-type rule -/

/-- Among types without NULL, neighbours are comparable exactly if all have one skeleton. -/
theorem neighboursComparable_iff {types : List SqlType} (h : ∀ t ∈ types, t.nullFree = true) :
    neighboursComparable types = true ↔
      ∀ t ∈ types, ∀ u ∈ types, t.skeleton = u.skeleton := by
  induction types with
  | nil => simp [neighboursComparable]
  | cons t types ih =>
    cases types with
    | nil => simp [neighboursComparable]
    | cons u types =>
      rw [List.forall_mem_cons] at h
      have hpair := SqlType.comparable_iff_skeleton_eq (h.2 u List.mem_cons_self) h.1
      rw [neighboursComparable, Bool.and_eq_true, hpair, ih h.2]
      constructor
      · rintro ⟨hut, hrest⟩
        -- every type has the skeleton of the second one
        have hall : ∀ x ∈ t :: u :: types, x.skeleton = u.skeleton :=
          List.forall_mem_cons.2 ⟨hut.symm, fun x hx => hrest x hx u List.mem_cons_self⟩
        intro x hx y hy
        rw [hall x hx, hall y hy]
      · intro hall
        refine ⟨hall u (by simp) t (by simp), fun x hx y hy => ?_⟩
        exact hall x (List.mem_cons_of_mem _ hx) y (List.mem_cons_of_mem _ hy)

theorem neighboursComparable_congr {operands : List Operand} {types types' : List SqlType}
    (h : Aligned Alike operands types types')
    (hnull : ∀ o ∈ operands, o.expr.isNull false = false) :
    neighboursComparable types = neighboursComparable types' := by
  rw [Bool.eq_iff_iff, neighboursComparable_iff (h.nullFree hnull),
    neighboursComparable_iff (h.symm.nullFree hnull)]
  have hskeletons : ∀ ts : List SqlType, (∀ t ∈ ts, ∀ u ∈ ts, t.skeleton = u.skeleton) ↔
      ∀ σ ∈ ts.map (·.skeleton), ∀ τ ∈ ts.map (·.skeleton), σ = τ := fun ts => by simp
  rw [hskeletons, hskeletons, h.map_skeleton]

theorem find?_zipIdx_eq_none {α : Type} (p : α → Bool) {xs : List α}
    (h : xs.zipIdx.find? (p ·.1) = none) : ∀ x ∈ xs, p x = false := by
  intro x hx
  obtain ⟨i, hi⟩ := List.getElem?_of_mem hx
  simpa using List.find?_eq_none.1 h (x, i) (List.mem_zipIdx_iff_getElem?.2 hi)

namespace Operator

open Verdict

variable {op : Operator} {k k' : Context} {b b' : TypedCall} {mode : Mode}

/-- The same-type rule passes a call without a bare NULL whose neighbouring types are comparable. -/
theorem checkSameType_eq_pass_iff {count : Option Nat} :
    op.checkSameType count b mode = .pass ↔
      (∀ o ∈ firstOf count b.call.operands, o.expr.isNull false = false) ∧
      neighboursComparable (firstOf count b.types) = true := by
  unfold checkSameType
  cases hf : (firstOf count b.call.operands).zipIdx.find? (·.1.expr.isNull false) with
  | some found =>
    simp only [refuse_ne_pass, false_iff, not_and]
    intro hnone
    have hmem := List.mem_of_find?_eq_some hf
    have hnull := List.find?_some hf
    rw [hnone found.1 (List.fst_mem_of_mem_zipIdx hmem)] at hnull
    cases hnull
  | none =>
    have hnone := find?_zipIdx_eq_none (fun o : Operand => o.expr.isNull false) hf
    by_cases hcomparable : neighboursComparable (firstOf count b.types) = true
    · simpa [hcomparable] using hnone
    · simp [hcomparable, refuse_ne_pass]

theorem checkSameType_of_alike {count : Option Nat} (hcall : b.call = b'.call)
    (h : Aligned Alike b.call.operands b.types b'.types)
    (hpass : op.checkSameType count b mode = .pass) :
    op.checkSameType count b' mode = .pass := by
  rw [checkSameType_eq_pass_iff] at hpass ⊢
  -- the operands that count hold no bare NULL, so that their types are free of NULL on both sides
  rw [← hcall, ← neighboursComparable_congr (h.firstOf count) hpass.1]
  exact hpass

/-! ## The literal and the family rule -/

theorem checkFirstLiteral_of_call_eq {allowNull : Bool} (hcall : b.call = b'.call)
    (hpass : op.checkFirstLiteral allowNull b mode = .pass) :
    op.checkFirstLiteral allowNull b' mode = .pass := by
  unfold checkFirstLiteral at hpass ⊢
  rw [← hcall]
  cases ho : b.call.operands.head? with
  | some o => rw [ho] at hpass; exact hpass
  | none => rw [ho] at hpass; exact absurd hpass (refuse_ne_pass _ _)

/-- The family rule passes an operand at a position that has a family, if this is `any` or if the
operand is no bare NULL and its type belongs to it. -/
theorem checkFamily_eq_pass_iff {families : List Family} {slot : Operand × SqlType} {i : Nat} :
    op.checkFamily families b slot i mode = .pass ↔
      ∃ f, families[i]? = some f ∧
        (f ≠ .any → slot.1.expr.isNull false = false ∧ f.contains slot.2 = true) := by
  unfold checkFamily familyVerdict
  cases families[i]? with
  | none => simp [run_refuseM, refuse_ne_pass]
  | some f =>
    by_cases hany : f = .any
    · simp [hany]
    · cases hnull : slot.1.expr.isNull false <;> cases hmember : f.contains slot.2 <;>
        simp [hany, hmember, run_refuseM, refuse_ne_pass]

theorem checkFamilies_eq_pass_iff {families : List Family} :
    op.checkFamilies families b mode = .pass ↔
      ∀ i slot, b.slots[i]? = some slot → op.checkFamily families b slot i mode = .pass := by
  unfold checkFamilies
  rw [firstRefusal_eq_pass]
  constructor
  · intro h i slot hslot
    exact h _ (List.mem_map.2 ⟨(slot, i), List.mem_zipIdx_iff_getElem?.2 hslot, rfl⟩)
  · intro h verdict hverdict
    obtain ⟨⟨slot, i⟩, hmem, rfl⟩ := List.mem_map.1 hverdict
    exact h i slot (List.mem_zipIdx_iff_getElem?.1 hmem)

theorem checkFamilies_of_alike {families : List Family} (hcall : b.call = b'.call)
    (h : Aligned Alike b.call.operands b.types b'.types)
    (hpass : op.checkFamilies families b mode = .pass) :
    op.checkFamilies families b' mode = .pass := by
  rw [checkFamilies_eq_pass_iff] at hpass ⊢
  rintro i ⟨o, t'⟩ hslot
  unfold TypedCall.slots at hpass hslot
  rw [← hcall] at hslot
  obtain ⟨t, ht, halike⟩ := h.symm.slot hslot
  obtain ⟨f, hf, hmember⟩ := checkFamily_eq_pass_iff.1 (hpass i (o, t) ht)
  refine checkFamily_eq_pass_iff.2 ⟨f, hf, fun hany => ?_⟩
  rw [SqlType.contains_congr halike.skeleton f]
  exact hmember hany

/-- A standard rule passes calls with alike types alike, whatever stands around them. -/
theorem check_of_alike (hstd : op.rule.isStandard = true) (hcall : b.call = b'.call)
    (h : Aligned Alike b.call.operands b.types b'.types) (hpass : op.check k b mode = .pass) :
    op.check k' b' mode = .pass := by
  unfold check at hpass ⊢
  cases hr : op.rule with
  | sameType count => rw [hr] at hpass; exact checkSameType_of_alike hcall h hpass
  | literal allowNull => rw [hr] at hpass; exact checkFirstLiteral_of_call_eq hcall hpass
  | families fs => rw [hr] at hpass; exact checkFamilies_of_alike hcall h hpass
  | custom r => rw [hr] at hstd; cases hstd

/-- The gates let calls with alike types through alike, in scopes that admit the same aggregates. -/
theorem takes_of_alike (hstd : op.rule.isStandard = true) {v : Validator} {s s' : Scope}
    (hadmits : ∀ c, s.admits c = .ok () → s'.admits c = .ok ()) (hcall : b.call = b'.call)
    (h : Aligned Alike b.call.operands b.types b'.types) (htakes : op.Takes v s b) :
    op.Takes v s' b' := by
  obtain ⟨hquantifier, hcount, hoperands, halone, hadmitted⟩ := htakes
  have hpass : ∀ mode, op.check (v.context s') b' mode = .pass := fun mode =>
    check_of_alike hstd hcall h (hoperands mode)
  rw [hcall] at hquantifier hcount halone hadmitted
  exact ⟨hquantifier, hcount, hpass, halone, fun hagg => hadmits _ (hadmitted hagg)⟩

end Operator

/-! ## Result types -/

/-- The rule asks for a first operand that is no bare NULL. -/
def Rule.guardsFirst : Rule → Bool
  | .sameType (some (_ + 1)) => true
  | .families (f :: _) => f != .any
  | _ => false

/-- The type of a call that the operator takes has NULL at no level if those of its operands have
not. -/
def Operator.givesNoNull (op : Operator) : Bool :=
  match op.returns, op.rule with
  | .boolean, _ => true
  | .fixed t, _ => t.nullFree
  | .first, rule | .firstOrNull, rule => rule.guardsFirst
  | .coalesce, .sameType none => true
  | .coalesce, _ => false

theorem ReturnRule.skeleton_boolean (types : List SqlType) :
    (ReturnRule.boolean.apply types).skeleton = .scalar .boolean := by
  rw [ReturnRule.apply]
  split <;> rfl

/-- COALESCE gives the type of an operand, or that of NULL where all operands have it. -/
theorem ReturnRule.coalesce_mem_or_null (types : List SqlType) :
    ReturnRule.coalesce.apply types ∈ types ∨
      (∀ t ∈ types, t = .null) ∧ ReturnRule.coalesce.apply types = .null := by
  rw [ReturnRule.apply]
  cases hfirst : types.find? (!·.isNullable) with
  | some t => exact .inl (List.mem_of_find?_eq_some hfirst)
  | none =>
    cases hother : types.find? (· != .null) with
    | some t => exact .inl (List.mem_of_find?_eq_some hother)
    | none => exact .inr ⟨by simpa using List.find?_eq_none.1 hother, rfl⟩

theorem ReturnRule.coalesce_mem {types : List SqlType} (hne : types ≠ [])
    (hnull : ∀ t ∈ types, t ≠ .null) : ReturnRule.coalesce.apply types ∈ types := by
  rcases coalesce_mem_or_null types with hmem | ⟨hall, _⟩
  · exact hmem
  · obtain ⟨t, ht⟩ := List.exists_mem_of_ne_nil types hne
    exact absurd (hall t ht) (hnull t ht)

theorem Walk.Aligned.head {o : Operand} {operands : List Operand} {types types' : List SqlType}
    (h : Aligned Alike (o :: operands) types types') :
    Alike o.expr (types.headD .null) (types'.headD .null) := by
  cases h with
  | cons hR _ => exact hR

/-- COALESCE gives the type of an operand, if there is one and none is a bare NULL. -/
theorem Walk.Aligned.coalesce_mem {operands : List Operand} {types types' : List SqlType}
    (h : Aligned Alike operands types types') (hne : operands ≠ [])
    (hnull : ∀ o ∈ operands, o.expr.isNull false = false) :
    ReturnRule.coalesce.apply types ∈ types := by
  refine ReturnRule.coalesce_mem ?_ fun t ht htnull => ?_
  · rwa [← List.length_pos_iff, h.length_left, List.length_pos_iff]
  · have hfree := h.nullFree hnull t ht
    rw [htnull] at hfree
    cases hfree

namespace Operator

variable {op : Operator} {k : Context} {b b' : TypedCall} {mode : Mode}

/-- A rule that guards the first operand passes only calls that have one, and no bare NULL. -/
theorem exists_first_of_check (hguards : op.rule.guardsFirst = true)
    (hcount : op.arity.accepts b.call.operands.length = true) (hpass : op.check k b mode = .pass) :
    ∃ o operands, b.call.operands = o :: operands ∧ o.expr.isNull false = false := by
  unfold arity at hcount
  unfold check at hpass
  cases hr : op.rule with
  | sameType count =>
    rw [hr] at hguards hcount hpass
    cases count with
    | none => cases hguards
    | some n =>
      cases n with
      | zero => cases hguards
      | succ n =>
        have hlength : b.call.operands.length = n + 1 := by
          simpa [Rule.arity, Arity.accepts] using hcount
        obtain ⟨o, operands, ho⟩ := List.exists_cons_of_length_eq_add_one hlength
        have hnull := (checkSameType_eq_pass_iff.1 hpass).1
        exact ⟨o, operands, ho, hnull o (by simp [ho, firstOf])⟩
  | literal allowNull => rw [hr] at hguards; cases hguards
  | families fs =>
    rw [hr] at hguards hcount hpass
    cases fs with
    | nil => cases hguards
    | cons f fs =>
      have hlength : b.call.operands.length = fs.length + 1 := by
        simpa [Rule.arity, Arity.accepts] using hcount
      obtain ⟨o, operands, ho⟩ := List.exists_cons_of_length_eq_add_one hlength
      obtain ⟨t, types, ht⟩ := List.exists_cons_of_length_eq_add_one (b.aligned.trans hlength)
      have hslot : b.slots[0]? = some (o, t) := by simp [TypedCall.slots, ho, ht]
      obtain ⟨g, hg, hmember⟩ :=
        checkFamily_eq_pass_iff.1 (checkFamilies_eq_pass_iff.1 hpass 0 (o, t) hslot)
      cases hg
      exact ⟨o, operands, ho, (hmember (by simpa [Rule.guardsFirst] using hguards)).1⟩
  | custom r => rw [hr] at hguards; cases hguards

/-- The variadic same-type rule passes only types of one skeleton, so that it does not matter which
of them COALESCE gives. -/
theorem coalesce_alike (hrule : op.rule = .sameType none) (hne : b.call.operands ≠ [])
    (h : Aligned Alike b.call.operands b.types b'.types) (hpass : op.check k b mode = .pass) :
    (ReturnRule.coalesce.apply b.types).skeleton = (ReturnRule.coalesce.apply b'.types).skeleton ∧
      (ReturnRule.coalesce.apply b.types).nullFree = true := by
  unfold check at hpass
  rw [hrule] at hpass
  obtain ⟨hnull, hcomparable⟩ := checkSameType_eq_pass_iff.1 hpass
  have hfree := h.nullFree hnull
  have hmem := h.coalesce_mem hne hnull
  have hmem' := h.symm.coalesce_mem hne hnull
  -- what is given on the other side has the skeleton of a type on this side, not that of its index
  obtain ⟨u, hu, hskeleton⟩ : ∃ u ∈ b.types,
      u.skeleton = (ReturnRule.coalesce.apply b'.types).skeleton := by
    rw [← List.mem_map, h.map_skeleton]
    exact List.mem_map_of_mem hmem'
  rw [← hskeleton]
  exact ⟨(neighboursComparable_iff hfree).1 hcomparable _ hmem u hu, hfree _ hmem⟩

/-- The type of a call that is passed is alike for alike types of its operands. -/
theorem apply_alike (hgives : op.givesNoNull = true)
    (hcount : op.arity.accepts b.call.operands.length = true) (hpass : op.check k b mode = .pass)
    (hne : op.returns = .coalesce → b.call.operands ≠ [])
    (h : Aligned Alike b.call.operands b.types b'.types) :
    (op.returns.apply b.types).skeleton = (op.returns.apply b'.types).skeleton ∧
      (op.returns.apply b.types).nullFree = true := by
  unfold givesNoNull at hgives
  cases hreturns : op.returns with
  | boolean =>
    rw [SqlType.nullFree_iff, ReturnRule.skeleton_boolean, ReturnRule.skeleton_boolean]
    exact ⟨rfl, .scalar _⟩
  | fixed t =>
    simp only [hreturns] at hgives
    exact ⟨rfl, hgives⟩
  | first =>
    simp only [hreturns] at hgives
    obtain ⟨o, operands, ho, hnull⟩ := exists_first_of_check hgives hcount hpass
    rw [ho] at h
    exact ⟨h.head.skeleton, h.head.nullFree hnull⟩
  | firstOrNull =>
    simp only [hreturns] at hgives
    obtain ⟨o, operands, ho, hnull⟩ := exists_first_of_check hgives hcount hpass
    rw [ho] at h
    rw [ReturnRule.apply, ReturnRule.apply, SqlType.nullFree_congr (SqlType.skeleton_orNull _),
      SqlType.skeleton_orNull, SqlType.skeleton_orNull]
    exact ⟨h.head.skeleton, h.head.nullFree hnull⟩
  | coalesce =>
    have hrule : op.rule = .sameType none := by
      simp only [hreturns] at hgives
      split at hgives <;> simp_all
    exact coalesce_alike hrule (hne hreturns) h hpass

end Operator

end SqlTyping
