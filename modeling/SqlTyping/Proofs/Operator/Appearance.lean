/-
What a standard rule sees of a typed call: its span, of the types of its operands the skeleton and
the text, and of each operand the span, whether it is a bare NULL and what kind of literal it is.
Calls that look alike in this way get one verdict, and one diagnostic where they are refused.
-/
import Mathlib.Data.List.Forall2
import SqlTyping.Operator.Check
import SqlTyping.Proofs.SqlType.Skeleton

namespace SqlTyping

/-! ## Related lists -/

section Lists

variable {α β γ δ : Type} {R : α → β → Prop} {xs : List α} {ys : List β}

theorem zipIdx_related (h : List.Forall₂ R xs ys) (k : Nat) :
    List.Forall₂ (fun p q => R p.1 q.1 ∧ p.2 = q.2) (xs.zipIdx k) (ys.zipIdx k) := by
  induction h generalizing k with
  | nil => exact .nil
  | cons hxy _ ih => exact .cons ⟨hxy, rfl⟩ (ih (k + 1))

theorem zip_related {S : γ → δ → Prop} {zs : List γ} {ws : List δ} (h : List.Forall₂ R xs ys)
    (h' : List.Forall₂ S zs ws) :
    List.Forall₂ (fun p q => R p.1 q.1 ∧ S p.2 q.2) (xs.zip zs) (ys.zip ws) := by
  induction h generalizing zs ws with
  | nil => exact .nil
  | cons hxy _ ih =>
    cases h' with
    | nil => exact .nil
    | cons hzw h' => exact .cons ⟨hxy, hzw⟩ (ih h')

theorem map_eq_of_related {f : α → γ} {g : β → γ} (h : List.Forall₂ R xs ys)
    (hfg : ∀ x y, R x y → f x = g y) : xs.map f = ys.map g := by
  rw [← List.forall₂_eq_eq_eq, List.forall₂_map_left_iff, List.forall₂_map_right_iff]
  exact h.imp hfg

theorem find?_related {p : α → Bool} {q : β → Bool} (h : List.Forall₂ R xs ys)
    (hpq : ∀ x y, R x y → p x = q y) : Option.Rel R (xs.find? p) (ys.find? q) := by
  induction h with
  | nil => exact .none
  | @cons x y xs ys hxy _ ih =>
    rw [List.find?_cons, List.find?_cons, hpq x y hxy]
    cases q y with
    | true => exact .some hxy
    | false => exact ih

theorem firstOf_related (h : List.Forall₂ R xs ys) (count : Option Nat) :
    List.Forall₂ R (firstOf count xs) (firstOf count ys) := by
  cases count with
  | none => exact h
  | some n => exact List.forall₂_take n h

end Lists

/-! ## Types that look alike -/

/-- The types have one skeleton and one text. -/
structure SqlType.Resembles (t u : SqlType) : Prop where
  skeleton : t.skeleton = u.skeleton
  text : t.toText = u.toText

theorem SqlType.Resembles.refl (t : SqlType) : t.Resembles t :=
  ⟨rfl, rfl⟩

theorem neighboursComparable_of_resembles {types types' : List SqlType}
    (h : List.Forall₂ SqlType.Resembles types types') :
    neighboursComparable types = neighboursComparable types' := by
  induction h with
  | nil => rfl
  | cons ht hrest ih =>
    cases hrest with
    | nil => rfl
    | cons hu _ =>
      rw [neighboursComparable, neighboursComparable, ih,
        SqlType.comparable_congr hu.skeleton ht.skeleton]

/-! ## Calls that look alike -/

/-- The operands stand at one span, and are the same kind of literal or both none. -/
structure SameFace (o o' : Operand) : Prop where
  span : o.span = o'.span
  isNull : o.expr.isNull false = o'.expr.isNull false
  literalClass : o.expr.literalClass = o'.expr.literalClass

/-- The typed calls have one span, and operands of the same types that look alike. -/
structure TypedCall.LooksLike (b b' : TypedCall) : Prop where
  span : b.call.span = b'.call.span
  types : b.types = b'.types
  operands : List.Forall₂ SameFace b.call.operands b'.call.operands

/-- The typed calls have one span, and operands that look alike, as do their types. -/
structure TypedCall.Resembles (b b' : TypedCall) : Prop where
  span : b.call.span = b'.call.span
  types : List.Forall₂ SqlType.Resembles b.types b'.types
  operands : List.Forall₂ SameFace b.call.operands b'.call.operands

theorem TypedCall.Resembles.refl (b : TypedCall) : b.Resembles b where
  span := rfl
  types := List.forall₂_same.2 fun t _ => .refl t
  operands := List.forall₂_same.2 fun _ _ => ⟨rfl, rfl, rfl⟩

theorem TypedCall.LooksLike.resembles {b b' : TypedCall} (h : b.LooksLike b') : b.Resembles b' where
  span := h.span
  types := h.types ▸ List.forall₂_same.2 fun t _ => .refl t
  operands := h.operands

namespace Operator

variable {op : Operator} {k k' : Context} {b b' : TypedCall}

theorem signatureMismatch_congr (h : b.Resembles b') :
    op.signatureMismatch b = op.signatureMismatch b' := by
  unfold signatureMismatch
  rw [map_eq_of_related h.types fun _ _ ht => ht.text, h.span]

theorem checkSameType_congr (h : b.Resembles b') (count : Option Nat) (mode : Mode) :
    op.checkSameType count b mode = op.checkSameType count b' mode := by
  have hfound := find?_related (zipIdx_related (firstOf_related h.operands count) 0)
    fun _ _ hslot => hslot.1.isNull
  unfold checkSameType
  rw [neighboursComparable_of_resembles (firstOf_related h.types count), h.span]
  generalize (firstOf count b.call.operands).zipIdx.find? _ = found at hfound ⊢
  generalize (firstOf count b'.call.operands).zipIdx.find? _ = found' at hfound ⊢
  cases hfound with
  | none => rfl
  | some hslot => simp only [hslot.1.span, hslot.2]

theorem checkFirstLiteral_congr (h : b.Resembles b') (allowNull : Bool) (mode : Mode) :
    op.checkFirstLiteral allowNull b mode = op.checkFirstLiteral allowNull b' mode := by
  have hoperands := h.operands
  unfold checkFirstLiteral checkLiteral literalVerdict
  rw [signatureMismatch_congr h]
  generalize b.call.operands = operands at hoperands ⊢
  generalize b'.call.operands = operands' at hoperands ⊢
  cases hoperands with
  | nil => rfl
  | cons ho _ => simp only [List.head?_cons, ho.literalClass, ho.span]

theorem checkFamily_congr (h : b.Resembles b') {o o' : Operand} (ho : SameFace o o')
    {t t' : SqlType} (ht : t.Resembles t') (families : List Family) (i : Nat) (mode : Mode) :
    op.checkFamily families b (o, t) i mode = op.checkFamily families b' (o', t') i mode := by
  unfold checkFamily familyVerdict
  simp only [pure_bind, signatureMismatch_congr h, ho.isNull, ho.span,
    SqlType.contains_congr ht.skeleton]

theorem checkFamilies_congr (h : b.Resembles b') (families : List Family) (mode : Mode) :
    op.checkFamilies families b mode = op.checkFamilies families b' mode := by
  have hslots := zipIdx_related (zip_related h.operands h.types) 0
  unfold checkFamilies TypedCall.slots
  congr 1
  refine map_eq_of_related hslots ?_
  rintro ⟨⟨o, t⟩, i⟩ ⟨⟨o', t'⟩, i'⟩ ⟨⟨ho, ht⟩, rfl⟩
  exact checkFamily_congr h ho ht families i mode

/-- A standard rule gives calls that look alike one verdict, whatever stands around them. -/
theorem check_congr (hrule : op.rule.isStandard = true) (h : b.Resembles b') (mode : Mode) :
    op.check k b mode = op.check k' b' mode := by
  unfold check
  cases hr : op.rule with
  | sameType count => exact checkSameType_congr h count mode
  | literal allowNull => exact checkFirstLiteral_congr h allowNull mode
  | families families => exact checkFamilies_congr h families mode
  | custom r => rw [hr] at hrule; cases hrule

theorem demand_congr (hrule : op.rule.isStandard = true) (h : b.Resembles b') :
    op.demand k b = op.demand k' b' := by
  unfold demand
  rw [check_congr hrule h, signatureMismatch_congr h]

theorem checkCount_congr (h : b.Resembles b') : op.checkCount b.call = op.checkCount b'.call := by
  unfold checkCount
  rw [h.operands.length_eq, h.span]

end Operator

end SqlTyping
