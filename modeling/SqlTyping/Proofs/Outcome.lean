/-
Results that may be a refusal: when a sequence of steps and a traversal of a list give a value,
which step a refusal comes from, when two computations agree up to some refusals of the first, and
when they have related results.
-/
import Mathlib.Data.List.Forall2

namespace SqlTyping.Outcome

variable {ε α β : Type}

theorem bind_eq_ok {x : Except ε α} {f : α → Except ε β} {b : β} :
    (x >>= f) = .ok b ↔ ∃ a, x = .ok a ∧ f a = .ok b := by
  cases x with
  | error d => simp [bind, Except.bind]
  | ok a => simp [bind, Except.bind]

theorem bind_eq_error {x : Except ε α} {f : α → Except ε β} {d : ε} :
    (x >>= f) = .error d ↔ x = .error d ∨ ∃ a, x = .ok a ∧ f a = .error d := by
  cases x with
  | error d' => simp [bind, Except.bind]
  | ok a => simp [bind, Except.bind]

theorem pure_eq_ok {a b : α} : (pure a : Except ε α) = .ok b ↔ a = b := by
  simp [pure, Except.pure]

theorem pure_ne_error {a : α} {d : ε} : (pure a : Except ε α) ≠ .error d := by
  simp [pure, Except.pure]

/-- A result is a value or a refusal. -/
theorem ok_or_error (x : Except ε α) : (∃ a, x = .ok a) ∨ ∃ d, x = .error d := by
  cases x with
  | ok a => exact .inl ⟨a, rfl⟩
  | error d => exact .inr ⟨d, rfl⟩

/-- A traversal succeeds exactly if it does so at every element. -/
theorem mapM_eq_ok {f : α → Except ε β} {xs : List α} {ys : List β} :
    xs.mapM f = .ok ys ↔ List.Forall₂ (fun x y => f x = .ok y) xs ys := by
  induction xs generalizing ys with
  | nil => rw [List.mapM_nil, pure_eq_ok, List.forall₂_nil_left_iff, eq_comm]
  | cons x xs ih =>
    rw [List.mapM_cons, bind_eq_ok, List.forall₂_cons_left_iff]
    constructor
    · rintro ⟨y, hy, h⟩
      obtain ⟨zs, hzs, h⟩ := bind_eq_ok.1 h
      exact ⟨y, zs, hy, ih.1 hzs, (pure_eq_ok.1 h).symm⟩
    · rintro ⟨y, zs, hy, hzs, rfl⟩
      exact ⟨y, hy, bind_eq_ok.2 ⟨zs, ih.2 hzs, pure_eq_ok.2 rfl⟩⟩

/-- In lists that are related one by one, every element of the first has a partner. -/
theorem exists_related_of_mem {R : α → β → Prop} {xs : List α} {ys : List β}
    (h : List.Forall₂ R xs ys) {x : α} (hx : x ∈ xs) : ∃ y ∈ ys, R x y := by
  induction h with
  | nil => cases hx
  | cons hxy _ ih =>
    rcases List.mem_cons.1 hx with rfl | hx
    · exact ⟨_, List.mem_cons_self, hxy⟩
    · obtain ⟨y, hy, hR⟩ := ih hx
      exact ⟨y, List.mem_cons_of_mem _ hy, hR⟩

/-- A traversal that fails does so at some element. -/
theorem mapM_eq_error {f : α → Except ε β} {xs : List α} {d : ε} (h : xs.mapM f = .error d) :
    ∃ x ∈ xs, f x = .error d := by
  induction xs with
  | nil => rw [List.mapM_nil] at h; exact absurd h pure_ne_error
  | cons x xs ih =>
    rw [List.mapM_cons] at h
    rcases bind_eq_error.1 h with h | ⟨y, _, h⟩
    · exact ⟨x, List.mem_cons_self, h⟩
    · rcases bind_eq_error.1 h with h | ⟨ys, _, h⟩
      · obtain ⟨x', hx', h⟩ := ih h
        exact ⟨x', List.mem_cons_of_mem _ hx', h⟩
      · exact absurd h pure_ne_error

/-! ## Two computations -/

/-- The two results are the same, unless the first is a refusal that satisfies `P`. -/
def AgreeUnless (P : ε → Prop) (x y : Except ε α) : Prop :=
  x = y ∨ ∃ d, P d ∧ x = .error d

namespace AgreeUnless

variable {P : ε → Prop} {x y : Except ε α}

theorem refl (P : ε → Prop) (x : Except ε α) : AgreeUnless P x x :=
  .inl rfl

theorem eq_of_never (h : AgreeUnless (fun _ => False) x y) : x = y := by
  rcases h with h | ⟨_, h, _⟩
  · exact h
  · exact h.elim

theorem ok (h : AgreeUnless P x y) {a : α} (hx : x = .ok a) : y = .ok a := by
  rcases h with h | ⟨d, _, h⟩
  · rw [← h, hx]
  · rw [hx] at h; cases h

theorem error (h : AgreeUnless P x y) {d : ε} (hx : x = .error d) (hd : ¬ P d) :
    y = .error d := by
  rcases h with h | ⟨d', hd', h⟩
  · rw [← h, hx]
  · rw [hx] at h; cases h; exact absurd hd' hd

/-- Steps that agree make computations that agree; the second step counts only on values of the
first. -/
theorem bind {f g : α → Except ε β} (h : AgreeUnless P x y)
    (hfg : ∀ a, x = .ok a → AgreeUnless P (f a) (g a)) : AgreeUnless P (x >>= f) (y >>= g) := by
  rcases h with rfl | ⟨d, hd, rfl⟩
  · cases x with
    | ok a => exact hfg a rfl
    | error d => exact .inl rfl
  · exact .inr ⟨d, hd, rfl⟩

/-- Traversals whose steps agree one by one agree. -/
theorem mapM {γ : Type} {f : α → Except ε β} {g : γ → Except ε β} {xs : List α} {ys : List γ}
    (h : List.Forall₂ (fun a c => AgreeUnless P (f a) (g c)) xs ys) :
    AgreeUnless P (xs.mapM f) (ys.mapM g) := by
  induction h with
  | nil => exact .refl P _
  | cons hxy _ ih =>
    rw [List.mapM_cons, List.mapM_cons]
    exact hxy.bind fun _ _ => ih.bind fun _ _ => .refl P _

end AgreeUnless

/-- Two traversals that differ only at elements where the first fails give the same result, unless
the first fails at such an element. -/
theorem mapM_eq_or_error {f g : α → Except ε β} {P : α → ε → Prop} {xs : List α}
    (h : ∀ x ∈ xs, f x = g x ∨ ∃ d, P x d ∧ f x = .error d) :
    xs.mapM f = xs.mapM g ∨ ∃ x ∈ xs, ∃ d, P x d ∧ xs.mapM f = .error d := by
  have hsteps : ∀ x ∈ xs, AgreeUnless (fun d => ∃ x ∈ xs, P x d) (f x) (g x) := by
    intro x hx
    rcases h x hx with h | ⟨d, hd, h⟩
    · exact .inl h
    · exact .inr ⟨d, ⟨x, hx, hd⟩, h⟩
  rcases AgreeUnless.mapM (List.forall₂_same.2 hsteps) with h | ⟨d, ⟨x, hx, hd⟩, h⟩
  · exact .inl h
  · exact .inr ⟨x, hx, d, hd, h⟩

/-! ## Related results -/

/-- The results are one refusal, or values that are related. -/
inductive Related (R : α → β → Prop) : Except ε α → Except ε β → Prop
  | error (d : ε) : Related R (.error d) (.error d)
  | ok {a : α} {b : β} : R a b → Related R (.ok a) (.ok b)

namespace Related

theorem refl {R : α → α → Prop} (hR : ∀ a, R a a) (x : Except ε α) : Related R x x := by
  cases x with
  | error d => exact .error d
  | ok a => exact .ok (hR a)

variable {γ δ : Type} {R : α → β → Prop} {S : γ → δ → Prop}

/-- Steps with related results make computations with related results. -/
theorem bind {x : Except ε α} {y : Except ε β} {f : α → Except ε γ} {g : β → Except ε δ}
    (h : Related R x y)
    (hfg : ∀ a b, x = .ok a → y = .ok b → R a b → Related S (f a) (g b)) :
    Related S (x >>= f) (y >>= g) := by
  cases h with
  | error d => exact .error d
  | ok hab => exact hfg _ _ rfl rfl hab

theorem mapM {f : γ → Except ε α} {g : δ → Except ε β} {xs : List γ} {ys : List δ}
    (h : List.Forall₂ (fun c d => Related R (f c) (g d)) xs ys) :
    Related (List.Forall₂ R) (xs.mapM f) (ys.mapM g) := by
  induction h with
  | nil => exact .ok .nil
  | cons hxy _ ih =>
    rw [List.mapM_cons, List.mapM_cons]
    exact hxy.bind fun _ _ _ _ hab => ih.bind fun _ _ _ _ hrest => .ok (.cons hab hrest)

end Related

/-! ## Checks one after the other -/

variable {γ : Type} {check : α → Except ε Unit}

/-- Checks in a row are all passed, or the first one that is not passed decides. -/
theorem forM_cases (check : α → Except ε Unit) (xs : List α) :
    ((∀ x ∈ xs, check x = .ok ()) ∧ forM xs check = .ok ()) ∨
    ∃ before x after d, xs = before ++ x :: after ∧ (∀ y ∈ before, check y = .ok ()) ∧
      check x = .error d ∧ forM xs check = .error d := by
  induction xs with
  | nil => exact .inl ⟨fun _ h => (nomatch h), rfl⟩
  | cons x xs ih =>
    rw [List.forM_cons]
    cases hx : check x with
    | error d => exact .inr ⟨[], x, xs, d, rfl, fun _ h => (nomatch h), hx, rfl⟩
    | ok u =>
      rcases ih with ⟨hall, hxs⟩ | ⟨before, y, after, d, rfl, hbefore, hy, hxs⟩
      · exact .inl ⟨List.forall_mem_cons.2 ⟨hx, hall⟩, hxs⟩
      · exact .inr ⟨x :: before, y, after, d, rfl, List.forall_mem_cons.2 ⟨hx, hbefore⟩, hy, hxs⟩

/-- A traversal whose steps each make checks and then give a value makes all the checks in order,
and then gives all the values. -/
theorem mapM_eq_forM_bind {f : γ → Except ε β} {items : γ → List α} {xs : List γ} {ys : List β}
    (h : List.Forall₂ (fun x y => f x = forM (items x) check >>= fun _ => .ok y) xs ys) :
    xs.mapM f = forM (xs.flatMap items) check >>= fun _ => .ok ys := by
  induction h with
  | nil => rfl
  | @cons x y xs ys hxy _ ih =>
    rw [List.mapM_cons, hxy, ih, List.flatMap_cons, List.forM_append]
    cases forM (items x) check with
    | error d => rfl
    | ok u => cases forM (xs.flatMap items) check <;> rfl

end SqlTyping.Outcome
