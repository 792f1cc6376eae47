/-
Comparability through skeletons. Two skeletons agree if they are equal up to NULL, which agrees with
everything at every level, and two types are comparable exactly if their skeletons agree. So
comparability is reflexive and symmetric, and on types without NULL it is equality of skeletons.

NULL at an inner level agrees with everything just as NULL itself does: comparability is carried
over from one type to another through a third exactly if that third type has NULL at no level.
-/
import Mathlib.Data.List.Forall2
import SqlTyping.SqlType.Comparable

namespace SqlTyping

namespace Skeleton

/-! ## Agreement up to NULL -/

/-- Induction on a skeleton, with one hypothesis per struct field. -/
@[elab_as_elim, induction_eliminator]
theorem induct {motive : Skeleton → Prop}
    (scalar : ∀ f, motive (.scalar f))
    (collection : ∀ σ, motive σ → motive (.collection σ))
    (map : ∀ σ τ, motive σ → motive τ → motive (.map σ τ))
    (struct : ∀ fields, (∀ σ ∈ fields, motive σ) → motive (.struct fields))
    (null : motive .null) (σ : Skeleton) : motive σ :=
  @Skeleton.rec motive (fun fields => ∀ σ ∈ fields, motive σ)
    scalar collection map struct null
    (fun _ h => nomatch h)
    (fun _ _ hσ hfields τ h => by
      rcases List.mem_cons.1 h with rfl | h
      · exact hσ
      · exact hfields τ h) σ

/-- The skeletons are equal up to NULL, which agrees with everything. -/
inductive Agrees : Skeleton → Skeleton → Prop
  | nullLeft (τ : Skeleton) : Agrees .null τ
  | nullRight (σ : Skeleton) : Agrees σ .null
  | scalar (f : Family) : Agrees (.scalar f) (.scalar f)
  | collection {σ τ : Skeleton} : Agrees σ τ → Agrees (.collection σ) (.collection τ)
  | map {σ σ' τ τ' : Skeleton} : Agrees σ σ' → Agrees τ τ' → Agrees (.map σ τ) (.map σ' τ')
  | struct {fields fields' : List Skeleton} :
      List.Forall₂ Agrees fields fields' → Agrees (.struct fields) (.struct fields')

/-- NULL stands at no level of the skeleton. -/
inductive NullFree : Skeleton → Prop
  | scalar (f : Family) : NullFree (.scalar f)
  | collection {σ : Skeleton} : NullFree σ → NullFree (.collection σ)
  | map {σ τ : Skeleton} : NullFree σ → NullFree τ → NullFree (.map σ τ)
  | struct {fields : List Skeleton} : (∀ σ ∈ fields, NullFree σ) → NullFree (.struct fields)

/-- The family of the types with the skeleton. -/
def family : Skeleton → Family
  | .scalar f => f
  | .collection _ => .collection
  | .map _ _ => .map
  | .struct _ => .struct
  | .null => .null

namespace Agrees

variable {σ τ ρ : Skeleton}

theorem scalar_iff {f : Family} : Agrees (.scalar f) τ ↔ τ = .null ∨ .scalar f = τ := by
  constructor
  · intro h
    cases h with
    | nullRight => exact .inl rfl
    | scalar => exact .inr rfl
  · rintro (rfl | rfl)
    · exact .nullRight _
    · exact .scalar f

theorem collection_iff :
    Agrees (.collection σ) τ ↔ τ = .null ∨ ∃ σ', τ = .collection σ' ∧ Agrees σ σ' := by
  constructor
  · intro h
    cases h with
    | nullRight => exact .inl rfl
    | collection h => exact .inr ⟨_, rfl, h⟩
  · rintro (rfl | ⟨σ', rfl, h⟩)
    · exact .nullRight _
    · exact .collection h

theorem map_iff :
    Agrees (.map σ ρ) τ ↔ τ = .null ∨ ∃ σ' ρ', τ = .map σ' ρ' ∧ Agrees σ σ' ∧ Agrees ρ ρ' := by
  constructor
  · intro h
    cases h with
    | nullRight => exact .inl rfl
    | map hσ hρ => exact .inr ⟨_, _, rfl, hσ, hρ⟩
  · rintro (rfl | ⟨σ', ρ', rfl, hσ, hρ⟩)
    · exact .nullRight _
    · exact .map hσ hρ

theorem struct_iff {fields : List Skeleton} :
    Agrees (.struct fields) τ ↔
      τ = .null ∨ ∃ fields', τ = .struct fields' ∧ List.Forall₂ Agrees fields fields' := by
  constructor
  · intro h
    cases h with
    | nullRight => exact .inl rfl
    | struct h => exact .inr ⟨_, rfl, h⟩
  · rintro (rfl | ⟨fields', rfl, h⟩)
    · exact .nullRight _
    · exact .struct h

theorem refl (σ : Skeleton) : Agrees σ σ := by
  induction σ with
  | scalar f => exact .scalar f
  | collection σ ih => exact .collection ih
  | map σ τ ihσ ihτ => exact .map ihσ ihτ
  | struct fields ih => exact .struct (List.forall₂_same.2 ih)
  | null => exact .nullLeft _

theorem symm (h : Agrees σ τ) : Agrees τ σ := by
  induction σ generalizing τ with
  | scalar f =>
    rcases scalar_iff.1 h with rfl | rfl
    · exact .nullLeft _
    · exact h
  | collection σ ih =>
    rcases collection_iff.1 h with rfl | ⟨σ', rfl, hσ⟩
    · exact .nullLeft _
    · exact .collection (ih hσ)
  | map σ ρ ihσ ihρ =>
    rcases map_iff.1 h with rfl | ⟨σ', ρ', rfl, hσ, hρ⟩
    · exact .nullLeft _
    · exact .map (ihσ hσ) (ihρ hρ)
  | struct fields ih =>
    rcases struct_iff.1 h with rfl | ⟨fields', rfl, hfields⟩
    · exact .nullLeft _
    · have hall := (List.forall₂_and_left _ _).2 ⟨fun σ hσ τ => @ih σ hσ τ, hfields⟩
      exact .struct (hall.imp fun _ _ h => h.1 _ h.2).flip
  | null => exact .nullRight _

theorem forall₂_trans {fields fields' fields'' : List Skeleton}
    (h : ∀ τ ∈ fields', ∀ σ ρ, Agrees σ τ → Agrees τ ρ → Agrees σ ρ)
    (hleft : List.Forall₂ Agrees fields fields') (hright : List.Forall₂ Agrees fields' fields'') :
    List.Forall₂ Agrees fields fields'' := by
  induction hleft generalizing fields'' with
  | nil => exact hright
  | cons hστ _ ih =>
    obtain ⟨ρ, rest, hτρ, hrest, rfl⟩ := List.forall₂_cons_left_iff.1 hright
    refine .cons (h _ List.mem_cons_self _ _ hστ hτρ) (ih (fun τ hτ => ?_) hrest)
    exact h τ (List.mem_cons_of_mem _ hτ)

/-- Agreement is carried over through a skeleton without NULL. -/
theorem trans (hτ : NullFree τ) (hστ : Agrees σ τ) (hτρ : Agrees τ ρ) : Agrees σ ρ := by
  -- a NULL on either side agrees with whatever stands on the other
  induction hτ generalizing σ ρ with
  | scalar f =>
    rcases scalar_iff.1 hστ.symm with rfl | rfl
    · exact .nullLeft _
    · exact hτρ
  | collection _ ih =>
    rcases collection_iff.1 hστ.symm with rfl | ⟨σ', rfl, hσ⟩
    · exact .nullLeft _
    rcases collection_iff.1 hτρ with rfl | ⟨ρ', rfl, hρ⟩
    · exact .nullRight _
    · exact .collection (ih hσ.symm hρ)
  | map _ _ ihk ihv =>
    rcases map_iff.1 hστ.symm with rfl | ⟨σk, σv, rfl, hσk, hσv⟩
    · exact .nullLeft _
    rcases map_iff.1 hτρ with rfl | ⟨ρk, ρv, rfl, hρk, hρv⟩
    · exact .nullRight _
    · exact .map (ihk hσk.symm hρk) (ihv hσv.symm hρv)
  | struct _ ih =>
    cases hστ with
    | nullLeft => exact .nullLeft _
    | struct hleft =>
      cases hτρ with
      | nullRight => exact .nullRight _
      | struct hright => exact .struct (forall₂_trans (fun τ hτ σ ρ => ih τ hτ) hleft hright)

/-- Without NULL, agreement is equality. -/
theorem eq_of_nullFree (hσ : NullFree σ) (hτ : NullFree τ) (h : Agrees σ τ) : σ = τ := by
  induction hσ generalizing τ with
  | scalar f =>
    rcases scalar_iff.1 h with rfl | rfl
    · cases hτ
    · rfl
  | collection _ ih =>
    rcases collection_iff.1 h with rfl | ⟨τ', rfl, helement⟩
    · cases hτ
    · cases hτ with
      | collection hτ => rw [ih hτ helement]
  | map _ _ ihk ihv =>
    rcases map_iff.1 h with rfl | ⟨τk, τv, rfl, hk, hv⟩
    · cases hτ
    · cases hτ with
      | map hτk hτv => rw [ihk hτk hk, ihv hτv hv]
  | @struct fields _ ih =>
    rcases struct_iff.1 h with rfl | ⟨fields', rfl, hagree⟩
    · cases hτ
    · cases hτ with
      | struct hτ =>
        obtain ⟨hlength, hpairs⟩ := List.forall₂_iff_zip.1 hagree
        have hfields : List.Forall₂ (· = ·) fields fields' := by
          refine List.forall₂_iff_zip.2 ⟨hlength, fun hpair => ?_⟩
          obtain ⟨hmem, hmem'⟩ := List.of_mem_zip hpair
          exact ih _ hmem (hτ _ hmem') (hpairs hpair)
        rw [List.forall₂_eq_eq_eq] at hfields
        rw [hfields]

end Agrees

end Skeleton

namespace SqlType

open Skeleton

/-! ## Skeletons of types -/

theorem base_ne_nullable (t u : SqlType) : t.base ≠ .nullable u := by
  induction t with
  | nullable t ih => exact ih
  | _ => simp [base]

@[simp] theorem skeleton_base (t : SqlType) : t.base.skeleton = t.skeleton := by
  induction t with
  | nullable t ih => exact ih
  | _ => rfl

@[simp] theorem skeleton_orNull (t : SqlType) : t.orNull.skeleton = t.skeleton := by
  rw [← skeleton_base, base_orNull, skeleton_base]

theorem fieldSkeletons_eq_map (fields : List (String × SqlType)) :
    fieldSkeletons fields = fields.map (·.2.skeleton) := by
  induction fields with
  | nil => rfl
  | cons f fields ih => rw [fieldSkeletons, ih, List.map_cons]

theorem nullFreeFields_iff {fields : List (String × SqlType)} :
    nullFreeFields fields = true ↔ ∀ f ∈ fields, f.2.nullFree = true := by
  induction fields with
  | nil => simp [nullFreeFields]
  | cons f fields ih => rw [nullFreeFields, Bool.and_eq_true, ih, List.forall_mem_cons]

/-- A type has NULL at no level exactly if its skeleton has. -/
theorem nullFree_iff (t : SqlType) : t.nullFree = true ↔ t.skeleton.NullFree := by
  induction t with
  | scalar s => simp [nullFree, skeleton, Skeleton.NullFree.scalar]
  | array t n ih =>
    rw [nullFree, skeleton, ih]
    exact ⟨.collection, fun h => by cases h with | collection h => exact h⟩
  | list t ih =>
    rw [nullFree, skeleton, ih]
    exact ⟨.collection, fun h => by cases h with | collection h => exact h⟩
  | map k v ihk ihv =>
    rw [nullFree, skeleton, Bool.and_eq_true, ihk, ihv]
    exact ⟨fun h => .map h.1 h.2, fun h => by cases h with | map hk hv => exact ⟨hk, hv⟩⟩
  | struct fields ih =>
    rw [nullFree, skeleton, nullFreeFields_iff, fieldSkeletons_eq_map]
    constructor
    · intro h
      refine .struct fun σ hσ => ?_
      obtain ⟨f, hf, rfl⟩ := List.mem_map.1 hσ
      exact (ih f hf).1 (h f hf)
    · intro h f hf
      cases h with
      | struct h => exact (ih f hf).2 (h _ (List.mem_map.2 ⟨f, hf, rfl⟩))
  | nullable t ih => rw [nullFree, skeleton, ih]
  | null => exact ⟨fun h => (by cases h), fun h => (by cases h)⟩

theorem family_skeleton (t : SqlType) : t.skeleton.family = t.family := by
  induction t with
  | nullable t ih => exact ih
  | _ => rfl

/-- A family holds the types of a skeleton, or none of them. -/
theorem contains_congr {t u : SqlType} (h : t.skeleton = u.skeleton) (f : Family) :
    f.contains t = f.contains u := by
  have hfamily : t.family = u.family := by
    rw [← t.family_skeleton, ← u.family_skeleton, h]
  cases f <;> simp [Family.contains, hfamily]

/-! ## Comparability -/

theorem comparableFields_iff {fields : List (String × SqlType)}
    (h : ∀ f ∈ fields, ∀ u : SqlType, f.2.comparable u = true ↔ f.2.skeleton.Agrees u.skeleton)
    (fields' : List (String × SqlType)) :
    comparableFields fields fields' = true ↔
      List.Forall₂ Agrees (fieldSkeletons fields) (fieldSkeletons fields') := by
  induction fields generalizing fields' with
  | nil => cases fields' <;> simp [comparableFields, fieldSkeletons]
  | cons f fields ih =>
    cases fields' with
    | nil => simp [comparableFields, fieldSkeletons]
    | cons f' fields' =>
      have hf := h f List.mem_cons_self f'.2
      have hfields := ih (fun g hg => h g (List.mem_cons_of_mem _ hg)) fields'
      rw [comparableFields, Bool.and_eq_true, hf, hfields]
      simp [fieldSkeletons]

/-- Two types are comparable exactly if their skeletons agree. -/
theorem comparable_iff_agrees (t u : SqlType) :
    t.comparable u = true ↔ t.skeleton.Agrees u.skeleton := by
  -- the right type is read through its base, which is no nullable type and has the same skeleton
  induction t generalizing u with
  | scalar s =>
    rw [comparable, ← skeleton_base u, skeleton, Agrees.scalar_iff]
    cases hu : u.base with
    | nullable x => exact absurd hu (base_ne_nullable u x)
    | _ => simp [skeleton]
  | array t n ih =>
    rw [comparable, ← skeleton_base u, skeleton, Agrees.collection_iff]
    cases hu : u.base with
    | nullable x => exact absurd hu (base_ne_nullable u x)
    | _ => simp [skeleton, ih]
  | list t ih =>
    rw [comparable, ← skeleton_base u, skeleton, Agrees.collection_iff]
    cases hu : u.base with
    | nullable x => exact absurd hu (base_ne_nullable u x)
    | _ => simp [skeleton, ih]
  | map k v ihk ihv =>
    rw [comparable, ← skeleton_base u, skeleton, Agrees.map_iff]
    cases hu : u.base with
    | nullable x => exact absurd hu (base_ne_nullable u x)
    | _ => simp [skeleton, ihk, ihv]
  | struct fields ih =>
    rw [comparable, ← skeleton_base u, skeleton, Agrees.struct_iff]
    cases hu : u.base with
    | nullable x => exact absurd hu (base_ne_nullable u x)
    | _ => simp [skeleton, comparableFields_iff ih]
  | nullable t ih => exact ih u
  | null => exact ⟨fun _ => .nullLeft _, fun _ => rfl⟩

theorem comparable_congr {t t' u u' : SqlType} (ht : t.skeleton = t'.skeleton)
    (hu : u.skeleton = u'.skeleton) : t.comparable u = t'.comparable u' := by
  rw [Bool.eq_iff_iff, comparable_iff_agrees, comparable_iff_agrees, ht, hu]

theorem comparable_refl (t : SqlType) : t.comparable t = true :=
  (comparable_iff_agrees t t).2 (.refl _)

theorem comparable_comm (t u : SqlType) : t.comparable u = u.comparable t := by
  rw [Bool.eq_iff_iff, comparable_iff_agrees, comparable_iff_agrees]
  exact ⟨.symm, .symm⟩

theorem comparable_iff_skeleton_eq {t u : SqlType} (ht : t.nullFree = true)
    (hu : u.nullFree = true) : t.comparable u = true ↔ t.skeleton = u.skeleton := by
  rw [comparable_iff_agrees]
  constructor
  · exact Agrees.eq_of_nullFree ((nullFree_iff t).1 ht) ((nullFree_iff u).1 hu)
  · intro h
    rw [h]
    exact .refl _

theorem comparable_trans {a b c : SqlType} (hb : b.nullFree = true)
    (hab : a.comparable b = true) (hbc : b.comparable c = true) : a.comparable c = true := by
  rw [comparable_iff_agrees] at hab hbc ⊢
  exact hab.trans ((nullFree_iff b).1 hb) hbc

/-- Comparability is reflexive and symmetric. On types that have NULL at no level it is equality of
skeletons, and so an equivalence. -/
theorem comparable_equivalence_of_skeletons :
    (∀ t : SqlType, t.comparable t = true) ∧
    (∀ t u : SqlType, t.comparable u = u.comparable t) ∧
    (∀ t u : SqlType, t.nullFree = true → u.nullFree = true →
      (t.comparable u = true ↔ t.skeleton = u.skeleton)) ∧
    Equivalence fun t u : { t : SqlType // t.nullFree = true } =>
      t.val.comparable u.val = true := by
  refine ⟨comparable_refl, comparable_comm, fun t u => comparable_iff_skeleton_eq, ?_⟩
  refine ⟨fun t => comparable_refl t.val, fun h => ?_, fun {t u r} htu hur => ?_⟩
  · rw [comparable_comm]
    exact h
  · exact comparable_trans u.property htu hur

/-- A list of structs and an array of structs with other field names and other widths, nullable in
other places. -/
theorem comparable_list_array_of_structs :
    let t : SqlType := .list (.nullable (.struct [("x", .bigint), ("at", .scalar .date)]))
    let u : SqlType := .nullable (.array (.struct [("y", .nullable .double), ("on", .scalar .date)])
      (some 3))
    t.nullFree = true ∧ u.nullFree = true ∧ t.skeleton = u.skeleton ∧ t.comparable u = true := by
  intro t u
  have hskeleton : t.skeleton = u.skeleton := rfl
  exact ⟨rfl, rfl, hskeleton,
    (comparable_equivalence_of_skeletons.2.2.1 t u rfl rfl).2 hskeleton⟩

/-! ## NULL at an inner level -/

theorem comparableFields_refl (fields : List (String × SqlType)) :
    comparableFields fields fields = true := by
  simpa [comparable, base] using comparable_refl (.struct fields)

/-- Field lists that differ in one place are comparable exactly if the two types there are. -/
theorem comparableFields_of_split (before after : List (String × SqlType))
    (f g : String × SqlType) :
    comparableFields (before ++ f :: after) (before ++ g :: after) = f.2.comparable g.2 := by
  induction before with
  | nil => simp [comparableFields, comparableFields_refl]
  | cons h before ih => simp [comparableFields, comparable_refl, ih]

/-- Two types that cannot be compared with each other, though both can be compared with a third,
are found wherever that third type has NULL at some level. -/
theorem exists_incomparable {b : SqlType} (h : b.nullFree = false) :
    ∃ a c : SqlType, a.comparable b = true ∧ b.comparable c = true ∧ a.comparable c = false ∧
      (b.base ≠ .null → a.base ≠ .null ∧ c.base ≠ .null) := by
  induction b with
  | scalar s => cases h
  | array t n ih =>
    obtain ⟨a, c, ha, hc, hac, _⟩ := ih h
    exact ⟨.list a, .list c, ha, hc, hac, fun _ => by simp [base]⟩
  | list t ih =>
    obtain ⟨a, c, ha, hc, hac, _⟩ := ih h
    exact ⟨.list a, .list c, ha, hc, hac, fun _ => by simp [base]⟩
  | map k v ihk ihv =>
    rw [nullFree, Bool.and_eq_false_iff] at h
    rcases h with h | h
    · obtain ⟨a, c, ha, hc, hac, _⟩ := ihk h
      refine ⟨.map a v, .map c v, ?_, ?_, ?_, fun _ => by simp [base]⟩ <;>
        simp [comparable, base, comparable_refl, ha, hc, hac]
    · obtain ⟨a, c, ha, hc, hac, _⟩ := ihv h
      refine ⟨.map k a, .map k c, ?_, ?_, ?_, fun _ => by simp [base]⟩ <;>
        simp [comparable, base, comparable_refl, ha, hc, hac]
  | struct fields ih =>
    have hsome : ¬ ∀ f ∈ fields, f.2.nullFree = true := by
      rw [← nullFreeFields_iff]
      simpa [nullFree] using h
    push Not at hsome
    obtain ⟨f, hf, hnull⟩ := hsome
    obtain ⟨a, c, ha, hc, hac, _⟩ := ih f hf (by simpa using hnull)
    -- all other fields stay as they are
    obtain ⟨before, after, rfl⟩ := List.append_of_mem hf
    refine ⟨.struct (before ++ (f.1, a) :: after), .struct (before ++ (f.1, c) :: after),
      ?_, ?_, ?_, fun _ => by simp [base]⟩ <;>
      simp [comparable, base, comparableFields_of_split, ha, hc, hac]
  | nullable t ih =>
    obtain ⟨a, c, ha, hc, hac, hbase⟩ := ih h
    exact ⟨a, c, by rw [comparable_comm] at ha ⊢; exact ha, hc, hac, hbase⟩
  | null => exact ⟨.bigint, .text, rfl, rfl, rfl, fun h => absurd rfl h⟩

/-- Comparability is carried over through a type other than NULL, between all types other than
NULL, exactly if that type has NULL at no level. -/
theorem comparable_trans_iff_nullFree (b : SqlType) (hb : b.base ≠ .null) :
    (∀ a c : SqlType, a.base ≠ .null → c.base ≠ .null → a.comparable b = true →
      b.comparable c = true → a.comparable c = true) ↔ b.nullFree = true := by
  constructor
  · intro htrans
    by_contra hnull
    obtain ⟨a, c, hab, hbc, hac, hbase⟩ := exists_incomparable (by simpa using hnull)
    rw [htrans a c (hbase hb).1 (hbase hb).2 hab hbc] at hac
    cases hac
  · intro hfree a c _ _ hab hbc
    exact comparable_trans hfree hab hbc

/-- Through the type of a list of NULL, numbers would be comparable with texts. -/
theorem not_comparable_through_list_of_null :
    (SqlType.list .null).base ≠ .null ∧ (SqlType.list .null).nullFree = false ∧
      ¬ ∀ a c : SqlType, a.base ≠ .null → c.base ≠ .null → a.comparable (.list .null) = true →
        (SqlType.list .null).comparable c = true → a.comparable c = true := by
  have hbase : (SqlType.list .null).base ≠ .null := by decide
  refine ⟨hbase, rfl, fun htrans => ?_⟩
  have hfree := (comparable_trans_iff_nullFree (.list .null) hbase).1 htrans
  cases hfree

/-- Lists of numbers and lists of texts are both comparable with lists of NULL, and not with each
other. -/
theorem lists_comparable_with_list_of_null :
    (SqlType.list .bigint).base ≠ .null ∧ (SqlType.list .null).base ≠ .null ∧
      (SqlType.list .text).base ≠ .null ∧
      (SqlType.list .bigint).comparable (.list .null) = true ∧
      (SqlType.list .null).comparable (.list .text) = true ∧
      (SqlType.list .bigint).comparable (.list .text) = false := by
  decide

end SqlType

end SqlTyping
