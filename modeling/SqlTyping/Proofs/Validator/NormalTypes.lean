/-
Derived types are in normal form: at no level does nullability stand directly on a type that admits
NULL already. A type is normal exactly if every type within it carries one layer of nullability at
most, so that `base` and `isNullable` look through one layer and no more.

Nullability is added in many places, by the flag of a column, to a field of a struct, by a cast, by
the return rules of operators and for unknown functions. Each of them gives normal types from normal
ones, so a walk over normal columns, normal cast targets and operators with normal fixed types gives
a normal type, with and without checks.
-/
import SqlTyping.Catalog.Builtin
import SqlTyping.Proofs.Operator.Skeletons
import SqlTyping.Proofs.Scope.Nullability

namespace SqlTyping

namespace SqlType

/-! ## Normal form, level by level -/

/-- The types of which the type is directly made. -/
def parts : SqlType → List SqlType
  | .scalar _ | .null => []
  | .array t _ | .list t | .nullable t => [t]
  | .map k v => [k, v]
  | .struct fields => fields.map (·.2)

/-- The first type stands at some level of the second. -/
inductive Within : SqlType → SqlType → Prop
  | self (t : SqlType) : Within t t
  | part {t p u : SqlType} : p ∈ t.parts → Within u p → Within u t

/-- The type has one layer of nullability at most: it is its own base, or that base made nullable,
which does not admit NULL itself. -/
def OneLayer (t : SqlType) : Prop :=
  t.base = t ∨ t = .nullable t.base ∧ t.base.isNullable = false

theorem base_of_not_isNullable {t : SqlType} (h : t.isNullable = false) : t.base = t := by
  cases t with
  | nullable t => cases h
  | _ => rfl

theorem oneLayer_nullable {t : SqlType} : (nullable t).OneLayer ↔ t.isNullable = false := by
  constructor
  · rintro (h | ⟨h, hbase⟩)
    · exact absurd h (base_ne_nullable _ _)
    · rw [SqlType.nullable.inj h]
      exact hbase
  · intro h
    have hbase : (nullable t).base = t := base_of_not_isNullable h
    exact .inr ⟨by rw [hbase], by rw [hbase]; exact h⟩

theorem normalFields_iff {fields : List (String × SqlType)} :
    normalFields fields = true ↔ ∀ f ∈ fields, f.2.normal = true := by
  induction fields with
  | nil => simp [normalFields]
  | cons f fields ih => rw [normalFields, Bool.and_eq_true, ih, List.forall_mem_cons]

/-- A type is normal exactly if it has one layer of nullability at most and its parts are normal. -/
theorem normal_iff_parts (t : SqlType) :
    t.normal = true ↔ t.OneLayer ∧ ∀ p ∈ t.parts, p.normal = true := by
  cases t with
  | nullable t => simp [normal, parts, oneLayer_nullable]
  | struct fields =>
    rw [normal, normalFields_iff, parts, List.forall_mem_map]
    simp [OneLayer, base]
  | _ => simp [normal, parts, OneLayer, base]

/-- Induction on a type, with one hypothesis per part. -/
theorem induct_parts {motive : SqlType → Prop}
    (step : ∀ t : SqlType, (∀ p ∈ t.parts, motive p) → motive t) (t : SqlType) : motive t := by
  induction t with
  | scalar s => exact step _ (by simp [parts])
  | array t size ih => exact step _ (by simpa [parts] using ih)
  | list t ih => exact step _ (by simpa [parts] using ih)
  | map k v ihk ihv => exact step _ (by simpa [parts] using ⟨ihk, ihv⟩)
  | struct fields ih => exact step _ (List.forall_mem_map.2 ih)
  | nullable t ih => exact step _ (by simpa [parts] using ih)
  | null => exact step _ (by simp [parts])

theorem forall_within_iff {P : SqlType → Prop} {t : SqlType} :
    (∀ u, Within u t → P u) ↔ P t ∧ ∀ p ∈ t.parts, ∀ u, Within u p → P u := by
  constructor
  · exact fun h => ⟨h t (.self t), fun p hp u hu => h u (.part hp hu)⟩
  · rintro ⟨ht, hparts⟩ u hu
    cases hu with
    | self => exact ht
    | part hp hu => exact hparts _ hp u hu

/-- A type is normal exactly if every type within it has one layer of nullability at most. -/
theorem normal_iff_oneLayer (t : SqlType) :
    t.normal = true ↔ ∀ u, Within u t → OneLayer u := by
  induction t using induct_parts with
  | step t ih =>
    rw [normal_iff_parts, forall_within_iff]
    exact and_congr_right fun _ => forall₂_congr ih

/-! ## What is made nullable stays normal -/

theorem normal_base {t : SqlType} (h : t.normal = true) : t.base.normal = true := by
  induction t with
  | nullable t ih =>
    rw [normal, Bool.and_eq_true] at h
    exact ih h.2
  | _ => exact h

@[simp] theorem normal_orNull (t : SqlType) : t.orNull.normal = t.normal := by
  unfold orNull
  split
  · rfl
  · rename_i h
    simp [normal, h]

@[simp] theorem normal_castType (inner target : SqlType) :
    (castType inner target).normal = target.normal := by
  unfold castType
  split
  · exact normal_orNull target
  · rfl

end SqlType

theorem Literal.normal_type (l : Literal) : l.type.normal = true := by
  cases l <;> rfl

theorem normal_chainType (fragments : List Literal) : (chainType fragments).normal = true := by
  unfold chainType
  split <;> rfl

/-! ## Return rules -/

/-- The type that the rule gives always, if there is one, is normal. -/
def ReturnRule.normal : ReturnRule → Bool
  | .fixed t => t.normal
  | _ => true

/-- A rule gives a normal type to a call whose operands have normal types. -/
theorem ReturnRule.normal_apply {rule : ReturnRule} (hrule : rule.normal = true)
    {types : List SqlType} (htypes : ∀ u ∈ types, u.normal = true) :
    (rule.apply types).normal = true := by
  have hfirst : (types.headD .null).normal = true := by
    cases types with
    | nil => rfl
    | cons u types => exact htypes u List.mem_cons_self
  cases rule with
  | boolean => rw [apply]; split <;> rfl
  | fixed t => exact hrule
  | first => exact hfirst
  | firstOrNull => rw [apply, SqlType.normal_orNull]; exact hfirst
  | coalesce =>
    rcases coalesce_mem_or_null types with hmem | ⟨_, hnull⟩
    · exact htypes _ hmem
    · rw [hnull]; rfl

/-! ## Columns -/

namespace TableScope

variable {s : TableScope} {q : Option String} {name : String}

/-- A reference to a column of a normal type, or to a field of it, gets a normal type. -/
theorem Reads.normal_type {r : Reading} (h : s.Reads q name r)
    (hcolumn : r.through.type.normal = true) : r.type.normal = true := by
  have hflag : ∀ (c : Column) (t : SqlType), t.normal = true →
      (if c.nullable then t.orNull else t).normal = true := by
    intro c t ht
    split
    · rw [SqlType.normal_orNull]; exact ht
    · exact ht
  cases h with
  | bare => exact hflag _ _ hcolumn
  | qualified => exact hflag _ _ hcolumn
  | @field _ _ label _ c fields type _ _ _ hbase hf =>
    -- the struct is what is left of the type of the column without its nullability
    have hstruct : (SqlType.struct fields).normal = true := hbase ▸ SqlType.normal_base hcolumn
    rw [SqlType.normal, SqlType.normalFields_iff] at hstruct
    exact hflag c type (hstruct (label, type) (List.mem_of_find?_eq_some hf))

theorem normal_of_resolve
    (hcolumns : ∀ r ∈ s.tables, ∀ c ∈ r.table.columns, c.type.normal = true) {span : Span}
    {t : SqlType} (h : s.resolve q name span = .ok t) : t.normal = true := by
  obtain ⟨r, hr, rfl⟩ := resolve_eq_ok_iff.1 h
  obtain ⟨u, hu, hmem⟩ := hr.through_mem
  exact hr.normal_type (hcolumns u hu _ hmem)

end TableScope

/-! ## Calls and whole expressions -/

namespace Validator

open Walk

variable {v : Validator}

theorem normal_callType (hreturns : ∀ op ∈ v.catalog.operators, op.returns.normal = true)
    (c : Call) {types : List SqlType} (htypes : ∀ u ∈ types, u.normal = true) :
    (v.callType c types).normal = true := by
  unfold callType
  cases hop : v.catalog.lookup c.name with
  | none => rfl
  | some op => exact ReturnRule.normal_apply (hreturns op (List.mem_of_find?_eq_some hop)) htypes

/-- The node is no cast to a type that is not normal. -/
def NormalTarget : Expr → Prop
  | .cast _ target => target.normal = true
  | _ => True

/-- Both walks give normal types to nodes whose parts have such types, where columns and calls do. -/
theorem keeps_normal {w : Walk}
    (hcolumn : ∀ q name span t, w.resolve q name span = .ok t → t.normal = true)
    (hcall : ∀ (b : TypedCall) t, w.call b.call b.types = .ok t → v.callType b.call b.types = t)
    (hreturns : ∀ op ∈ v.catalog.operators, op.returns.normal = true) :
    w.Keeps (·.normal = true) NormalTarget where
  literal := Literal.normal_type
  chain := normal_chainType
  cast _ target t htarget _ := (SqlType.normal_castType t target).trans htarget
  column := hcolumn
  call b t _ htypes h := by
    rw [← hcall b t h]
    exact normal_callType hreturns b.call htypes

/-- Derived types are normal. Take any settings, operators whose fixed types are normal, tables whose
columns have normal types, and an expression that casts to normal types only. The type it gets, with
or without checks, is normal: every type within it has one layer of nullability at most. -/
theorem derived_types_are_normal (v : Validator) (s : TableScope) (e : Expr)
    (hreturns : ∀ op ∈ v.catalog.operators, op.returns.normal = true)
    (hcolumns : ∀ r ∈ s.tables, ∀ c ∈ r.table.columns, c.type.normal = true)
    (htargets : ∀ inner target, .cast inner target ∈ e.nodes → target.normal = true)
    (t : SqlType) (h : v.derive s.toScope e = .ok t ∨ v.validate s.toScope e = .ok t) :
    t.normal = true ∧ ∀ u, SqlType.Within u t → SqlType.OneLayer u := by
  have hfit : ∀ n ∈ e.nodes, NormalTarget n := by
    intro n hn
    cases n with
    | cast inner target => exact htargets inner target hn
    | _ => trivial
  have hcolumn : ∀ q name span u, s.resolve q name span = .ok u → u.normal = true :=
    fun _ _ _ _ => TableScope.normal_of_resolve hcolumns
  -- the gates only refuse calls: a call that passes them has the type it would have without checks
  have hnormal : t.normal = true := by
    rcases h with h | h
    · have hkeeps : (v.derivation s.toScope).Keeps (·.normal = true) NormalTarget :=
        keeps_normal hcolumn (fun _ _ hcall => (resultType_eq_ok.1 hcall).2) hreturns
      exact hkeeps.of_ok (v.deriveAt_walks s.toScope) hfit h
    · have hkeeps : (v.validation s.toScope).Keeps (·.normal = true) NormalTarget :=
        keeps_normal hcolumn (fun _ _ hcall => (validatedType_eq_ok_iff.1 hcall).2) hreturns
      exact hkeeps.of_ok (v.validateAt_walks s.toScope) hfit h
  exact ⟨hnormal, t.normal_iff_oneLayer.1 hnormal⟩

end Validator

/-- `NULLIF(ANY_VALUE(CAST(office AS ...)), home)` with a cast to an address that may be missing. -/
def Persons.officeUnlessHome : Expr :=
  .call ⟨"NULLIF", [
    ⟨.call ⟨"ANY_VALUE", [⟨.cast (.column none "office") (.nullable address), .onLine 1 18 49⟩],
      none, .onLine 1 8 50⟩, .onLine 1 8 50⟩,
    ⟨.column none "home", .onLine 1 53 56⟩], none, .onLine 1 1 57⟩

namespace Validator

/-- The flag of a column, a cast to a nullable type and two functions that make their result nullable
add one layer in all. -/
theorem officeUnlessHome_nullable_once :
    let v : Validator := ⟨.builtin, .standard⟩
    let address : SqlType := .nullable Persons.address
    v.derive Persons.scope.toScope Persons.officeUnlessHome = .ok address ∧
      v.validate Persons.scope.toScope Persons.officeUnlessHome = .ok address ∧
      address.normal = true ∧ address.OneLayer := by
  intro v address
  have hderived : v.derive Persons.scope.toScope Persons.officeUnlessHome = .ok address := rfl
  have hvalid : v.validate Persons.scope.toScope Persons.officeUnlessHome = .ok address := rfl
  have htargets : ∀ inner target, .cast inner target ∈ Persons.officeUnlessHome.nodes →
      target.normal = true := by
    intro inner target h
    have hcast : inner = .column none "office" ∧ target = .nullable Persons.address := by
      simpa [Persons.officeUnlessHome, Expr.nodes, Expr.nodesOfOperands] using h
    rw [hcast.2]; rfl
  obtain ⟨hnormal, hlayers⟩ := derived_types_are_normal v Persons.scope Persons.officeUnlessHome
    (by decide) (by decide) htargets address (.inr hvalid)
  exact ⟨hderived, hvalid, hnormal, hlayers address (.self address)⟩

end Validator

end SqlTyping
