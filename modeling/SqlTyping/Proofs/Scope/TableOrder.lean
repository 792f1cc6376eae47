/-
Fields and the order of tables. Where no table answers to the qualifier, a reference is decided by
the first table that has a struct column of that name with such a field; the tables after it are not
looked at. So the types that the reference gets in the orders in which the tables can be added are
those that the field has in any of them, and the order matters exactly if two tables have the field
with different types. A reference without a qualifier would be refused as ambiguous there.
-/
import Mathlib.Data.List.Induction
import Mathlib.Data.List.Perm.Basic
import SqlTyping.Proofs.Scope.Nullability

namespace SqlTyping

namespace TableScope

variable {s : TableScope} {q name : String} {span : Span}

/-! ## Orders of tables -/

/-- Tables with pairwise distinct visible names can be added in their order, whatever it is. -/
theorem built_of_nodup {tables : List TableRef} (h : (tables.map (·.visible)).Nodup)
    (clause : Clause) : Built ⟨tables, clause⟩ := by
  suffices hselect : Built ⟨tables, .select⟩ from hselect.inClause clause
  -- from the last table on, since a table is added at the end
  induction tables using List.reverseRecOn with
  | nil => exact .empty
  | append_singleton tables t ih =>
    rw [List.map_append, List.map_singleton, List.nodup_append] at h
    obtain ⟨htables, _, hnew⟩ := h
    have hadd : addTable ⟨tables, .select⟩ t.table t.aliasName = .ok ⟨tables ++ [t], .select⟩ :=
      addTable_eq_ok.2 ⟨fun u hu => hnew _ (List.mem_map_of_mem hu) _ (by simp), rfl⟩
    exact (ih htables).addTable hadd

/-- The tables of a scope can be added in any other order. -/
theorem Built.of_perm (hs : s.Built) {tables : List TableRef} (h : tables.Perm s.tables)
    (clause : Clause) : Built ⟨tables, clause⟩ :=
  built_of_nodup ((h.map _).nodup_iff.2 hs.nodup_visible) clause

/-! ## Fields -/

theorem find?_answersTo_eq_none (hq : ∀ t ∈ s.tables, t.answersTo q = false) :
    s.tables.find? (·.answersTo q) = none :=
  List.find?_eq_none.2 fun t ht => by simp [hq t ht]

/-- A reference that gets a type gets that of the field in some table. -/
theorem exists_fieldType?_of_resolve (hq : ∀ t ∈ s.tables, t.answersTo q = false) {type : SqlType}
    (h : s.resolve (some q) name span = .ok type) :
    ∃ t ∈ s.tables, t.fieldType? q name = some type :=
  List.exists_of_findSome?_eq_some
    ((resolve_eq_ok_of_no_table (find?_answersTo_eq_none hq)).1 h)

/-- A reference is refused exactly if no table has the field. -/
theorem resolve_field_eq_error_iff (hq : ∀ t ∈ s.tables, t.answersTo q = false) {d : Diagnostic} :
    s.resolve (some q) name span = .error d ↔
      (∀ t ∈ s.tables, t.fieldType? q name = none) ∧
        d = .columnNotFound (q ++ "." ++ name) span := by
  simp only [resolve, resolveQualified, find?_answersTo_eq_none hq]
  cases hfield : s.tables.findSome? (·.fieldType? q name) with
  | none =>
    have hnone := List.findSome?_eq_none_iff.1 hfield
    simp only [Except.error.injEq, eq_comm, iff_and_self]
    exact fun _ t ht => (hnone t ht).symm
  | some type =>
    obtain ⟨t, ht, htype⟩ := List.exists_of_findSome?_eq_some hfield
    simp only [reduceCtorEq, false_iff, not_and]
    intro hnone
    rw [hnone t ht] at htype
    cases htype

/-- Where the table that has the field is added first, the reference gets its type. -/
theorem exists_order_of_fieldType? (hs : s.Built) (hq : ∀ t ∈ s.tables, t.answersTo q = false)
    {t : TableRef} (ht : t ∈ s.tables) {type : SqlType} (htype : t.fieldType? q name = some type)
    (span : Span) :
    ∃ s' : TableScope, s'.Built ∧ s'.tables.Perm s.tables ∧
      s'.resolve (some q) name span = .ok type := by
  have hperm : (t :: s.tables.erase t).Perm s.tables := (List.perm_cons_erase ht).symm
  have hq' : ∀ u ∈ t :: s.tables.erase t, u.answersTo q = false := fun u hu =>
    hq u (hperm.mem_iff.1 hu)
  refine ⟨⟨t :: s.tables.erase t, s.clause⟩, hs.of_perm hperm _, hperm, ?_⟩
  rw [resolve_eq_ok_of_no_table (find?_answersTo_eq_none hq'), List.findSome?_cons, htype]

/-- The tables that have the field have it with one type. -/
def FieldAgrees (s : TableScope) (q name : String) : Prop :=
  ∀ t ∈ s.tables, ∀ u ∈ s.tables, ∀ a b,
    t.fieldType? q name = some a → u.fieldType? q name = some b → a = b

/-- Take a reference under a qualifier to which no table of the scope answers. Over all orders in
which the tables can be added it gets exactly the types that the field has in any table, and where
it is refused in one order, it is refused in all of them for the same cause. So the order of the
tables does not matter exactly if all tables that have the field have it with one type. -/
theorem field_types_over_table_orders (s : TableScope) (hs : s.Built) (q name : String)
    (hq : ∀ t ∈ s.tables, t.answersTo q = false) (span : Span) :
    (∀ type, (∃ s' : TableScope, s'.Built ∧ s'.tables.Perm s.tables ∧
        s'.resolve (some q) name span = .ok type) ↔
      ∃ t ∈ s.tables, t.fieldType? q name = some type) ∧
    (∀ s' : TableScope, s'.Built → s'.tables.Perm s.tables → ∀ d,
      s'.resolve (some q) name span = .error d ↔ s.resolve (some q) name span = .error d) ∧
    ((∀ s' : TableScope, s'.Built → s'.tables.Perm s.tables →
        s'.resolve (some q) name span = s.resolve (some q) name span) ↔
      s.FieldAgrees q name) := by
  have hq' : ∀ {s' : TableScope}, s'.tables.Perm s.tables →
      ∀ t ∈ s'.tables, t.answersTo q = false := fun hperm t ht => hq t (hperm.mem_iff.1 ht)
  have hrefused : ∀ s' : TableScope, s'.tables.Perm s.tables → ∀ d,
      s'.resolve (some q) name span = .error d ↔ s.resolve (some q) name span = .error d := by
    intro s' hperm d
    rw [resolve_field_eq_error_iff (hq' hperm), resolve_field_eq_error_iff hq]
    simp only [hperm.mem_iff]
  refine ⟨fun type => ⟨?_, ?_⟩, fun s' _ => hrefused s', ?_, ?_⟩
  · rintro ⟨s', _, hperm, hok⟩
    obtain ⟨t, ht, htype⟩ := exists_fieldType?_of_resolve (hq' hperm) hok
    exact ⟨t, hperm.mem_iff.1 ht, htype⟩
  · rintro ⟨t, ht, htype⟩
    exact exists_order_of_fieldType? hs hq ht htype span
  · -- each of two types is the one that some order gives
    intro hsame t ht u hu a b ha hb
    obtain ⟨s₁, hs₁, hperm₁, hok₁⟩ := exists_order_of_fieldType? hs hq ht ha span
    obtain ⟨s₂, hs₂, hperm₂, hok₂⟩ := exists_order_of_fieldType? hs hq hu hb span
    rw [hsame s₁ hs₁ hperm₁] at hok₁
    rw [hsame s₂ hs₂ hperm₂, hok₁] at hok₂
    exact Except.ok.inj hok₂
  · intro hagrees s' _ hperm
    cases hresolved : s.resolve (some q) name span with
    | error d => exact (hrefused s' hperm d).2 hresolved
    | ok a =>
      cases hresolved' : s'.resolve (some q) name span with
      | error d =>
        rw [(hrefused s' hperm d).1 hresolved'] at hresolved
        cases hresolved
      | ok b =>
        obtain ⟨t, ht, ha⟩ := exists_fieldType?_of_resolve hq hresolved
        obtain ⟨u, hu, hb⟩ := exists_fieldType?_of_resolve (hq' hperm) hresolved'
        rw [hagrees u (hperm.mem_iff.1 hu) t ht b a hb ha]

end TableScope

/-! ## Two tables with an address -/

namespace Addresses

/-- Customers with an address in which the city has a name. -/
def customers : TableRef :=
  ⟨⟨"customers", [⟨"address", .struct [("city", .text), ("zip", .text)], false⟩]⟩, none⟩

/-- Shops with an address in which the city has a number. -/
def shops : TableRef :=
  ⟨⟨"shops", [⟨"address", .struct [("city", .bigint), ("zip", .text)], false⟩]⟩, some "s"⟩

/-- The customers, and then the shops. -/
def customersFirst : TableScope :=
  ⟨[customers, shops], .select⟩

/-- The shops, and then the customers. -/
def shopsFirst : TableScope :=
  ⟨[shops, customers], .select⟩

theorem built_customersFirst : customersFirst.Built :=
  TableScope.built_of_nodup (by decide) _

theorem built_shopsFirst : shopsFirst.Built :=
  TableScope.built_of_nodup (by decide) _

theorem perm_shopsFirst : shopsFirst.tables.Perm customersFirst.tables :=
  .swap _ _ _

theorem not_answersTo_address : ∀ t ∈ customersFirst.tables, t.answersTo "address" = false := by
  decide

end Addresses

namespace TableScope

open Addresses

/-- The zip of an address has one type whichever table is added first, and it is the one that the
zip has in both; the city has one type in some order and another type in another. -/
theorem cities_and_zips_of_addresses :
    shopsFirst.resolve (some "address") "zip" (.onLine 1 8 18) =
        customersFirst.resolve (some "address") "zip" (.onLine 1 8 18) ∧
      (∃ s' : TableScope, s'.Built ∧ s'.tables.Perm customersFirst.tables ∧
        s'.resolve (some "address") "city" (.onLine 1 8 19) = .ok .text) ∧
      (∃ s' : TableScope, s'.Built ∧ s'.tables.Perm customersFirst.tables ∧
        s'.resolve (some "address") "city" (.onLine 1 8 19) = .ok .bigint) := by
  have hzip := field_types_over_table_orders customersFirst built_customersFirst "address" "zip"
    not_answersTo_address (.onLine 1 8 18)
  have hcity := field_types_over_table_orders customersFirst built_customersFirst "address" "city"
    not_answersTo_address (.onLine 1 8 19)
  have hagrees : customersFirst.FieldAgrees "address" "zip" := by
    intro t ht u hu a b ha hb
    have htext : ∀ t ∈ customersFirst.tables, t.fieldType? "address" "zip" = some .text := by decide
    rw [htext t ht] at ha
    rw [htext u hu] at hb
    exact (Option.some.inj ha).symm.trans (Option.some.inj hb)
  refine ⟨hzip.2.2.2 hagrees shopsFirst built_shopsFirst perm_shopsFirst, ?_, ?_⟩
  · exact (hcity.1 .text).2 ⟨customers, by decide, rfl⟩
  · exact (hcity.1 .bigint).2 ⟨shops, by decide, rfl⟩

/-- References to fields do depend on the order of the tables, even if each table is well made. -/
theorem field_type_depends_on_table_order :
    ¬ ∀ s s' : TableScope, s.Built → s'.Built → s'.tables.Perm s.tables →
      (∀ t ∈ s.tables, ∃ tableName columns, Table.make tableName columns = .ok t.table) →
      ∀ q, (∀ t ∈ s.tables, t.answersTo q = false) → ∀ name span,
        s'.resolve (some q) name span = s.resolve (some q) name span := by
  intro h
  have hmade : ∀ t ∈ customersFirst.tables,
      ∃ tableName columns, Table.make tableName columns = .ok t.table := by
    intro t ht
    refine ⟨t.table.name, t.table.columns, ?_⟩
    revert t
    decide
  have hsame := h customersFirst shopsFirst built_customersFirst built_shopsFirst perm_shopsFirst
    hmade "address" not_answersTo_address "city" .unplaced
  have hnumber : shopsFirst.resolve (some "address") "city" .unplaced = .ok .bigint := rfl
  have hname : customersFirst.resolve (some "address") "city" .unplaced = .ok .text := rfl
  rw [hnumber, hname] at hsame
  exact absurd hsame (by decide)

end TableScope

end SqlTyping
