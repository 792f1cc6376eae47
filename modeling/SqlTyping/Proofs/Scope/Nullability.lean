/-
Nullability of references. A reference that gets a type reads one column of one table of the scope,
or one field of a struct column (`Reads`). That the column may be NULL is said in two ways: by its
own flag, and by its type. A reference to the column heeds both. A reference to a field heeds the
flag only, so that a field whose own type is not nullable is taken as never missing where it is the
type of the struct column that admits NULL. This is the only way in which nullability is lost.
-/
import Mathlib.Data.List.Find
import SqlTyping.Proofs.Scope.BareNames
import SqlTyping.Proofs.Scope.VisibleNames

namespace SqlTyping

/-! ## What a reference reads -/

/-- What a reference reads: a column, or a field of that type in a struct column. -/
inductive Reading where
  | column (c : Column)
  | field (c : Column) (type : SqlType)

namespace Reading

/-- The column that is read, or of which a field is read. -/
def through : Reading → Column
  | .column c => c
  | .field c _ => c

/-- The type of what is read; that of a field is made nullable by the flag of the column. -/
def type : Reading → SqlType
  | .column c => c.resolvedType
  | .field c type => if c.nullable then type.orNull else type

/-- A field is read that is not nullable, of a column that is so by its type and not by its flag. -/
def HidesNull : Reading → Prop
  | .column _ => False
  | .field c type => c.nullable = false ∧ c.type.isNullable = true ∧ type.isNullable = false

/-- The type keeps the nullability of the column exactly if the reading does not hide it. -/
theorem keeps_nullability_iff (r : Reading) :
    (r.through.resolvedType.isNullable = true → r.type.isNullable = true) ↔ ¬ r.HidesNull := by
  cases r with
  | column c => simp [through, type, HidesNull]
  | field c type =>
    cases hflag : c.nullable with
    | true => simp [through, Reading.type, HidesNull, hflag]
    | false => simp [through, Reading.type, HidesNull, Column.resolvedType, hflag]

end Reading

/-- The type of a field of a struct column that the table has. -/
theorem TableRef.fieldType?_eq_some_iff {t : TableRef} {struct name : String} {type : SqlType} :
    t.fieldType? struct name = some type ↔
      ∃ c fields f, t.table.column? struct = some c ∧ c.type.base = .struct fields ∧
        fields.find? (·.1 == name) = some f ∧ (Reading.field c f.2).type = type := by
  unfold fieldType?
  cases t.table.column? struct with
  | none => simp
  | some c =>
    simp only [Option.some.injEq, exists_and_left, exists_eq_left']
    split
    · rename_i fields hbase
      simp [hbase, Reading.type]
    · rename_i hbase
      simp only [reduceCtorEq, false_iff, not_exists, not_and]
      intro fields h
      exact absurd h (hbase fields)

/-- The table has a struct column of that name with a field of that name. -/
def TableRef.hasField (t : TableRef) (struct name : String) : Bool :=
  (t.fieldType? struct name).isSome

namespace TableScope

/-- What a reference reads in a scope. An unqualified name reads the column of the only table that
has one; a qualified name a column of the first table that answers to the qualifier, or, if there is
none, a field in the first table that has a struct column under the qualifier with such a field. -/
inductive Reads (s : TableScope) : Option String → String → Reading → Prop
  | bare {name : String} {c : Column} (hc : s.candidates name = [c]) : Reads s none name (.column c)
  | qualified {q name : String} {t : TableRef} {c : Column}
      (ht : s.tables.find? (·.answersTo q) = some t) (hc : t.table.column? name = some c) :
      Reads s (some q) name (.column c)
  | field {q name label : String} {t : TableRef} {c : Column} {fields : List (String × SqlType)}
      {type : SqlType} (hnone : s.tables.find? (·.answersTo q) = none)
      (ht : s.tables.find? (·.hasField q name) = some t) (hc : t.table.column? q = some c)
      (hbase : c.type.base = .struct fields)
      (hf : fields.find? (·.1 == name) = some (label, type)) :
      Reads s (some q) name (.field c type)

variable {s : TableScope} {q : Option String} {name : String} {span : Span}

/-- A reference reads one thing at most. -/
theorem Reads.unique {r r' : Reading} (h : s.Reads q name r) (h' : s.Reads q name r') : r' = r := by
  cases h with
  | bare hc =>
    cases h' with
    | bare hc' => cases hc.symm.trans hc'; rfl
  | qualified ht hc =>
    cases h' with
    | qualified ht' hc' =>
      cases ht.symm.trans ht'
      cases hc.symm.trans hc'
      rfl
    | field hnone' => cases ht.symm.trans hnone'
  | field hnone ht hc hbase hf =>
    cases h' with
    | qualified ht' => cases hnone.symm.trans ht'
    | field _ ht' hc' hbase' hf' =>
      cases ht.symm.trans ht'
      cases hc.symm.trans hc'
      cases hbase.symm.trans hbase'
      cases hf.symm.trans hf'
      rfl

/-- What is read stands in a table of the scope. -/
theorem Reads.through_mem {r : Reading} (h : s.Reads q name r) :
    ∃ t ∈ s.tables, r.through ∈ t.table.columns := by
  cases h with
  | bare hc =>
    obtain ⟨before, t, after, htables, hcolumn, _⟩ := candidates_eq_singleton_iff.1 hc
    exact ⟨t, by simp [htables], List.mem_of_find?_eq_some hcolumn⟩
  | qualified ht hc => exact ⟨_, List.mem_of_find?_eq_some ht, List.mem_of_find?_eq_some hc⟩
  | field _ ht hc => exact ⟨_, List.mem_of_find?_eq_some ht, List.mem_of_find?_eq_some hc⟩

/-! ## Readings and types -/

theorem findSome?_fieldType?_eq_some {struct : String} {type : SqlType} :
    s.tables.findSome? (·.fieldType? struct name) = some type ↔
      ∃ t, s.tables.find? (·.hasField struct name) = some t ∧
        t.fieldType? struct name = some type := by
  simp only [List.findSome?_eq_some_iff, List.find?_eq_some_iff_append, TableRef.hasField,
    Bool.not_eq_true', Option.isSome_eq_false_iff, Option.isNone_iff_eq_none]
  constructor
  · rintro ⟨before, t, after, htables, htype, hbefore⟩
    exact ⟨t, ⟨by rw [htype]; rfl, before, after, htables, hbefore⟩, htype⟩
  · rintro ⟨t, ⟨_, before, after, htables, hbefore⟩, htype⟩
    exact ⟨before, t, after, htables, htype, hbefore⟩

theorem resolve_eq_ok_of_table {qualifier : String} {u : TableRef} {t : SqlType}
    (h : s.tables.find? (·.answersTo qualifier) = some u) :
    s.resolve (some qualifier) name span = .ok t ↔
      ∃ c, u.table.column? name = some c ∧ c.resolvedType = t := by
  rw [resolve_of_find? h]
  unfold TableRef.columnType
  cases u.table.column? name <;> simp

theorem resolve_eq_ok_of_no_table {qualifier : String} {t : SqlType}
    (h : s.tables.find? (·.answersTo qualifier) = none) :
    s.resolve (some qualifier) name span = .ok t ↔
      s.tables.findSome? (·.fieldType? qualifier name) = some t := by
  simp only [resolve, resolveQualified, h]
  cases s.tables.findSome? (·.fieldType? qualifier name) <;> simp

/-- A reference gets a type exactly if it reads something of that type. -/
theorem resolve_eq_ok_iff {t : SqlType} :
    s.resolve q name span = .ok t ↔ ∃ r, s.Reads q name r ∧ r.type = t := by
  constructor
  · intro h
    cases q with
    | none =>
      obtain ⟨c, hc, rfl⟩ := resolve_none_eq_ok.1 h
      exact ⟨.column c, .bare hc, rfl⟩
    | some q =>
      cases hfind : s.tables.find? (·.answersTo q) with
      | some u =>
        obtain ⟨c, hc, rfl⟩ := (resolve_eq_ok_of_table hfind).1 h
        exact ⟨.column c, .qualified hfind hc, rfl⟩
      | none =>
        have hfield := (resolve_eq_ok_of_no_table hfind).1 h
        obtain ⟨u, hu, htype⟩ := findSome?_fieldType?_eq_some.1 hfield
        obtain ⟨c, fields, f, hc, hbase, hf, rfl⟩ := TableRef.fieldType?_eq_some_iff.1 htype
        exact ⟨.field c f.2, .field hfind hu hc hbase hf, rfl⟩
  · rintro ⟨r, hr, rfl⟩
    cases hr with
    | bare hc => exact resolve_none_eq_ok.2 ⟨_, hc, rfl⟩
    | qualified ht hc => exact (resolve_eq_ok_of_table ht).2 ⟨_, hc, rfl⟩
    | field hnone ht hc hbase hf =>
      have htype := TableRef.fieldType?_eq_some_iff.2 ⟨_, _, _, hc, hbase, hf, rfl⟩
      exact (resolve_eq_ok_of_no_table hnone).2 (findSome?_fieldType?_eq_some.2 ⟨_, ht, htype⟩)

/-- A reference that gets a type reads one thing, a column of a table of the scope or a field of one,
and its type is nullable if that column is, exactly unless a field is read that is not nullable
itself, of a column that is nullable by its type and not by its flag. -/
theorem nullability_kept_unless_hidden_in_struct (s : TableScope) (q : Option String)
    (name : String) (span : Span) (t : SqlType) (h : s.resolve q name span = .ok t) :
    ∃ r, s.Reads q name r ∧ (∀ r', s.Reads q name r' → r' = r) ∧
      (∃ u ∈ s.tables, r.through ∈ u.table.columns) ∧ r.type = t ∧
      ((r.through.resolvedType.isNullable = true → t.isNullable = true) ↔ ¬ r.HidesNull) := by
  obtain ⟨r, hr, rfl⟩ := resolve_eq_ok_iff.1 h
  exact ⟨r, hr, fun _ hr' => hr.unique hr', hr.through_mem, rfl, r.keeps_nullability_iff⟩

end TableScope

/-! ## A struct that may be missing -/

namespace Persons

/-- An address, of which the city is always known. -/
def address : SqlType :=
  .struct [("city", .text)]

/-- Persons with two addresses that may be missing: the one of their office by the flag of the
column, the one of their home by its type. -/
def scope : TableScope :=
  ⟨[⟨⟨"persons", [⟨"office", address, true⟩, ⟨"home", .nullable address, false⟩]⟩, none⟩], .select⟩

theorem built_scope : scope.Built :=
  .addTable .empty rfl

theorem reads_office_city : scope.Reads (some "office") "city"
    (.field ⟨"office", address, true⟩ .text) :=
  .field rfl rfl rfl rfl rfl

theorem reads_home_city : scope.Reads (some "home") "city"
    (.field ⟨"home", .nullable address, false⟩ .text) :=
  .field rfl rfl rfl rfl rfl

end Persons

namespace TableScope

/-- The city of an office may be missing with the office; that of a home may not, though the home
may. -/
theorem cities_of_persons :
    let office : Reading := .field ⟨"office", Persons.address, true⟩ .text
    let home : Reading := .field ⟨"home", .nullable Persons.address, false⟩ .text
    Persons.scope.resolve (some "office") "city" (.onLine 1 8 18) = .ok (.nullable .text) ∧
      Persons.scope.resolve (some "home") "city" (.onLine 1 8 16) = .ok .text ∧
      ¬ office.HidesNull ∧ home.HidesNull := by
  intro office home
  have hoffice : Persons.scope.resolve (some "office") "city" (.onLine 1 8 18) =
      .ok (.nullable .text) := rfl
  have hhome : Persons.scope.resolve (some "home") "city" (.onLine 1 8 16) = .ok .text := rfl
  refine ⟨hoffice, hhome, ?_, ?_⟩
  · obtain ⟨r, _, hunique, _, _, hkept⟩ :=
      nullability_kept_unless_hidden_in_struct _ _ _ _ _ hoffice
    rw [hunique office Persons.reads_office_city]
    exact hkept.1 fun _ => rfl
  · obtain ⟨r, _, hunique, _, _, hkept⟩ :=
      nullability_kept_unless_hidden_in_struct _ _ _ _ _ hhome
    rw [← hunique home Persons.reads_home_city] at hkept
    by_contra hhidden
    cases hkept.2 hhidden rfl

/-- Not every reference through a nullable column has a nullable type. -/
theorem field_of_nullable_struct_not_nullable :
    ¬ ∀ (s : TableScope) (q : Option String) (name : String) (span : Span) (t : SqlType)
      (r : Reading), s.Built → s.resolve q name span = .ok t → s.Reads q name r →
      r.through.resolvedType.isNullable = true → t.isNullable = true := by
  intro h
  have hhome : Persons.scope.resolve (some "home") "city" .unplaced = .ok .text := rfl
  have hnullable := h _ _ _ _ _ _ Persons.built_scope hhome Persons.reads_home_city rfl
  cases hnullable

end TableScope

end SqlTyping
