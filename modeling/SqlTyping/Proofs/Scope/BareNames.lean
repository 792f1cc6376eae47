/-
Unqualified names. A name without a qualifier is looked up in every table of the scope, and what
counts is how many tables have a column of that name, not how many columns there are: with one such
table the name denotes the first of its columns that has it, with none the name is not found, and
with more it is ambiguous. So the order of the tables does not matter.
-/
import Mathlib.Data.List.Perm.Basic
import SqlTyping.Proofs.Scope

namespace SqlTyping

/-! ## Columns of a name -/

/-- The column of a name is the first one that has it. -/
theorem Table.column?_eq_some_iff {t : Table} {name : String} {c : Column} :
    t.column? name = some c ↔
      c.name = name ∧ ∃ earlier later, t.columns = earlier ++ c :: later ∧
        ∀ d ∈ earlier, d.name ≠ name := by
  unfold column?
  rw [List.find?_eq_some_iff_append]
  simp only [beq_iff_eq, Bool.not_eq_true', beq_eq_false_iff_ne]

/-- The table has no column of a name exactly if none is found. -/
theorem Table.column?_eq_none_iff {t : Table} {name : String} :
    t.column? name = none ↔ ∀ c ∈ t.columns, c.name ≠ name := by
  unfold column?
  rw [List.find?_eq_none]
  simp only [beq_iff_eq, ne_eq]

/-- The table has a column of that name. -/
def TableRef.hasColumn (t : TableRef) (name : String) : Bool :=
  t.table.columns.any (·.name == name)

theorem TableRef.isSome_column? (t : TableRef) (name : String) :
    (t.table.column? name).isSome = t.hasColumn name := by
  unfold Table.column? hasColumn
  rw [Bool.eq_iff_iff, List.find?_isSome, List.any_eq_true]

namespace TableScope

variable {s : TableScope} {name : String} {span : Span}

/-! ## The columns that a name may denote -/

/-- The columns that an unqualified name may denote, one of each table that has such a column. -/
def candidates (s : TableScope) (name : String) : List Column :=
  s.tables.filterMap (·.table.column? name)

theorem length_candidates (s : TableScope) (name : String) :
    (s.candidates name).length = s.tables.countP (·.hasColumn name) := by
  unfold candidates
  simp only [List.length_filterMap_eq_countP, TableRef.isSome_column?]

/-- There is one candidate exactly if one table has a column of the name and no other table has. -/
theorem candidates_eq_singleton_iff {c : Column} :
    s.candidates name = [c] ↔
      ∃ before u after, s.tables = before ++ u :: after ∧ u.table.column? name = some c ∧
        ∀ w ∈ before ++ after, w.table.column? name = none := by
  unfold candidates
  simp only [List.filterMap_eq_cons_iff, List.filterMap_eq_nil_iff, List.forall_mem_append]
  constructor
  · rintro ⟨before, u, after, htables, hbefore, hu, hafter⟩
    exact ⟨before, u, after, htables, hu, hbefore, hafter⟩
  · rintro ⟨before, u, after, htables, hu, hbefore, hafter⟩
    exact ⟨before, u, after, htables, hbefore, hu, hafter⟩

/-! ## Outcomes -/

/-- The candidates decide: none, one, or more than one. -/
theorem resolveBare_cases (s : TableScope) (name : String) (span : Span) :
    (s.candidates name = [] ∧ s.resolve none name span = .error (.columnNotFound name span)) ∨
    (∃ c, s.candidates name = [c] ∧ s.resolve none name span = .ok c.resolvedType) ∨
    (2 ≤ (s.candidates name).length ∧
      s.resolve none name span = .error (.ambiguousColumn name span)) := by
  have hcandidates : (s.tables.filterMap fun t => (t.table.column? name).map (·.resolvedType)) =
      (s.candidates name).map (·.resolvedType) := by
    rw [candidates, List.map_filterMap]
  simp only [resolve, resolveBare, resolveBareFrom_eq, Option.toList_none, List.nil_append,
    hcandidates]
  rcases s.candidates name with _ | ⟨c, _ | ⟨d, rest⟩⟩
  · exact .inl ⟨rfl, rfl⟩
  · exact .inr (.inl ⟨c, rfl, rfl⟩)
  · exact .inr (.inr ⟨by simp, rfl⟩)

theorem resolve_none_eq_ok {t : SqlType} :
    s.resolve none name span = .ok t ↔ ∃ c, s.candidates name = [c] ∧ c.resolvedType = t := by
  rcases resolveBare_cases s name span with ⟨hc, h⟩ | ⟨c, hc, h⟩ | ⟨hc, h⟩
  · simp [h, hc]
  · simp [h, hc]
  · rw [h]
    simp only [reduceCtorEq, false_iff, not_exists, not_and]
    intro c hone
    simp [hone] at hc

/-- The number of tables that have a column of the name decides the kind of the outcome. -/
theorem resolve_none_of_count (s : TableScope) (name : String) (span : Span) :
    ((∃ t, s.resolve none name span = .ok t) ↔ s.tables.countP (·.hasColumn name) = 1) ∧
    (s.resolve none name span = .error (.ambiguousColumn name span) ↔
      2 ≤ s.tables.countP (·.hasColumn name)) ∧
    (s.resolve none name span = .error (.columnNotFound name span) ↔
      s.tables.countP (·.hasColumn name) = 0) := by
  rw [← length_candidates]
  rcases resolveBare_cases s name span with ⟨hc, h⟩ | ⟨c, hc, h⟩ | ⟨hc, h⟩
  · simp [h, hc]
  · simp [h, hc]
  · rw [h]
    simp only [reduceCtorEq, exists_false, false_iff, true_iff, Except.error.injEq]
    omega

/-- Scopes of the same tables in different orders have the same candidates up to their order, which
is no difference where there is at most one. -/
theorem resolve_none_perm {s' : TableScope} (h : s.tables.Perm s'.tables) :
    s'.resolve none name span = s.resolve none name span := by
  have hperm : (s.candidates name).Perm (s'.candidates name) := h.filterMap _
  have hlength := hperm.length_eq
  rcases resolveBare_cases s name span with ⟨hc, hs⟩ | ⟨c, hc, hs⟩ | ⟨hc, hs⟩
  · rw [hs, ((resolve_none_of_count s' name span).2.2)]
    rw [← length_candidates, ← hlength, hc]
    rfl
  · rw [hc, List.singleton_perm] at hperm
    rw [hs, resolve_none_eq_ok]
    exact ⟨c, hperm.symm, rfl⟩
  · rw [hs, ((resolve_none_of_count s' name span).2.1)]
    rw [← length_candidates, ← hlength]
    exact hc

/-- An unqualified name gets a type exactly if one table of the scope has a column of that name and
no other table has; the type is that of the first such column of the table, also where the table
has several. It is ambiguous exactly if two tables or more have such a column, and not found exactly
if none has. So every order of the tables gives the same result. -/
theorem bare_name_denotes_in_exactly_one_table (s : TableScope) (name : String) (span : Span) :
    (∀ t, s.resolve none name span = .ok t ↔
      ∃ before u after, s.tables = before ++ u :: after ∧
        (∀ w ∈ before ++ after, ∀ c ∈ w.table.columns, c.name ≠ name) ∧
        ∃ earlier c later, u.table.columns = earlier ++ c :: later ∧
          (∀ d ∈ earlier, d.name ≠ name) ∧ c.name = name ∧ c.resolvedType = t) ∧
    ((∃ t, s.resolve none name span = .ok t) ↔ s.tables.countP (·.hasColumn name) = 1) ∧
    (s.resolve none name span = .error (.ambiguousColumn name span) ↔
      2 ≤ s.tables.countP (·.hasColumn name)) ∧
    (s.resolve none name span = .error (.columnNotFound name span) ↔
      s.tables.countP (·.hasColumn name) = 0) ∧
    ∀ s' : TableScope, s.tables.Perm s'.tables →
      s'.resolve none name span = s.resolve none name span := by
  obtain ⟨hone, hmany, hnone⟩ := resolve_none_of_count s name span
  refine ⟨fun t => ?_, hone, hmany, hnone, fun s' h => resolve_none_perm h⟩
  simp only [resolve_none_eq_ok, candidates_eq_singleton_iff, Table.column?_eq_some_iff,
    Table.column?_eq_none_iff]
  constructor
  · rintro ⟨c, ⟨before, u, after, htables, ⟨hname, earlier, later, hcolumns, hfirst⟩, hothers⟩, rfl⟩
    exact ⟨before, u, after, htables, hothers, earlier, c, later, hcolumns, hfirst, hname, rfl⟩
  · rintro ⟨before, u, after, htables, hothers, earlier, c, later, hcolumns, hfirst, hname, rfl⟩
    exact ⟨c, ⟨before, u, after, htables, ⟨hname, earlier, later, hcolumns, hfirst⟩, hothers⟩, rfl⟩

/-- A table with two columns `id` beside one with none: `id` is the first of the two, in either order
of the tables. With a third table that has an `id` it is ambiguous. -/
theorem id_among_tables :
    let items : TableRef := ⟨⟨"items", [⟨"id", .bigint, true⟩, ⟨"id", .text, false⟩]⟩, none⟩
    let shops : TableRef := ⟨⟨"shops", [⟨"city", .text, false⟩]⟩, some "s"⟩
    let staff : TableRef := ⟨⟨"staff", [⟨"id", .text, false⟩]⟩, none⟩
    let span : Span := .onLine 1 8 9
    (⟨[items, shops], .select⟩ : TableScope).tables.Perm [shops, items] ∧
      TableScope.resolve ⟨[items, shops], .select⟩ none "id" span = .ok (.nullable .bigint) ∧
      TableScope.resolve ⟨[shops, items], .select⟩ none "id" span = .ok (.nullable .bigint) ∧
      TableScope.resolve ⟨[shops, items, staff], .select⟩ none "id" span =
        .error (.ambiguousColumn "id" span) := by
  intro items shops staff span
  have hperm : (⟨[items, shops], .select⟩ : TableScope).tables.Perm [shops, items] := .swap _ _ _
  obtain ⟨htype, _, _, _, horder⟩ :=
    bare_name_denotes_in_exactly_one_table ⟨[items, shops], .select⟩ "id" span
  have hitems : TableScope.resolve ⟨[items, shops], .select⟩ none "id" span =
      .ok (.nullable .bigint) := by
    refine (htype _).2 ⟨[], items, [shops], rfl, ?_, [], ⟨"id", .bigint, true⟩, _, rfl, ?_, rfl, rfl⟩
    · decide
    · decide
  refine ⟨hperm, hitems, ?_, ?_⟩
  · rw [horder ⟨[shops, items], .select⟩ hperm, hitems]
  · exact (bare_name_denotes_in_exactly_one_table _ "id" span).2.2.1.2 (by decide)

end TableScope

end SqlTyping
