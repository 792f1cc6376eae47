/-
Unique names. A table that is made from columns has no two columns of one name, so each column is
found under its name; a table is refused for the first column that repeats an earlier one. A scope
has no two tables of one visible name, whatever tables one has tried to add to it: a table whose
visible name is taken is refused, and the scope stays as it was, so that it holds the tables that
could be added in the order in which they were.
-/
import Mathlib.Data.List.Nodup
import SqlTyping.Proofs.Scope.BareNames
import SqlTyping.Proofs.Scope.VisibleNames

namespace SqlTyping

/-! ## Columns of a table -/

namespace Table

variable {name : String} {columns : List Column} {t : Table} {c : Column}

/-- No column is repeated exactly if the names are pairwise distinct and none of them was seen. -/
theorem firstRepeated_eq_none_iff {seen : List String} :
    firstRepeated seen columns = none ↔
      (columns.map (·.name)).Nodup ∧ ∀ c ∈ columns, c.name ∉ seen := by
  -- every column adds its name to those seen, so the statement is about any names seen
  induction columns generalizing seen with
  | nil => simp [firstRepeated]
  | cons c columns ih =>
    unfold firstRepeated
    by_cases hseen : c.name ∈ seen
    · simp [hseen]
    · rw [if_neg hseen, ih, List.map_cons, List.nodup_cons, List.forall_mem_cons]
      constructor
      · rintro ⟨hnodup, hnew⟩
        refine ⟨⟨fun hmem => ?_, hnodup⟩, hseen, fun d hd => ?_⟩
        · obtain ⟨d, hd, hname⟩ := List.mem_map.1 hmem
          exact hnew d hd (by simp [hname])
        · exact fun hd' => hnew d hd (List.mem_cons_of_mem _ hd')
      · rintro ⟨⟨hrest, hnodup⟩, _, hnew⟩
        refine ⟨hnodup, fun d hd hmem => ?_⟩
        rcases List.mem_cons.1 hmem with hname | hmem
        · exact hrest (hname ▸ List.mem_map_of_mem hd)
        · exact hnew d hd hmem

/-- The repeated column that is found comes right after columns with new, pairwise distinct names,
and has a name that was seen or that one of them has. -/
theorem split_of_firstRepeated {seen : List String} (h : firstRepeated seen columns = some c) :
    ∃ before after, columns = before ++ c :: after ∧ firstRepeated seen before = none ∧
      (c.name ∈ seen ∨ c.name ∈ before.map (·.name)) := by
  induction columns generalizing seen with
  | nil => cases h
  | cons d columns ih =>
    unfold firstRepeated at h
    by_cases hseen : d.name ∈ seen
    · rw [if_pos hseen] at h
      cases h
      exact ⟨[], columns, rfl, rfl, .inl hseen⟩
    · rw [if_neg hseen] at h
      obtain ⟨before, after, rfl, hnone, hname⟩ := ih h
      refine ⟨d :: before, after, rfl, by rw [firstRepeated, if_neg hseen, hnone], ?_⟩
      rw [List.map_cons, List.mem_cons]
      rw [List.mem_cons] at hname
      tauto

/-- A table is made exactly if it has a name and its columns have pairwise distinct names. -/
theorem make_eq_ok_iff :
    make name columns = .ok t ↔
      name ≠ "" ∧ (columns.map (·.name)).Nodup ∧ t = ⟨name, columns⟩ := by
  have hnone : firstRepeated [] columns = none ↔ (columns.map (·.name)).Nodup := by
    rw [firstRepeated_eq_none_iff]
    simp
  unfold make
  by_cases hname : name = ""
  · simp [hname]
  · rw [if_neg hname, ← hnone]
    cases firstRepeated [] columns with
    | none => simp [hname, eq_comm]
    | some c => simp

/-- A table with a name is refused for the first column that has the name of an earlier one. -/
theorem split_of_make_eq_error {d : Diagnostic} (hname : name ≠ "")
    (h : make name columns = .error d) :
    ∃ before c after, columns = before ++ c :: after ∧ (before.map (·.name)).Nodup ∧
      c.name ∈ before.map (·.name) ∧ d = .invalidValue (.duplicateColumn c.name name) := by
  unfold make at h
  rw [if_neg hname] at h
  split at h
  · rename_i c hc
    cases h
    obtain ⟨before, after, rfl, hnone, hrepeats⟩ := split_of_firstRepeated hc
    exact ⟨before, c, after, rfl, (firstRepeated_eq_none_iff.1 hnone).1,
      hrepeats.resolve_left List.not_mem_nil, rfl⟩
  · cases h

theorem column?_of_nodup (hnodup : (t.columns.map (·.name)).Nodup) (hc : c ∈ t.columns) :
    t.column? c.name = some c := by
  obtain ⟨earlier, later, hcolumns⟩ := List.append_of_mem hc
  refine column?_eq_some_iff.2 ⟨rfl, earlier, later, hcolumns, fun d hd => ?_⟩
  rw [hcolumns, List.map_append, List.map_cons, List.nodup_append] at hnodup
  exact hnodup.2.2 _ (List.mem_map_of_mem hd) _ List.mem_cons_self

end Table

namespace TableScope

/-! ## One table -/

variable {s : TableScope} {t : TableRef}

theorem enter_eq_ok_iff : (s.enter t).1 = .ok () ↔ ∀ u ∈ s.tables, u.visible ≠ t.visible := by
  rcases s.enter_cases t with ⟨hnew, h⟩ | ⟨⟨u, hu, htaken⟩, h⟩
  · simp only [h, true_iff]
    exact hnew
  · simp only [h, reduceCtorEq, false_iff]
    exact fun hnew => hnew u hu htaken

/-- A table that is refused leaves the scope as it was. -/
theorem enter_of_error {d : Diagnostic} (h : (s.enter t).1 = .error d) :
    (s.enter t).2 = s ∧ d = .invalidValue (.duplicateTable t.visible) := by
  rcases s.enter_cases t with ⟨_, henter⟩ | ⟨_, henter⟩
  · rw [henter] at h
    cases h
  · rw [henter] at h
    cases h
    exact ⟨by rw [henter], rfl⟩

theorem Built.enter (hs : s.Built) (t : TableRef) : (s.enter t).2.Built := by
  have hadd : s.addTable t.table t.aliasName = (s.enter t).1.map fun _ => (s.enter t).2 := rfl
  cases h : (s.enter t).1 with
  | ok u => exact hs.addTable (by rw [hadd, h]; rfl)
  | error d => rw [(enter_of_error h).1]; exact hs

/-! ## One table after the other -/

/-- Tries to add tables one after the other, whatever becomes of each: the outcomes, and the scope
at the end. -/
def enterAll (s : TableScope) : List TableRef → List (Except Diagnostic Unit) × TableScope
  | [] => ([], s)
  | t :: later =>
    ((s.enter t).1 :: ((s.enter t).2.enterAll later).1, ((s.enter t).2.enterAll later).2)

/-- The tables among those tried that could be added, in their order. -/
def added (s : TableScope) (tried : List TableRef) : List TableRef :=
  ((tried.zip (s.enterAll tried).1).filter (·.2.isOk)).map (·.1)

theorem Built.enterAll (hs : s.Built) (tried : List TableRef) : (s.enterAll tried).2.Built := by
  induction tried generalizing s with
  | nil => exact hs
  | cons t later ih => exact ih (hs.enter t)

theorem tables_enterAll (s : TableScope) (tried : List TableRef) :
    (s.enterAll tried).2.tables = s.tables ++ s.added tried := by
  induction tried generalizing s with
  | nil => simp [enterAll, added]
  | cons t later ih =>
    rw [enterAll, ih]
    rcases s.enter_cases t with ⟨_, h⟩ | ⟨_, h⟩
    · simp [added, enterAll, h, Except.isOk, Except.toBool]
    · simp [added, enterAll, h, Except.isOk, Except.toBool]

/-- A table is made exactly if its name is not empty and its columns have pairwise distinct names. If
it has a name and is not made, it is refused for the first column that repeats the name of an earlier
one; if it is made, each of its columns is found under its name. After any tables that one has tried
to add to the empty scope, another one can be added exactly if its visible name is none of those in
the scope, and is refused for that name without a change to the scope otherwise; the visible names in
the scope are pairwise distinct, and its tables are those that could be added, in their order. -/
theorem names_unique_in_tables_and_scopes :
    (∀ (name : String) (columns : List Column),
      ((∃ t, Table.make name columns = .ok t) ↔
        name ≠ "" ∧ (columns.map (·.name)).Nodup) ∧
      (name ≠ "" → ∀ d, Table.make name columns = .error d →
        ∃ before c after, columns = before ++ c :: after ∧ (before.map (·.name)).Nodup ∧
          c.name ∈ before.map (·.name) ∧ d = .invalidValue (.duplicateColumn c.name name)) ∧
      ∀ t, Table.make name columns = .ok t →
        t = ⟨name, columns⟩ ∧ ∀ c ∈ columns, t.column? c.name = some c) ∧
    ∀ tried : List TableRef,
      let s := (empty.enterAll tried).2
      (∀ t, ((s.enter t).1 = .ok () ↔ ∀ u ∈ s.tables, u.visible ≠ t.visible) ∧
        ((s.enter t).1 = .ok () → (s.enter t).2 = { s with tables := s.tables ++ [t] }) ∧
        ∀ d, (s.enter t).1 = .error d →
          (s.enter t).2 = s ∧ d = .invalidValue (.duplicateTable t.visible)) ∧
      (s.tables.map (·.visible)).Nodup ∧ s.tables = empty.added tried := by
  constructor
  · intro name columns
    refine ⟨?_, fun hname d h => Table.split_of_make_eq_error hname h, fun t h => ?_⟩
    · simp only [Table.make_eq_ok_iff, exists_and_left, exists_eq, and_true]
    · obtain ⟨_, hnodup, rfl⟩ := Table.make_eq_ok_iff.1 h
      exact ⟨rfl, fun c hc => Table.column?_of_nodup hnodup hc⟩
  · intro tried s
    refine ⟨fun t => ⟨enter_eq_ok_iff, fun h => ?_, fun d h => enter_of_error h⟩,
      (Built.empty.enterAll tried).nodup_visible, tables_enterAll empty tried⟩
    rcases s.enter_cases t with ⟨_, henter⟩ | ⟨_, henter⟩
    · rw [henter]
    · rw [henter] at h
      cases h

/-- Teams have two columns, each found under its name; with a second size they are refused for it.
Of two tables that are to be seen as staff the first one is added, after the bosses, and the other one
is refused without a trace. -/
theorem teams_named_once :
    let resized : List Column := Staff.teams.table.columns ++ [⟨"size", .text, false⟩]
    let others : TableRef := ⟨⟨"staff", []⟩, none⟩
    Staff.teams.table.column? "size" = some ⟨"size", .bigint, true⟩ ∧
      Table.make "teams" resized =
        .error (.invalidValue (.duplicateColumn "size" "teams")) ∧
      (∃ before c after, resized = before ++ c :: after ∧ (before.map (·.name)).Nodup ∧
        c.name ∈ before.map (·.name)) ∧
      empty.enterAll [Staff.bosses, Staff.teams] = ([.ok (), .ok ()], Staff.scope) ∧
      (Staff.scope.tables.map (·.visible)).Nodup ∧
      (Staff.scope.enter others).1 = .error (.invalidValue (.duplicateTable "staff")) ∧
      (Staff.scope.enter others).2 = Staff.scope := by
  intro resized others
  obtain ⟨htables, hscopes⟩ := names_unique_in_tables_and_scopes
  have hmake : Table.make "teams" Staff.teams.table.columns = .ok Staff.teams.table := by decide
  have hrefused : Table.make "teams" resized =
      .error (.invalidValue (.duplicateColumn "size" "teams")) := by decide
  have hrun : empty.enterAll [Staff.bosses, Staff.teams] = ([.ok (), .ok ()], Staff.scope) := by
    decide
  have hothers : (Staff.scope.enter others).1 =
      .error (.invalidValue (.duplicateTable "staff")) := by decide
  obtain ⟨before, c, after, hsplit, hnodup, hrepeats, _⟩ :=
    (htables "teams" resized).2.1 (by decide) _ hrefused
  have hentered := hscopes [Staff.bosses, Staff.teams]
  rw [hrun] at hentered
  obtain ⟨hnext, hdistinct, _⟩ := hentered
  refine ⟨?_, hrefused, ⟨before, c, after, hsplit, hnodup, hrepeats⟩, hrun, hdistinct, hothers, ?_⟩
  · exact ((htables "teams" Staff.teams.table.columns).2.2 _ hmake).2 ⟨"size", .bigint, true⟩
      (by decide)
  · exact ((hnext others).2.2 _ hothers).1

end TableScope

end SqlTyping
