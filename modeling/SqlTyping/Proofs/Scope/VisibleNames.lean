/-
Visible names. In every scope that is made by adding tables the visible names are pairwise
distinct, so a visible name stands for one table. A qualifier is read more widely: a table answers
to its own name also where an alias hides it. So a table is reached under its visible name unless
that name is the own name of a table that was added before it under an alias; the first such table
takes the reference.
-/
import Mathlib.Data.List.Find
import Mathlib.Data.List.Nodup
import SqlTyping.Proofs.Scope

namespace SqlTyping

/-! ## Qualifiers -/

namespace TableRef

/-- The type of a column of the table, referred to under the qualifier. -/
def columnType (t : TableRef) (qualifier name : String) (span : Span) : Except Diagnostic SqlType :=
  match t.table.column? name with
  | some c => .ok c.resolvedType
  | none => .error (.columnNotFound (qualifier ++ "." ++ name) span)

theorem answersTo_iff {t : TableRef} {q : String} :
    t.answersTo q = true ↔ t.table.name = q ∨ t.aliasName = some q := by
  simp [answersTo]

theorem answersTo_visible (t : TableRef) : t.answersTo t.visible = true := by
  rw [answersTo_iff]
  unfold visible
  cases t.aliasName with
  | none => exact .inl rfl
  | some a => exact .inr rfl

/-- Under a qualifier that is not its visible name, a table answers by its own name only. -/
theorem answersTo_of_visible_ne {t : TableRef} {q : String} (h : t.visible ≠ q) :
    t.answersTo q = (t.table.name == q) := by
  have halias : t.aliasName ≠ some q := by
    intro ha
    exact h (by rw [visible, ha]; rfl)
  rw [Bool.eq_iff_iff, answersTo_iff, beq_iff_eq]
  exact or_iff_left halias

end TableRef

namespace TableScope

/-! ## Adding tables -/

/-- The scopes that are made from the empty one by adding tables and changing the clause. -/
inductive Built : TableScope → Prop
  | empty : Built .empty
  | addTable {s s' : TableScope} {table : Table} {aliasName : Option String} :
      Built s → s.addTable table aliasName = .ok s' → Built s'
  | inClause {s : TableScope} (clause : Clause) : Built s → Built (s.inClause clause)

variable {s s' : TableScope}

/-- A table is added at the end, or refused without a trace because its visible name is taken. -/
theorem enter_cases (s : TableScope) (t : TableRef) :
    ((∀ u ∈ s.tables, u.visible ≠ t.visible) ∧
      s.enter t = (.ok (), { s with tables := s.tables ++ [t] })) ∨
    ((∃ u ∈ s.tables, u.visible = t.visible) ∧
      s.enter t = (.error (.invalidValue (.duplicateTable t.visible)), s)) := by
  unfold enter
  split
  · rename_i hany
    obtain ⟨u, hu, heq⟩ := List.any_eq_true.1 hany
    exact .inr ⟨⟨u, hu, by simpa using heq⟩, rfl⟩
  · rename_i hnone
    refine .inl ⟨fun u hu heq => hnone ?_, rfl⟩
    exact List.any_eq_true.2 ⟨u, hu, by simpa using heq⟩

/-- A table is added at the end exactly if its visible name is new. -/
theorem addTable_eq_ok {table : Table} {aliasName : Option String} :
    s.addTable table aliasName = .ok s' ↔
      (∀ u ∈ s.tables, u.visible ≠ (⟨table, aliasName⟩ : TableRef).visible) ∧
        s' = { s with tables := s.tables ++ [⟨table, aliasName⟩] } := by
  unfold addTable
  rcases s.enter_cases ⟨table, aliasName⟩ with ⟨hnew, h⟩ | ⟨⟨u, hu, htaken⟩, h⟩
  · simp only [h, Except.map, Except.ok.injEq, @eq_comm _ _ s', iff_and_self]
    exact fun _ => hnew
  · simp only [h, Except.map, reduceCtorEq, false_iff, not_and]
    exact fun hnew => absurd htaken (hnew u hu)

theorem nodup_visible_addTable {table : Table} {aliasName : Option String}
    (hs : (s.tables.map (·.visible)).Nodup) (h : s.addTable table aliasName = .ok s') :
    (s'.tables.map (·.visible)).Nodup := by
  obtain ⟨hnew, rfl⟩ := addTable_eq_ok.1 h
  rw [List.map_append, List.map_singleton, List.nodup_append]
  refine ⟨hs, List.nodup_singleton _, fun v hv w hw => ?_⟩
  obtain ⟨u, hu, rfl⟩ := List.mem_map.1 hv
  rw [List.mem_singleton.1 hw]
  exact hnew u hu

/-- The visible names in a scope that is made by adding tables are pairwise distinct. -/
theorem Built.nodup_visible (h : s.Built) : (s.tables.map (·.visible)).Nodup := by
  induction h with
  | empty => exact List.nodup_nil
  | addTable _ hadd ih => exact nodup_visible_addTable ih hadd
  | inClause _ _ ih => exact ih

/-! ## References by visible names -/

theorem Built.visible_ne_of_before (hs : s.Built) {before after : List TableRef} {t : TableRef}
    (ht : s.tables = before ++ t :: after) : ∀ u ∈ before, u.visible ≠ t.visible := by
  have hnodup := hs.nodup_visible
  rw [ht, List.map_append, List.map_cons, List.nodup_append] at hnodup
  intro u hu
  exact hnodup.2.2 _ (List.mem_map_of_mem hu) _ List.mem_cons_self

theorem resolve_of_find? {q : String} {t : TableRef}
    (h : s.tables.find? (·.answersTo q) = some t) (name : String) (span : Span) :
    s.resolve (some q) name span = t.columnType q name span := by
  simp only [resolve, resolveQualified, h]
  rfl

/-- The table that decides a reference by the visible name of a table: the first one before it that
has this name as its own, or else the table itself. -/
theorem Built.resolve_visible (hs : s.Built) {before after : List TableRef} {t : TableRef}
    (ht : s.tables = before ++ t :: after) (name : String) (span : Span) :
    s.resolve (some t.visible) name span =
      ((before.find? (·.table.name == t.visible)).getD t).columnType t.visible name span := by
  have hdistinct := hs.visible_ne_of_before ht
  have hself : (t :: after).find? (·.answersTo t.visible) = some t :=
    List.find?_cons_of_pos t.answersTo_visible
  have hbefore : before.find? (·.answersTo t.visible) = before.find? (·.table.name == t.visible) :=
    List.find?_congr fun u hu => TableRef.answersTo_of_visible_ne (hdistinct u hu)
  refine resolve_of_find? ?_ name span
  rw [ht, List.find?_append, hself, hbefore]
  cases before.find? (·.table.name == t.visible) <;> rfl

/-- In a scope that is made by adding tables, a reference by the visible name of a table gives the
type of the column of that table, or is refused if the table has no such column, unless a table
that was added before it has that name as its own. The first table that has does so under an alias,
and the reference gives the type of its column, or is refused if it has none. -/
theorem visible_name_denotes_unless_hidden_name (s : TableScope) (hs : s.Built)
    (before after : List TableRef) (t : TableRef) (ht : s.tables = before ++ t :: after) :
    ((∀ u ∈ before, u.table.name ≠ t.visible) →
      ∀ name span, s.resolve (some t.visible) name span = t.columnType t.visible name span) ∧
    ∀ earlier u later, before = earlier ++ u :: later →
      (∀ w ∈ earlier, w.table.name ≠ t.visible) → u.table.name = t.visible →
      u.aliasName.isSome = true ∧
        ∀ name span, s.resolve (some t.visible) name span = u.columnType t.visible name span := by
  constructor
  · intro hnone name span
    have hfind : before.find? (·.table.name == t.visible) = none :=
      List.find?_eq_none.2 fun u hu => by simpa using hnone u hu
    rw [hs.resolve_visible ht, hfind]
    rfl
  · rintro earlier u later rfl hearlier hu
    have hfind : (earlier ++ u :: later).find? (·.table.name == t.visible) = some u := by
      rw [List.find?_append, List.find?_eq_none.2 fun w hw => by simpa using hearlier w hw]
      simp [hu]
    refine ⟨?_, fun name span => by rw [hs.resolve_visible ht, hfind]; rfl⟩
    -- without an alias the earlier table would have the same visible name
    have hne : u.visible ≠ t.visible := hs.visible_ne_of_before ht u (by simp)
    cases halias : u.aliasName with
    | some a => rfl
    | none => exact absurd (by rw [TableRef.visible, halias]; exact hu) hne

end TableScope

/-! ## A table under another one's name -/

namespace Staff

/-- A table of persons, seen as bosses. -/
def bosses : TableRef :=
  ⟨⟨"staff", [⟨"id", .bigint, false⟩]⟩, some "boss"⟩

/-- A table of teams, seen as staff. -/
def teams : TableRef :=
  ⟨⟨"teams", [⟨"id", .text, false⟩, ⟨"size", .bigint, true⟩]⟩, some "staff"⟩

/-- The bosses, and then the teams. -/
def scope : TableScope :=
  ⟨[bosses, teams], .select⟩

theorem built_scope : scope.Built := by
  have hbosses : TableScope.empty.addTable bosses.table bosses.aliasName =
      .ok ⟨[bosses], .select⟩ := rfl
  have hteams : TableScope.addTable ⟨[bosses], .select⟩ teams.table teams.aliasName =
      .ok scope := by decide
  exact .addTable (.addTable .empty hbosses) hteams

end Staff

namespace TableScope

/-- `boss` denotes the bosses; `staff` denotes them too, and not the teams that are visible under
this name. -/
theorem staff_names_decided :
    Staff.scope.Built ∧
      Staff.scope.resolve (some "boss") "id" (.onLine 1 8 14) = .ok .bigint ∧
      Staff.scope.resolve (some "staff") "size" (.onLine 1 8 17) =
        .error (.columnNotFound "staff.size" (.onLine 1 8 17)) := by
  refine ⟨Staff.built_scope, ?_, ?_⟩
  · exact (visible_name_denotes_unless_hidden_name _ Staff.built_scope [] [Staff.teams] Staff.bosses
      rfl).1 (fun _ h => nomatch h) "id" _
  · exact ((visible_name_denotes_unless_hidden_name _ Staff.built_scope [Staff.bosses] []
      Staff.teams rfl).2 [] Staff.bosses [] rfl (fun _ h => nomatch h) rfl).2 "size" _

/-- Not every table is reached under its visible name. -/
theorem visible_name_denotes_other_table :
    ¬ ∀ s : TableScope, s.Built → ∀ t ∈ s.tables, ∀ name span,
      s.resolve (some t.visible) name span = t.columnType t.visible name span := by
  intro h
  have hteams := h Staff.scope Staff.built_scope Staff.teams (by simp [Staff.scope]) "id" .unplaced
  have hbosses : Staff.scope.resolve (some Staff.teams.visible) "id" .unplaced = .ok .bigint := rfl
  have htext : Staff.teams.columnType Staff.teams.visible "id" .unplaced = .ok .text := rfl
  rw [hbosses, htext] at hteams
  exact absurd hteams (by decide)

end TableScope

end SqlTyping
