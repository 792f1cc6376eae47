/-
What a table scope answers. An unqualified name is decided by the types that it has in the tables,
whatever the search has seen before; a column reference is refused for its name, at the span of the
reference, and an aggregate for the clause it stands in.
-/
import SqlTyping.Scope

namespace SqlTyping

namespace TableScope

variable {ts : TableScope} {name : String} {span : Span} {d : Diagnostic}

/-! ## Unqualified names -/

/-- What becomes of an unqualified name that has these types, one for each table that has it. -/
def bareOutcome (name : String) (span : Span) : List SqlType → Except Diagnostic SqlType
  | [] => .error (.columnNotFound name span)
  | [type] => .ok type
  | _ :: _ :: _ => .error (.ambiguousColumn name span)

/-- The search is decided by what it has found and by the types in the tables that are left, as if
what was found stood before them. -/
theorem resolveBareFrom_eq (name : String) (span : Span) (found : Option SqlType)
    (tables : List TableRef) :
    resolveBareFrom name span found tables = bareOutcome name span
      (found.toList ++ tables.filterMap fun t => (t.table.column? name).map (·.resolvedType)) := by
  -- a table without the column changes nothing, the first one with it moves its type to `found`
  induction tables generalizing found with
  | nil => cases found <;> rfl
  | cons t tables ih =>
    rw [resolveBareFrom]
    cases hc : t.table.column? name with
    | none => rw [List.filterMap_cons_none (by rw [hc]; rfl)]; exact ih found
    | some c =>
      rw [List.filterMap_cons_some (b := c.resolvedType) (by rw [hc]; rfl)]
      cases found with
      | none => exact ih (some c.resolvedType)
      | some type => rfl

/-! ## Refusals -/

/-- A reference is refused as not found, under the name as it is written, or as ambiguous if it is
not qualified. -/
theorem resolve_eq_error {qualifier : Option String} (h : ts.resolve qualifier name span = .error d) :
    (∃ q, qualifier = some q ∧ d = .columnNotFound (q ++ "." ++ name) span) ∨
    (qualifier = none ∧ (d = .columnNotFound name span ∨ d = .ambiguousColumn name span)) := by
  cases qualifier with
  | some q =>
    refine .inl ⟨q, rfl, ?_⟩
    simp only [resolve, resolveQualified] at h
    split at h
    · split at h
      · cases h
      · cases h; rfl
    · split at h
      · cases h
      · cases h; rfl
  | none =>
    refine .inr ⟨rfl, ?_⟩
    simp only [resolve, resolveBare, resolveBareFrom_eq, bareOutcome] at h
    split at h
    · cases h; exact .inl rfl
    · cases h
    · cases h; exact .inr rfl

theorem admits_eq_ok_iff {c : Call} :
    ts.admits c = .ok () ↔ ts.clause ≠ .whereRows ∧ ts.clause ≠ .groupBy := by
  unfold admits
  cases ts.clause <;> simp

theorem admits_eq_error {c : Call} (h : ts.admits c = .error d) :
    d = .aggregateInWhere (Text.upper c.name) c.span ∨
    d = .aggregateInGroupBy (Text.upper c.name) c.span := by
  unfold admits at h
  split at h
  · cases h; exact .inl rfl
  · cases h; exact .inr rfl
  · cases h
  · cases h
  · cases h

/-! ## Clauses -/

theorem toScope_resolve_inClause (ts : TableScope) (clause clause' : Clause) :
    (ts.inClause clause).toScope.resolve = (ts.inClause clause').toScope.resolve := rfl

/-- The clauses that admit aggregates make the same scope of the tables. -/
theorem toScope_inClause_eq_select (ts : TableScope) {clause : Clause}
    (hwhere : clause ≠ .whereRows) (hgroup : clause ≠ .groupBy) :
    (ts.inClause clause).toScope = (ts.inClause .select).toScope := by
  cases clause with
  | select => rfl
  | whereRows => exact absurd rfl hwhere
  | groupBy => exact absurd rfl hgroup
  | having => rfl
  | orderBy => rfl

end TableScope

/-! ## A table of orders

A scope with one table, and calls over it, to try statements about tables on. -/

namespace Orders

/-- A table of orders whose amount may be missing, seen from a clause. -/
def scope (clause : Clause) : TableScope :=
  ⟨[⟨⟨"orders", [⟨"amount", .bigint, true⟩]⟩, none⟩], clause⟩

/-- The sum of all amounts. -/
def total : Call :=
  ⟨"sum", [⟨.column none "amount", .onLine 1 14 19⟩], none, .onLine 1 10 20⟩

/-- The sum of all amounts, or zero. -/
def totalOrZero : Call :=
  ⟨"COALESCE", [⟨.call total, total.span⟩, ⟨.literal (.integer 0), .onLine 1 23 23⟩], none,
    .onLine 1 1 24⟩

/-- The greatest amount. -/
def greatest : Call :=
  ⟨"max", [⟨.column none "amount", .onLine 1 27 32⟩], none, .onLine 1 23 33⟩

/-- The sum of all amounts, or the greatest. -/
def totalOrGreatest : Call :=
  ⟨"COALESCE", [⟨.call total, total.span⟩, ⟨.call greatest, greatest.span⟩], none, .onLine 1 1 34⟩

/-- The table of orders where only sums are admitted. -/
def sumsOnly : Scope where
  resolve := (scope .select).resolve
  admits c :=
    if Text.upper c.name = "SUM" then .ok ()
    else .error (.aggregateInGroupBy (Text.upper c.name) c.span)

/-- One column of amounts, of the given type, where every aggregate is admitted. -/
def amounts (t : SqlType) : Scope where
  resolve _ name span := if name = "amount" then .ok t else .error (.columnNotFound name span)
  admits _ := .ok ()

/-- The amount or zero, unless it equals NULL taken as a number. -/
def amountOrZero : Call :=
  ⟨"NULLIF", [
    ⟨.call ⟨"coalesce", [⟨.column none "amount", .onLine 1 17 22⟩,
      ⟨.literal (.integer 0), .onLine 1 25 25⟩], none, .onLine 1 8 26⟩, .onLine 1 8 26⟩,
    ⟨.cast (.literal .null) .double, .onLine 1 29 48⟩], none, .onLine 1 1 49⟩

end Orders

end SqlTyping
