/-
The catalog as a map. A catalog that is filled by registering operators one after the other is a map
from upper-case names to operators in which the last operator of a name counts (`Records`). Each
registration keeps this up, so it holds after any history of registrations, on the empty catalog and
on the operators that are there from the start. Names are put in upper case twice, where an operator is
made and where it is looked up; since upper-casing is idempotent, the two agree.
-/
import Mathlib.Data.List.Dedup
import SqlTyping.Catalog.Builtin
import SqlTyping.Proofs.Operator.Gates
import SqlTyping.Proofs.Text.UpperCase

namespace SqlTyping

/-- The operator was made under that name; DISTINCT and ALL may have been taken from it. -/
inductive Operator.MadeAs (name : String) : Operator → Prop
  | make (kind : Kind) (rule : Rule) (returns : ReturnRule) :
      MadeAs name (.make name kind rule returns)
  | withoutQuantifier {op : Operator} : MadeAs name op → MadeAs name op.withoutQuantifier

theorem Operator.name_withoutQuantifier (op : Operator) : op.withoutQuantifier.name = op.name := by
  unfold withoutQuantifier
  split
  · rfl
  · rfl

theorem Operator.MadeAs.name_eq {name : String} {op : Operator} (h : op.MadeAs name) :
    op.name = Text.upper name := by
  induction h with
  | make kind rule returns => rfl
  | withoutQuantifier _ ih => rw [name_withoutQuantifier, ih]

namespace Catalog

/-! ## Histories -/

/-- The operator is the last one of the given name in a history of registrations. -/
def LastNamed (history : List Operator) (name : String) (op : Operator) : Prop :=
  op.name = name ∧ ∃ before after, history = before ++ op :: after ∧ ∀ o ∈ after, o.name ≠ name

/-- Searching the history from its end finds the last operator of a name. -/
theorem find?_reverse_eq_some_iff {history : List Operator} {name : String} {op : Operator} :
    history.reverse.find? (·.name == name) = some op ↔ LastNamed history name op := by
  rw [List.find?_eq_some_iff_append]
  simp only [beq_iff_eq, Bool.not_eq_true', beq_eq_false_iff_ne]
  refine and_congr_right fun _ => ⟨?_, ?_⟩
  · rintro ⟨after, before, hsplit, hafter⟩
    refine ⟨before.reverse, after.reverse, ?_, fun o ho => hafter o (List.mem_reverse.1 ho)⟩
    rw [← List.reverse_reverse history, hsplit]
    simp
  · rintro ⟨before, after, rfl, hafter⟩
    refine ⟨after.reverse, before.reverse, by simp, fun o ho => hafter o (List.mem_reverse.1 ho)⟩

/-! ## One registration -/

/-- The catalog has one operator for each name in the history, the last one of that name. -/
structure Records (c : Catalog) (history : List Operator) : Prop where
  lookup_eq : ∀ q, c.lookup q = history.reverse.find? (·.name == Text.upper q)
  nodup : (c.operators.map (·.name)).Nodup
  mem_names : ∀ name, name ∈ c.operators.map (·.name) ↔ name ∈ history.map (·.name)

theorem records_empty : empty.Records [] :=
  ⟨fun _ => rfl, List.nodup_nil, fun _ => Iff.rfl⟩

namespace Records

variable {c : Catalog} {history : List Operator}

theorem mem_filter_names {op : Operator} {name : String} :
    name ∈ (c.operators.filter (·.name != op.name)).map (·.name) ↔
      name ∈ c.operators.map (·.name) ∧ name ≠ op.name := by
  simp only [List.mem_map, List.mem_filter, bne_iff_ne]
  constructor
  · rintro ⟨o, ⟨ho, hne⟩, rfl⟩
    exact ⟨⟨o, ho, rfl⟩, hne⟩
  · rintro ⟨⟨o, ho, rfl⟩, hne⟩
    exact ⟨o, ⟨ho, hne⟩, rfl⟩

/-- Another registration is recorded at the end of the history. -/
theorem register (h : c.Records history) (op : Operator) :
    (c.register op).Records (history ++ [op]) where
  lookup_eq q := by
    rw [lookup_register, h.lookup_eq, List.reverse_append, List.reverse_singleton,
      List.singleton_append]
    by_cases hname : op.name = Text.upper q
    · rw [if_pos hname, List.find?_cons_of_pos (by simpa using hname)]
    · rw [if_neg hname, List.find?_cons_of_neg (by simpa using hname)]
  nodup := by
    unfold Catalog.register
    rw [List.map_append, List.map_singleton, List.nodup_append]
    refine ⟨h.nodup.sublist (List.filter_sublist.map _), List.nodup_singleton _, ?_⟩
    intro name hname other hother
    rw [List.mem_singleton.1 hother]
    exact (mem_filter_names.1 hname).2
  mem_names name := by
    unfold Catalog.register
    rw [List.map_append, List.map_append, List.mem_append, List.mem_append, mem_filter_names,
      h.mem_names]
    by_cases hname : name = op.name
    · simp [hname]
    · simp [hname]

/-! ## Any number of registrations -/

theorem registerAll (h : c.Records history) (ops : List Operator) :
    (c.registerAll ops).Records (history ++ ops) := by
  induction ops generalizing c history with
  | nil =>
    rw [List.append_nil]
    exact h
  | cons op ops ih =>
    have hstep := ih (h.register op)
    rw [List.append_assoc] at hstep
    exact hstep

theorem lookup_eq_some_iff (h : c.Records history) {q : String} {op : Operator} :
    c.lookup q = some op ↔ LastNamed history (Text.upper q) op := by
  rw [h.lookup_eq, find?_reverse_eq_some_iff]

theorem lookup_eq_none_iff (h : c.Records history) {q : String} :
    c.lookup q = none ↔ ∀ op ∈ history, op.name ≠ Text.upper q := by
  rw [h.lookup_eq, List.find?_eq_none]
  simp

/-- There are as many operators as there are distinct names in the history. -/
theorem size_eq (h : c.Records history) : c.size = (history.map (·.name)).dedup.length := by
  have hperm : (c.operators.map (·.name)).Perm (history.map (·.name)).dedup := by
    rw [List.perm_ext_iff_of_nodup h.nodup (List.nodup_dedup _)]
    intro name
    rw [h.mem_names, List.mem_dedup]
  rw [size, ← hperm.length_eq, List.length_map]

/-- An operator that was registered last under its name is found under every text that has the same
upper-case form as the name it was made with. -/
theorem lookup_of_madeAs (h : c.Records history) {name : String} {op : Operator}
    (hmade : op.MadeAs name) (hlast : LastNamed history op.name op) {q : String}
    (hq : Text.upper q = Text.upper name) : c.lookup q = some op := by
  rw [h.lookup_eq_some_iff, hq, ← hmade.name_eq]
  exact hlast

end Records

/-! ## The operators that are there from the start -/

/-- The operators that are there from the start. -/
def builtins : List Operator :=
  symbols ++ functions ++ aggregates

theorem records_builtin : builtin.Records builtins :=
  records_empty.registerAll builtins

theorem nodup_names_builtins : (builtins.map (·.name)).Nodup := by
  decide

/-- Each of them is found under its name, and nothing else is found. -/
theorem lookup_builtin_eq_some_iff {q : String} {op : Operator} :
    builtin.lookup q = some op ↔ op ∈ builtins ∧ op.name = Text.upper q := by
  rw [records_builtin.lookup_eq_some_iff]
  constructor
  · rintro ⟨hname, before, after, hsplit, _⟩
    exact ⟨by simp [hsplit], hname⟩
  · rintro ⟨hmem, hname⟩
    obtain ⟨before, after, hsplit⟩ := List.append_of_mem hmem
    refine ⟨hname, before, after, hsplit, fun o ho => ?_⟩
    have hnodup := nodup_names_builtins
    rw [hsplit, List.map_append, List.map_cons, List.nodup_append, List.nodup_cons] at hnodup
    intro ho'
    exact hnodup.2.1.1 (hname ▸ ho' ▸ List.mem_map_of_mem ho)

/-! ## The catalog as a map -/

/-- The catalog is the map that a history of registrations makes: under a text it has the last
operator whose name is the upper-case form of the text, and it is as large as there are names. -/
structure LastWins (c : Catalog) (history : List Operator) : Prop where
  found : ∀ q op, c.lookup q = some op ↔ LastNamed history (Text.upper q) op
  missing : ∀ q, c.lookup q = none ↔ ∀ op ∈ history, op.name ≠ Text.upper q
  named : ∀ q op, c.lookup q = some op → op.name = Text.upper q
  size : c.size = (history.map (·.name)).dedup.length
  aggregate : ∀ q, c.isAggregate q = true ↔ ∃ op, c.lookup q = some op ∧ op.isAggregate = true
  made : ∀ name op, op.MadeAs name → LastNamed history op.name op →
    c.lookup op.name = some op ∧ ∀ q, Text.upper q = Text.upper name → c.lookup q = some op

theorem Records.lastWins {c : Catalog} {history : List Operator} (h : c.Records history) :
    c.LastWins history where
  found _ _ := h.lookup_eq_some_iff
  missing _ := h.lookup_eq_none_iff
  named _ _ hop := name_of_lookup hop
  size := h.size_eq
  aggregate q := by
    unfold isAggregate
    rw [Option.any_eq_true]
  made name op hmade hlast := by
    have hfound : ∀ q, Text.upper q = Text.upper name → c.lookup q = some op := fun q hq =>
      h.lookup_of_madeAs hmade hlast hq
    refine ⟨hfound op.name ?_, hfound⟩
    rw [hmade.name_eq, Text.upper_upper]

/-- Operators that are registered one after the other, on the empty catalog or on the operators that
are there from the start, make a map from upper-case names in which the last one of a name counts.
What has not been registered falls back on the operator that was there from the start, and
upper-casing a text twice is upper-casing it once. -/
theorem last_registered_operator_counts (ops : List Operator) :
    (empty.registerAll ops).LastWins ops ∧
      (builtin.registerAll ops).LastWins (builtins ++ ops) ∧
      (∀ q, (builtin.registerAll ops).lookup q =
        ((empty.registerAll ops).lookup q).or (builtin.lookup q)) ∧
      (∀ q op, builtin.lookup q = some op ↔ op ∈ builtins ∧ op.name = Text.upper q) ∧
      ∀ s, Text.upper (Text.upper s) = Text.upper s := by
  have hempty : (empty.registerAll ops).Records ops := records_empty.registerAll ops
  have hbuiltin := records_builtin.registerAll ops
  refine ⟨hempty.lastWins, hbuiltin.lastWins, fun q => ?_,
    fun _ _ => lookup_builtin_eq_some_iff, Text.upper_upper⟩
  rw [hbuiltin.lookup_eq, hempty.lookup_eq, records_builtin.lookup_eq, List.reverse_append,
    List.find?_append]

/-- Two functions whose names differ in a letter that is written SS in upper case are one entry, and
the second of them counts, in whatever letters it is asked for. A sum of one's own takes the place of
the one that was there. -/
theorem strasse_and_sum_registered :
    let first := Operator.make "straße" .function (.sameType (some 1)) .first
    let second := Operator.make "Strasse" (.aggregate true) (.sameType (some 2)) .first
    let sum := Operator.make "sum" .function (.families [.character]) .first
    let c := builtin.registerAll [first, second, sum]
    (empty.registerAll [first, second]).size = 1 ∧ c.size = builtin.size + 1 ∧
      c.lookup "STRAßE" = some second ∧ c.lookup "straſſe" = some second ∧
      c.lookup "STRASSE" = some second ∧ c.isAggregate "strasse" = true ∧
      c.lookup "Sum" = some sum ∧ c.isAggregate "SUM" = false := by
  intro first second sum c
  obtain ⟨hempty, -⟩ := last_registered_operator_counts [first, second]
  obtain ⟨-, hc, -⟩ := last_registered_operator_counts [first, second, sum]
  have hsecond := hc.made "Strasse" second (.make _ _ _)
    ⟨rfl, builtins ++ [first], [sum], by simp, by decide⟩
  have hsum := hc.made "sum" sum (.make _ _ _)
    ⟨rfl, builtins ++ [first, second], [], by simp, fun _ h => nomatch h⟩
  refine ⟨?_, ?_, ?_, ?_, ?_, ?_, ?_, ?_⟩
  · rw [hempty.size]
    decide
  · rw [hc.size]
    decide
  · exact hsecond.2 _ (by decide)
  · exact hsecond.2 _ (by decide)
  · exact hsecond.2 _ (by decide)
  · exact (hc.aggregate _).2 ⟨second, hsecond.2 _ (by decide), rfl⟩
  · exact hsum.2 _ (by decide)
  · rw [Bool.eq_false_iff, ne_eq, hc.aggregate, hsum.2 _ (by decide)]
    rintro ⟨op, hop, hagg⟩
    cases hop
    cases hagg

end Catalog

end SqlTyping
