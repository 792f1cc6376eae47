/-
Probing against explaining. A standard rule that is probed gives the verdict that it gives where a
refusal is to be explained, with the diagnostic left out. So its answer to a probe is yes or no and
tells whether the explained check passes, and its answer where a refusal is to be explained is yes
or the diagnostic itself. The same holds of the rules for one operand, at every position of the
call, whatever operand is put there.
-/
import SqlTyping.Proofs.Operator.Bounds

namespace SqlTyping

/-! ## Verdicts without diagnostics -/

namespace Verdict

/-- The verdict with its diagnostic left out. -/
def erased : Verdict → Verdict
  | .pass => .pass
  | .fail => .fail
  | .rejected _ => .fail

/-- Where it is to be explained, the check passes or gives a diagnostic; a probe gives the same
verdict without the diagnostic. -/
structure Erases (verdict : Mode → Verdict) : Prop where
  explained : verdict .explain = .pass ∨ ∃ d, verdict .explain = .rejected d
  probed : verdict .probe = (verdict .explain).erased

theorem Uniform.erases {P : Diagnostic → Prop} {verdict : Mode → Verdict}
    (h : Uniform P verdict) : Erases verdict := by
  rcases h with h | ⟨d, _, h⟩
  · exact ⟨.inl (h .explain), by rw [h, h]; rfl⟩
  · exact ⟨.inr ⟨d, h .explain⟩, by rw [h, h]; rfl⟩

end Verdict

namespace Operator

open Verdict

/-! ## Answers -/

/-- The probe is answered with yes or no. Where a refusal is to be explained the answer is yes after
a yes, and after a no it is the diagnostic with which the check refuses. -/
def AnswersAlike (op : Operator) (check : TypedCall → Mode → Verdict) (b : TypedCall) : Prop :=
  ∃ yes, op.answer check b .probe = .ok yes ∧
    (yes = true → op.answer check b .explain = .ok true) ∧
    (yes = false → ∃ d, check b .explain = .rejected d ∧ op.answer check b .explain = .error d)

theorem answersAlike_of_erases {op : Operator} {check : TypedCall → Mode → Verdict} {b : TypedCall}
    (h : Erases (check b)) : op.AnswersAlike check b := by
  obtain ⟨hexplained, hprobed⟩ := h
  rcases hexplained with hpass | ⟨d, hd⟩
  · rw [hpass] at hprobed
    refine ⟨true, ?_, fun _ => ?_, nofun⟩
    · simp only [answer, hprobed, erased]
    · simp only [answer, hpass]
  · rw [hd] at hprobed
    refine ⟨false, ?_, nofun, fun _ => ⟨d, hd, ?_⟩⟩
    · simp only [answer, hprobed, erased]
    · simp only [answer, hd]

/-! ## One operand -/

/-- At every position of the call the family rule has an answer for every operand, and a probe of it
gives the explained verdict without the diagnostic. -/
theorem checkFamilyAt?_erases (op : Operator) (families : List Family) {b : TypedCall}
    (operand : Operand) {formal : Nat} (h : formal < b.call.operands.length) :
    ∃ verdict, (∀ mode, op.checkFamilyAt? families b operand formal mode = some (verdict mode)) ∧
      Erases verdict := by
  rw [← b.aligned] at h
  have htype := List.getElem?_eq_getElem h
  have huniform : Uniform (fun _ => True)
      (op.checkFamily families b (operand, b.types[formal]) formal) :=
    checkFamily_uniform op families trivial trivial
  exact ⟨_, checkFamilyAt?_of_type op families operand htype, huniform.erases⟩

theorem checkLiteral_erases (op : Operator) (allowNull : Bool) (operand : Operand) (formal : Nat) :
    Erases (op.checkLiteral allowNull operand formal) := by
  have huniform : Uniform (fun _ => True) (op.checkLiteral allowNull operand formal) :=
    checkLiteral_uniform op allowNull trivial trivial
  exact huniform.erases

/-! ## Whole calls -/

/-- On every typed call, whatever the number of its operands, each of the three standard rules gives
in a probe the verdict of the explained check without the diagnostic; the explained check passes or
has a diagnostic; and the answers in the two modes agree. At every position of the call the literal
rule and the family rule for one operand do so too. -/
theorem probe_erases_explanation (op : Operator) (b : TypedCall) :
    (∀ count, Erases (op.checkSameType count b) ∧ op.AnswersAlike (op.checkSameType count) b) ∧
    (∀ allowNull, Erases (op.checkFirstLiteral allowNull b) ∧
      op.AnswersAlike (op.checkFirstLiteral allowNull) b) ∧
    (∀ families, Erases (op.checkFamilies families b) ∧
      op.AnswersAlike (op.checkFamilies families) b) ∧
    ∀ operand formal, formal < b.call.operands.length →
      (∀ allowNull, Erases (op.checkLiteral allowNull operand formal)) ∧
      ∀ families, ∃ verdict,
        (∀ mode, op.checkFamilyAt? families b operand formal mode = some (verdict mode)) ∧
        Erases verdict := by
  refine ⟨fun count => ?_, fun allowNull => ?_, fun families => ?_, fun operand formal h => ?_⟩
  · have h := (checkSameType_uniform op count b).erases
    exact ⟨h, answersAlike_of_erases h⟩
  · have h := (checkFirstLiteral_uniform op allowNull b).erases
    exact ⟨h, answersAlike_of_erases h⟩
  · have h := (checkFamilies_uniform op families b).erases
    exact ⟨h, answersAlike_of_erases h⟩
  · exact ⟨fun allowNull => checkLiteral_erases op allowNull operand formal,
      fun families => checkFamilyAt?_erases op families operand h⟩

/-- NULLIF of an amount and NULL is refused for its second operand, and a probe says no more than
that; the family rule has a verdict on the first operand put in the place of the second. -/
theorem probes_of_amount_nullif_null :
    let nullif : Operator := .make "NULLIF" .function (.sameType (some 2)) .firstOrNull
    let amount : Operand := ⟨.column none "amount", .onLine 1 8 13⟩
    let missing : Operand := ⟨.literal .null, .onLine 1 16 19⟩
    let b : TypedCall :=
      ⟨⟨"nullif", [amount, missing], none, .onLine 1 1 20⟩, [.nullable .bigint, .null], rfl⟩
    let refusal : Diagnostic := .nullOperand "NULLIF" 1 (.onLine 1 16 19)
    nullif.checkSameType (some 2) b .explain = .rejected refusal ∧
      nullif.checkSameType (some 2) b .probe = .fail ∧
      nullif.answer (nullif.checkSameType (some 2)) b .explain = .error refusal ∧
      ∃ verdict : Mode → Verdict,
        (∀ mode, nullif.checkFamilyAt? [.numeric, .numeric] b amount 1 mode = some (verdict mode)) ∧
        verdict .probe = .fail := by
  intro nullif amount missing b refusal
  obtain ⟨hsame, _, _, hsingle⟩ := probe_erases_explanation nullif b
  obtain ⟨herases, yes, hprobe, _, hno⟩ := hsame (some 2)
  have hrefused : nullif.checkSameType (some 2) b .explain = .rejected refusal := rfl
  have hfail : nullif.checkSameType (some 2) b .probe = .fail := by
    rw [herases.probed, hrefused]; rfl
  have hyes : yes = false := by
    simp only [answer, hfail, Except.ok.injEq] at hprobe
    exact hprobe.symm
  refine ⟨hrefused, hfail, ?_, ?_⟩
  · obtain ⟨d, hd, hanswer⟩ := hno hyes
    rw [hrefused] at hd
    cases hd
    exact hanswer
  · obtain ⟨verdict, hverdict, _⟩ := (hsingle amount 1 (by decide)).2 [.numeric, .numeric]
    refine ⟨verdict, hverdict, ?_⟩
    have hmismatch : nullif.checkFamilyAt? [.numeric, .numeric] b amount 1 .probe = some .fail := rfl
    rw [hverdict .probe] at hmismatch
    exact Option.some.inj hmismatch

end Operator

end SqlTyping
