/-
Bounds. The positions at which the checks read come from their own settings, yet on a typed call
each of them is a position that exists: the same-type rule stops at the last operand whatever its
count, there are as many types as operands, the ellipsis replaces the last operand that is shown,
and a template is cut at braces that were found in it. So checking by position always has an answer,
and it is the answer of the checks on lists. The family rule on one operand is the exception, since
its position is given from outside.
-/
import Mathlib.Data.List.Find
import SqlTyping.Operator.ByPosition
import SqlTyping.Proofs.Operator.Gates
import SqlTyping.Proofs.Operator.Signatures

namespace SqlTyping

/-! ## Searches and slices -/

/-- A search finds the first position whose test is true, if all tests have answers. -/
theorem firstAt?_eq_some {test : Nat → Option Bool} {positions : List Nat}
    (h : ∀ i ∈ positions, (test i).isSome = true) :
    firstAt? test positions = some (positions.find? fun i => test i == some true) := by
  induction positions with
  | nil => rfl
  | cons i positions ih =>
    rw [List.forall_mem_cons] at h
    obtain ⟨found, hfound⟩ := Option.isSome_iff_exists.1 h.1
    rw [firstAt?, hfound, ih h.2, List.find?_cons, hfound]
    cases found <;> rfl

/-- Searching the positions of a list finds the position of the first element that passes. -/
theorem find?_range_length {α : Type} (p : α → Bool) (xs : List α) :
    (List.range xs.length).find? (fun i => xs[i]?.map p == some true) =
      (xs.zipIdx.find? (p ·.1)).map (·.2) := by
  rw [List.range_eq_range', ← List.zipIdx_map_snd, List.find?_map]
  congr 1
  apply List.find?_congr
  intro x hx
  rw [List.mem_zipIdx_iff_getElem?] at hx
  simp only [Function.comp_apply, hx, Option.map_some]
  cases p x.1 <;> rfl

/-- A part that stands in the text between two others is its slice. -/
theorem slice?_eq_some {text part : List Char} {first last : Nat} (before after : List Char)
    (htext : text = before ++ part ++ after) (hfirst : before.length = first)
    (hlast : first + part.length = last) : slice? text first last = some ⟨part, hlast⟩ := by
  subst htext hfirst hlast
  have hbounds : before.length ≤ before.length + part.length ∧
      before.length + part.length ≤ (before ++ part ++ after).length := by
    simp only [List.length_append]
    omega
  rw [slice?, dif_pos hbounds]
  simp [List.take_append, List.take_of_length_le]

/-- The position of a character cuts the text in two, and the character is not in the first. -/
theorem exists_append_of_findIdx? {c : Char} {text : List Char} {i : Nat}
    (h : text.findIdx? (· == c) = some i) :
    ∃ before after, text = before ++ c :: after ∧ before.length = i ∧ c ∉ before := by
  obtain ⟨hi, hc, hbefore⟩ := List.findIdx?_eq_some_iff_getElem.1 h
  refine ⟨text.take i, text.drop (i + 1), ?_, List.length_take_of_le hi.le, ?_⟩
  · rw [← beq_iff_eq.1 hc, List.getElem_cons_drop, List.take_append_drop]
  · intro hmem
    obtain ⟨j, hj, hjc⟩ := List.mem_take_iff_getElem.1 hmem
    exact hbefore j (by omega) (beq_iff_eq.2 hjc)

theorem not_mem_of_findIdx? {c : Char} {text : List Char} (h : text.findIdx? (· == c) = none) :
    c ∉ text := by
  intro hmem
  simpa using List.findIdx?_eq_none_iff.1 h c hmem

/-! ## Templates and signatures -/

namespace Template

variable (values : List String)

/-- A place that is never closed stays as it is written. -/
theorem scan_unclosed {text : List Char} (h : '\x7d' ∉ text) (inside : List Char) :
    scan values (some inside) text = '\x7b' :: (inside ++ text) := by
  induction text generalizing inside with
  | nil => rw [scan, List.append_nil]
  | cons c text ih =>
    simp only [List.mem_cons, not_or] at h
    rw [scan, if_neg (Ne.symm h.1), ih h.2, List.append_assoc, List.singleton_append]

/-- Filling by the positions of braces is one scan of the text. -/
theorem fillAt?_eq_some (text : List Char) :
    fillAt? values text = some (scan values none text) := by
  -- by induction on the length: what is left behind a place is shorter than the text
  induction hlength : text.length using Nat.strong_induction_on generalizing text with
  | _ n ih =>
  rw [fillAt?]
  cases hopening : text.findIdx? (· == '\x7b') with
  | none =>
    have hscan := scan_text values (not_mem_of_findIdx? hopening) []
    rw [List.append_nil, scan, List.append_nil] at hscan
    rw [hscan]
    rfl
  | some opening =>
    obtain ⟨before, after, htext, hopened, hbefore⟩ := exists_append_of_findIdx? hopening
    have hscan : scan values none text = before ++ scan values (some []) after := by
      rw [htext, scan_text values hbefore, scan, if_pos rfl]
    have hafter : opening + 1 + after.length = text.length := by
      rw [htext, List.length_append, List.length_cons]
      omega
    have hhead : slice? text 0 opening = some ⟨before, by omega⟩ :=
      slice?_eq_some [] ('\x7b' :: after) htext rfl _
    have htail : slice? text (opening + 1) text.length = some ⟨after, hafter⟩ :=
      slice?_eq_some (before ++ ['\x7b']) [] (by simp [htext]) (by simp [hopened]) _
    simp only [hhead, htail, Option.bind_eq_bind, Option.bind_some]
    cases hclosing : after.findIdx? (· == '\x7d') with
    | none =>
      have hunclosed : slice? text opening text.length =
          some ⟨'\x7b' :: after, by rw [List.length_cons]; omega⟩ :=
        slice?_eq_some before [] (by simp [htext]) hopened _
      simp only [hunclosed, Option.bind_some]
      rw [hscan, scan_unclosed values (not_mem_of_findIdx? hclosing)]
      rfl
    | some closing =>
      obtain ⟨inside, rest, hparts, hclosed, hinside⟩ := exists_append_of_findIdx? hclosing
      have hrest : closing + 1 + rest.length = after.length := by
        rw [hparts, List.length_append, List.length_cons]
        omega
      have hindex : slice? after 0 closing = some ⟨inside, by omega⟩ :=
        slice?_eq_some [] ('\x7d' :: rest) hparts rfl _
      have hplace : slice? text opening (opening + closing + 2) =
          some ⟨'\x7b' :: (inside ++ ['\x7d']), by simp; omega⟩ :=
        slice?_eq_some before rest (by simp [htext, hparts]) hopened _
      have hleft : slice? after (closing + 1) after.length = some ⟨rest, hrest⟩ :=
        slice?_eq_some (inside ++ ['\x7d']) [] (by simp [hparts]) (by simp [hclosed]) _
      simp only [hindex, hplace, hleft, Option.bind_some, Option.map_some,
        ih rest.length (by omega) rest rfl]
      rw [hscan, hparts, scan_inside values hinside, List.nil_append, atPlace]
      cases (index? inside).bind (values[·]?) <;> simp

end Template

theorem Kind.signatureAt?_eq_some (kind : Kind) (name : String) (types : List String) :
    kind.signatureAt? name types = some (kind.signature name types) := by
  unfold signatureAt? signature
  cases kind.template? types.length with
  | none => rfl
  | some t => simp only [Template.fillAt?_eq_some, Option.map_some, Template.fill]

theorem Rule.signaturesAt?_eq_some (kind : Kind) (name : String) (rule : Rule) :
    rule.signaturesAt? kind name = some (rule.signatures kind name) := by
  cases rule with
  | sameType count =>
    cases count with
    | none => exact kind.signatureAt?_eq_some name _
    | some n => exact kind.signatureAt?_eq_some name _
  | literal allowNull => rfl
  | families fs => exact kind.signatureAt?_eq_some name _
  | custom r => rfl

theorem Verdict.refuseM_some (mode : Mode) (d : Diagnostic) :
    refuseM mode (some d) = some (refuse mode d) := by
  cases mode <;> rfl

namespace Operator

theorem signatureMismatchAt?_eq_some (op : Operator) (b : TypedCall) :
    op.signatureMismatchAt? b = some (op.signatureMismatch b) := by
  unfold signatureMismatchAt?
  rw [Kind.signatureAt?_eq_some, Rule.signaturesAt?_eq_some]
  rfl

/-! ## The same-type rule -/

section SameType

variable {count : Option Nat} {types : List SqlType} {i : Nat}

theorem length_firstOf {α : Type} (count : Option Nat) (xs : List α) :
    (firstOf count xs).length = min (count.getD xs.length) xs.length := by
  cases count <;> simp [firstOf]

theorem getElem?_firstOf {α : Type} {xs : List α} (h : i < (firstOf count xs).length) :
    (firstOf count xs)[i]? = xs[i]? := by
  rw [getElem?_of_firstOf (List.getElem?_eq_getElem h), List.getElem?_eq_getElem h]

/-- The operands that count are all read, and the first bare NULL among them is found. -/
theorem firstAt?_null (count : Option Nat) (operands : List Operand) :
    firstAt? (fun i => operands[i]?.map (·.expr.isNull false))
        (List.range (firstOf count operands).length) =
      some (((firstOf count operands).zipIdx.find? (·.1.expr.isNull false)).map (·.2)) := by
  have hread : ∀ i ∈ List.range (firstOf count operands).length,
      operands[i]? = (firstOf count operands)[i]? := fun i hi =>
    (getElem?_firstOf (List.mem_range.1 hi)).symm
  rw [firstAt?_eq_some, ← find?_range_length fun o : Operand => o.expr.isNull false]
  · congr 1
    exact List.find?_congr fun i hi => by rw [hread i hi]
  · intro i hi
    rw [hread i hi, List.getElem?_eq_getElem (List.mem_range.1 hi)]
    rfl

theorem differsAt?_firstOf (h : i < (firstOf count types).length) :
    differsAt? (firstOf count types) i = differsAt? types i := by
  unfold differsAt?
  rw [getElem?_firstOf h, getElem?_firstOf (by omega)]

theorem isSome_differsAt? (h : i < types.length) : (differsAt? types i).isSome = true := by
  unfold differsAt?
  rw [List.getElem?_eq_getElem h, List.getElem?_eq_getElem (by omega)]
  rfl

theorem differsAt?_eq_none (h : types.length ≤ i) : differsAt? types i = none := by
  unfold differsAt?
  rw [List.getElem?_eq_none h]
  rfl

theorem neighboursComparable_iff_differsAt? :
    neighboursComparable types = true ↔ ∀ i, differsAt? types (i + 1) ≠ some true := by
  induction types with
  | nil => simp [neighboursComparable, differsAt?]
  | cons t types ih =>
    cases types with
    | nil => simp [neighboursComparable, differsAt?]
    | cons u types =>
      have hfirst : differsAt? (t :: u :: types) 1 = some (!u.comparable t) := rfl
      have hrest (i : Nat) :
          differsAt? (t :: u :: types) (i + 1 + 1) = differsAt? (u :: types) (i + 1) := rfl
      rw [neighboursComparable, Bool.and_eq_true, ih]
      constructor
      · rintro ⟨hpair, htypes⟩ i
        cases i with
        | zero => simp [hfirst, hpair]
        | succ i => exact hrest i ▸ htypes i
      · intro h
        exact ⟨by simpa [hfirst] using h 0, fun i => hrest i ▸ h (i + 1)⟩

/-- The types that count are all read, and a pair that cannot be compared is found if there is
one. -/
theorem firstAt?_differs (count : Option Nat) (types : List SqlType) :
    ∃ found, firstAt? (differsAt? types) (List.range' 1 ((firstOf count types).length - 1)) =
        some found ∧
      (found = none ↔ neighboursComparable (firstOf count types) = true) := by
  have hlt : ∀ i ∈ List.range' 1 ((firstOf count types).length - 1),
      i < (firstOf count types).length := by
    intro i hi
    rw [List.mem_range'_1] at hi
    omega
  refine ⟨_, firstAt?_eq_some fun i hi => ?_, ?_⟩
  · rw [← differsAt?_firstOf (hlt i hi)]
    exact isSome_differsAt? (hlt i hi)
  rw [List.find?_eq_none, neighboursComparable_iff_differsAt?]
  constructor
  · intro h i
    by_cases hi : i + 1 < (firstOf count types).length
    · rw [differsAt?_firstOf hi]
      simpa using h (i + 1) (List.mem_range'_1.2 ⟨by omega, by omega⟩)
    · simp [differsAt?_eq_none (Nat.le_of_not_lt hi)]
  · intro h i hi
    obtain ⟨j, rfl⟩ : ∃ j, i = j + 1 := ⟨i - 1, by rw [List.mem_range'_1] at hi; omega⟩
    rw [← differsAt?_firstOf (hlt _ hi)]
    simpa using h j

end SameType

theorem checkSameTypeAt?_eq_some (op : Operator) (count : Option Nat) (b : TypedCall)
    (mode : Mode) : op.checkSameTypeAt? count b mode = some (op.checkSameType count b mode) := by
  have hlength : (firstOf count b.types).length = (firstOf count b.call.operands).length := by
    rw [length_firstOf, length_firstOf, b.aligned]
  obtain ⟨found, hfound, hnone⟩ := firstAt?_differs count b.types
  rw [hlength] at hfound
  unfold checkSameTypeAt? checkSameType
  simp only [← length_firstOf, firstAt?_null, Option.bind_eq_bind, Option.bind_some]
  cases hnull : (firstOf count b.call.operands).zipIdx.find? (·.1.expr.isNull false) with
  | some slot =>
    have hslot := getElem?_of_firstOf
      (List.mem_zipIdx_iff_getElem?.1 (List.mem_of_find?_eq_some hnull))
    simp only [Option.map_some, hslot, Verdict.refuseM_some]
  | none =>
    simp only [Option.map_none, hfound, Option.bind_some, ← hnone]
    cases found with
    | none => rfl
    | some i => exact Verdict.refuseM_some mode _

/-! ## The other rules -/

theorem checkLiteralAt?_eq_some (op : Operator) (allowNull : Bool) (operand : Operand) (i : Nat)
    (mode : Mode) : op.checkLiteralAt? allowNull operand i mode =
      some (op.checkLiteral allowNull operand i mode) := by
  unfold checkLiteralAt? checkLiteral literalVerdict
  simp only [Option.pure_def, Verdict.refuseM_some]
  cases operand.expr.literalClass with
  | null => cases allowNull <;> rfl
  | literal => rfl
  | chain => rfl
  | other => rfl

theorem checkFirstLiteralAt?_eq_some (op : Operator) (allowNull : Bool) (b : TypedCall)
    (mode : Mode) : op.checkFirstLiteralAt? allowNull b mode =
      some (op.checkFirstLiteral allowNull b mode) := by
  unfold checkFirstLiteralAt? checkFirstLiteral
  rw [signatureMismatchAt?_eq_some, Verdict.refuseM_some]
  cases b.call.operands.head? with
  | none => rfl
  | some operand => exact op.checkLiteralAt?_eq_some allowNull operand 0 mode

/-- At a position that has a type the family rule has a verdict on every operand. -/
theorem checkFamilyAt?_of_type (op : Operator) (families : List Family) {b : TypedCall}
    (operand : Operand) {type : SqlType} {i : Nat} (h : b.types[i]? = some type) (mode : Mode) :
    op.checkFamilyAt? families b operand i mode =
      some (op.checkFamily families b (operand, type) i mode) := by
  unfold checkFamilyAt? checkFamily familyVerdict
  simp only [h, signatureMismatchAt?_eq_some, Verdict.refuseM_some, Option.pure_def,
    Option.bind_eq_bind, Option.bind_some, pure_bind]
  split
  · rfl
  · rfl
  · split
    · rfl
    · split
      · rfl
      · rfl

/-- The family rule on one operand has no answer exactly if the operand has to be a member of a
family, which takes its type, and the call has no operand at that position. -/
theorem checkFamilyAt?_eq_none_iff (op : Operator) (families : List Family) (b : TypedCall)
    (operand : Operand) (i : Nat) (mode : Mode) :
    op.checkFamilyAt? families b operand i mode = none ↔
      b.call.operands.length ≤ i ∧ i < families.length ∧ families[i]? ≠ some .any ∧
        operand.expr.isNull false = false := by
  cases htype : b.types[i]? with
  | some type =>
    obtain ⟨hi, _⟩ := List.getElem?_eq_some_iff.1 htype
    rw [checkFamilyAt?_of_type op families operand htype]
    rw [b.aligned] at hi
    simp [Nat.not_le.2 hi]
  | none =>
    have hi : b.call.operands.length ≤ i := b.aligned ▸ List.getElem?_eq_none_iff.1 htype
    unfold checkFamilyAt? familyVerdict
    simp only [htype, signatureMismatchAt?_eq_some, Verdict.refuseM_some, Option.pure_def,
      Option.bind_eq_bind, Option.bind_none]
    split
    · rename_i hfamily
      simp [List.getElem?_eq_none_iff.1 hfamily]
    · rename_i hfamily
      simp [hfamily]
    · rename_i family hany hfamily
      obtain ⟨hlength, _⟩ := List.getElem?_eq_some_iff.1 hfamily
      have hne : families[i]? ≠ some .any := fun h => hany (Option.some.inj (hfamily.symm.trans h))
      cases operand.expr.isNull false with
      | true => simp
      | false => exact iff_of_true rfl ⟨hi, hlength, hne, rfl⟩

/-- The family rule goes through operands that are at their own positions. -/
theorem checkFamiliesFrom?_eq_some (op : Operator) (families : List Family) (b : TypedCall)
    (mode : Mode) {slots : List ((Operand × SqlType) × Nat)}
    (h : ∀ s ∈ slots, b.slots[s.2]? = some s.1) :
    op.checkFamiliesFrom? families b mode (slots.map (Prod.map Prod.fst id)) =
      some (.firstRefusal (slots.map fun (slot, i) => op.checkFamily families b slot i mode)) := by
  induction slots with
  | nil => rfl
  | cons s slots ih =>
    obtain ⟨slot, i⟩ := s
    rw [List.forall_mem_cons] at h
    have hslot : op.checkFamilyAt? families b slot.1 i mode =
        some (op.checkFamily families b slot i mode) :=
      checkFamilyAt?_of_type op families slot.1 (List.getElem?_zip_eq_some.1 h.1).2 mode
    simp only [List.map_cons, Prod.map_apply, id_eq, checkFamiliesFrom?, hslot, ih h.2,
      Verdict.firstRefusal, Option.bind_eq_bind, Option.bind_some]
    cases (op.checkFamily families b slot i mode).isPass <;> rfl

theorem checkFamiliesAt?_eq_some (op : Operator) (families : List Family) (b : TypedCall)
    (mode : Mode) : op.checkFamiliesAt? families b mode =
      some (op.checkFamilies families b mode) := by
  have hoperands : b.call.operands = b.slots.map Prod.fst := (List.map_fst_zip b.aligned.ge).symm
  have hzip : b.call.operands.zipIdx = b.slots.zipIdx.map (Prod.map Prod.fst id) := by
    rw [hoperands, List.zipIdx_map]
  unfold checkFamiliesAt?
  rw [hzip]
  exact op.checkFamiliesFrom?_eq_some families b mode fun s hs => List.mem_zipIdx_iff_getElem?.1 hs

/-! ## Gates -/

/-- The check by position and its answer have the results of a check on lists, in both modes. -/
structure Reads (op : Operator) (check? : TypedCall → Mode → Option Verdict)
    (check : TypedCall → Mode → Verdict) (b : TypedCall) : Prop where
  verdict (mode : Mode) : check? b mode = some (check b mode)
  answer (mode : Mode) : op.answerAt? check? b mode = some (op.answer check b mode)

/-- An answer reads no more than the check and the refusal for a mismatch. -/
theorem reads_of_verdict {op : Operator} {check? : TypedCall → Mode → Option Verdict}
    {check : TypedCall → Mode → Verdict} {b : TypedCall}
    (h : ∀ mode, check? b mode = some (check b mode)) : op.Reads check? check b := by
  refine ⟨h, fun mode => ?_⟩
  unfold answerAt? answer
  simp only [h, signatureMismatchAt?_eq_some, Option.bind_eq_bind, Option.bind_some]
  cases check b mode <;> cases mode <;> rfl

theorem reads_check (op : Operator) (k : Context) (b : TypedCall) :
    op.Reads (op.checkAt? k) (op.check k) b := by
  refine reads_of_verdict fun mode => ?_
  unfold checkAt? check
  cases op.rule with
  | sameType count => exact op.checkSameTypeAt?_eq_some count b mode
  | literal allowNull => exact op.checkFirstLiteralAt?_eq_some allowNull b mode
  | families families => exact op.checkFamiliesAt?_eq_some families b mode
  | custom r => rfl

theorem validateCallAt?_eq_some (op : Operator) (v : Validator) (scope : Scope) (b : TypedCall) :
    op.validateCallAt? v scope b = some (op.validateCall v scope b) := by
  unfold validateCallAt?
  rw [validateCall_eq]
  split
  · rfl
  · cases op.checkCount b.call with
    | error d => rfl
    | ok _ =>
      rw [(op.reads_check (v.context scope) b).answer, answer_explain]
      cases op.demand (v.context scope) b with
      | error d => rfl
      | ok _ => rfl

/-- On a typed call, whether or not it has as many operands as a rule expects, every read of a check
is within bounds. The same-type rule for any count, the literal rule and the family rule for any
families have their verdicts and their answers in either mode, and so has the operator's own rule;
and the forms of every rule, the refusal for a mismatch and the validation of the call have their
results. (A rule of one's own answers for its own reads.) The family rule on one operand reads out of
bounds exactly if the call has no operand at the given position while the rule has a family for it
that is not `any`, and the operand is no bare NULL; the literal rule on one operand never does. -/
theorem checks_read_within_bounds (op : Operator) (b : TypedCall) :
    (∀ count, op.Reads (op.checkSameTypeAt? count) (op.checkSameType count) b) ∧
    (∀ allowNull, op.Reads (op.checkFirstLiteralAt? allowNull) (op.checkFirstLiteral allowNull) b) ∧
    (∀ families, op.Reads (op.checkFamiliesAt? families) (op.checkFamilies families) b) ∧
    (∀ k, op.Reads (op.checkAt? k) (op.check k) b) ∧
    (∀ (rule : Rule) kind name, rule.signaturesAt? kind name = some (rule.signatures kind name)) ∧
    op.signatureMismatchAt? b = some (op.signatureMismatch b) ∧
    (∀ v scope, op.validateCallAt? v scope b = some (op.validateCall v scope b)) ∧
    (∀ families operand i mode, op.checkFamilyAt? families b operand i mode = none ↔
      b.call.operands.length ≤ i ∧ i < families.length ∧ families[i]? ≠ some .any ∧
        operand.expr.isNull false = false) ∧
    ∀ allowNull operand i mode, op.checkLiteralAt? allowNull operand i mode =
      some (op.checkLiteral allowNull operand i mode) :=
  ⟨fun count => reads_of_verdict (op.checkSameTypeAt?_eq_some count b),
    fun allowNull => reads_of_verdict (op.checkFirstLiteralAt?_eq_some allowNull b),
    fun families => reads_of_verdict (op.checkFamiliesAt?_eq_some families b),
    fun k => op.reads_check k b, fun rule kind name => rule.signaturesAt?_eq_some kind name,
    op.signatureMismatchAt?_eq_some b, fun v scope => op.validateCallAt?_eq_some v scope b,
    fun families => op.checkFamilyAt?_eq_none_iff families b, op.checkLiteralAt?_eq_some⟩

/-- The second of two numbers has no type to read in a call that has only the first. -/
example :
    let families : List Family := [.numeric, .numeric]
    let power : Operator := .make "POWER" .function (.families families) .first
    let amount : Operand := ⟨.column none "amount", .onLine 1 7 12⟩
    let b : TypedCall := ⟨⟨"power", [amount], none, .onLine 1 1 13⟩, [.bigint], rfl⟩
    power.checkFamiliesAt? families b .explain = some .pass ∧
      power.checkFamilyAt? families b amount 1 .explain = none :=
  ⟨rfl, rfl⟩

end Operator

end SqlTyping
