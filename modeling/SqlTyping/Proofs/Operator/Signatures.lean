/-
The text of signatures. A template is read once from left to right, and what stands in its places is
copied without being read, so names and types may hold braces, digits and whole places. What comes
out is the operator between, before or after its operands, or a function applied to them. In the
refusal of a call each operand shows its type in upper case between angle brackets, since no type is
written as the ellipsis.
-/
import SqlTyping.Operator.Signature

namespace SqlTyping

/-! ## Templates in pieces -/

/-- A piece of a template: text, or the place of a value. -/
inductive TemplatePiece where
  | text (s : String)
  | value (index : Nat)

namespace TemplatePiece

/-- The piece as it is written: a place has the digits of its index in braces. -/
def written : TemplatePiece → List Char
  | .text s => s.toList
  | .value i => '\x7b' :: ((toString i).toList ++ ['\x7d'])

/-- What the piece becomes: a place becomes its value, or stays if there is none. -/
def filled (values : List String) : TemplatePiece → List Char
  | .text s => s.toList
  | .value i => (values[i]?.map String.toList).getD (written (.value i))

/-- Text in which no place is opened. -/
def Plain : TemplatePiece → Prop
  | .text s => '\x7b' ∉ s.toList
  | .value _ => True

end TemplatePiece

namespace Template

open TemplatePiece

variable (values : List String)

/-- The digits of a number are read as that number. -/
theorem index?_toString (i : Nat) : index? (toString i).toList = some i := by
  rw [Nat.toString_eq_repr, Nat.toList_repr]
  have hdigits : ∀ c ∈ Nat.toDigits 10 i, c.isDigit = true := fun c hc =>
    Nat.isDigit_of_mem_toDigits (by omega) (by omega) hc
  have hnumber : number? (Nat.toDigits 10 i) = some i := by
    rw [number?, if_pos ⟨Nat.toDigits_ne_nil, List.all_eq_true.2 hdigits⟩,
      Nat.ofDigitChars_toDigits (by omega) (by omega)]
  cases hcs : Nat.toDigits 10 i with
  | nil => exact absurd hcs Nat.toDigits_ne_nil
  | cons c cs =>
    have hplus : c ≠ '+' := by
      rintro rfl
      exact absurd (hdigits '+' (by simp [hcs])) (by decide)
    rw [← hcs, index?]
    · exact hnumber
    · intro digits h
      rw [hcs] at h
      exact hplus (List.cons.inj h).1

/-- Text is copied up to the first place. -/
theorem scan_text {text : List Char} (h : '\x7b' ∉ text) (rest : List Char) :
    scan values none (text ++ rest) = text ++ scan values none rest := by
  induction text with
  | nil => rfl
  | cons c text ih =>
    simp only [List.mem_cons, not_or] at h
    rw [List.cons_append, scan, if_neg (Ne.symm h.1), ih h.2, List.cons_append]

/-- A place is read up to the first closing brace. -/
theorem scan_inside {text : List Char} (h : '\x7d' ∉ text) (inside rest : List Char) :
    scan values (some inside) (text ++ '\x7d' :: rest) =
      atPlace values (inside ++ text) ++ scan values none rest := by
  induction text generalizing inside with
  | nil => rw [List.nil_append, scan, if_pos rfl, List.append_nil]
  | cons c text ih =>
    simp only [List.mem_cons, not_or] at h
    rw [List.cons_append, scan, if_neg (Ne.symm h.1), ih h.2, List.append_assoc,
      List.singleton_append]

/-- One piece is filled, and the scan goes on behind it. -/
theorem scan_piece {p : TemplatePiece} (h : p.Plain) (rest : List Char) :
    scan values none (p.written ++ rest) = p.filled values ++ scan values none rest := by
  cases p with
  | text s => exact scan_text values h rest
  | value i =>
    have hclosed : '\x7d' ∉ (toString i).toList := by
      rw [Nat.toString_eq_repr, Nat.toList_repr]
      intro hmem
      exact absurd (Nat.isDigit_of_mem_toDigits (by omega) (by omega) hmem) (by decide)
    have hplace : atPlace values (toString i).toList = filled values (.value i) := by
      simp only [atPlace, filled, index?_toString, Option.bind_some]
      cases values[i]? <;> rfl
    rw [written, List.cons_append, scan, if_pos rfl, List.append_assoc, List.singleton_append,
      scan_inside values hclosed, List.nil_append, hplace]

/-- A template is filled piece by piece: each value is put in as it is, whatever it looks like. -/
theorem toList_fill {t : Template} {pieces : List TemplatePiece}
    (ht : t.source.toList = pieces.flatMap written) (hplain : ∀ p ∈ pieces, p.Plain) :
    (t.fill values).toList = pieces.flatMap (filled values) := by
  rw [fill, ht, String.toList_ofList]
  clear ht
  induction pieces with
  | nil => rfl
  | cons p pieces ih =>
    rw [List.forall_mem_cons] at hplain
    rw [List.flatMap_cons, List.flatMap_cons, scan_piece values hplain.1, ih hplain.2]

end Template

/-! ## Signatures -/

/-- The form of a call in a signature: the operator stands between its two operands, before or after
its only one, or as a function in front of all of them. -/
def Kind.written (kind : Kind) (name : String) (operands : List String) : String :=
  match kind, operands with
  | .binary, [a, b] => a ++ " " ++ name ++ " " ++ b
  | .prefixed, [a] => name ++ a
  | .postfixed, [a] => a ++ " " ++ name
  | _, operands => name ++ "(" ++ ", ".intercalate operands ++ ")"

namespace Kind

/-- A signature that is written by a template is the text of its filled pieces. -/
theorem signature_of_pieces {kind : Kind} {name : String} {types : List String} {t : Template}
    (pieces : List TemplatePiece) (htemplate : kind.template? types.length = some t)
    (ht : t.source.toList = pieces.flatMap TemplatePiece.written) (hplain : ∀ p ∈ pieces, p.Plain)
    {text : String}
    (htext : pieces.flatMap (TemplatePiece.filled (name :: types.map placeholder)) = text.toList) :
    kind.signature name types = text := by
  simp only [signature, htemplate]
  exact String.toList_inj.1 ((Template.toList_fill _ ht hplain).trans htext)

/-- A signature is the form of the call with the operands in it. -/
theorem signature_eq_written (kind : Kind) (name : String) (types : List String) :
    kind.signature name types = kind.written name (types.map placeholder) := by
  cases kind with
  | function => rfl
  | aggregate quantifierAllowed => rfl
  | binary =>
    rcases types with _ | ⟨t, _ | ⟨u, _ | ⟨v, rest⟩⟩⟩
    · rfl
    · rfl
    · refine signature_of_pieces [.value 1, .text " ", .value 0, .text " ", .value 2] rfl rfl ?_ ?_
      · simp [TemplatePiece.Plain]
      · simp [TemplatePiece.filled, written]
    · rfl
  | prefixed =>
    rcases types with _ | ⟨t, _ | ⟨u, rest⟩⟩
    · rfl
    · refine signature_of_pieces [.value 0, .value 1] rfl rfl ?_ ?_
      · simp [TemplatePiece.Plain]
      · simp [TemplatePiece.filled, written]
    · rfl
  | postfixed =>
    rcases types with _ | ⟨t, _ | ⟨u, rest⟩⟩
    · rfl
    · refine signature_of_pieces [.value 1, .text " ", .value 0] rfl rfl ?_ ?_
      · simp [TemplatePiece.Plain]
      · simp [TemplatePiece.filled, written]
    · rfl

end Kind

/-! ## Types in signatures -/

theorem append_ne_ellipsis {s t : String} {c : Char} (ht : t.toList.getLast? = some c)
    (hc : c ≠ '.') : s ++ t ≠ ellipsis := by
  intro h
  have hlast := congrArg (·.toList.getLast?) h
  simp only [String.toList_append, List.getLast?_append, ht, Option.some_or] at hlast
  exact hc (Option.some.inj hlast)

theorem Scalar.toText_ne_ellipsis (s : Scalar) : s.toText ≠ ellipsis := by
  cases s with
  | signed width => cases width <;> decide
  | unsigned width => exact append_ne_ellipsis rfl (by decide)
  | decimal precision scale =>
    cases precision with
    | none =>
      show "DECIMAL" ≠ ellipsis
      decide
    | some p =>
      cases scale with
      | none => exact append_ne_ellipsis rfl (by decide)
      | some s => exact append_ne_ellipsis rfl (by decide)
  | _ => decide

/-- No type is written as the ellipsis: its text ends in a letter, a bracket or a parenthesis. -/
theorem SqlType.toText_ne_ellipsis (t : SqlType) : t.toText ≠ ellipsis := by
  cases t with
  | scalar s => exact s.toText_ne_ellipsis
  | array t size =>
    cases size with
    | none => exact append_ne_ellipsis rfl (by decide)
    | some n => exact append_ne_ellipsis rfl (by decide)
  | list t => exact append_ne_ellipsis rfl (by decide)
  | map k v => exact append_ne_ellipsis rfl (by decide)
  | struct fields => exact append_ne_ellipsis rfl (by decide)
  | nullable t => exact append_ne_ellipsis rfl (by decide)
  | null => decide

theorem placeholder_toText (t : SqlType) :
    placeholder t.toText = "<" ++ Text.upper t.toText ++ ">" :=
  if_neg t.toText_ne_ellipsis

namespace Operator

/-- The signature of an operator under any name, applied to types of any texts, is the name between,
before or after the operands, or in front of all of them as a function. An operand is its type in
upper case between angle brackets, or the ellipsis as it is; names and types stand in the signature
unchanged otherwise, even if they look like places of a template. No type is written as the
ellipsis, so the refusal of a call shows each operand by its type, in upper case and between angle
brackets. -/
theorem signature_inserts_text_once (op : Operator) :
    (∀ name types, op.kind.signature name types = op.kind.written name
      (types.map fun t => if t = "..." then t else "<" ++ Text.upper t ++ ">")) ∧
    (∀ type : SqlType, type.toText ≠ "...") ∧
    ∀ b : TypedCall, op.signatureMismatch b = .signatureMismatch op.name
      ("'" ++ op.kind.written op.name (b.types.map fun t => "<" ++ Text.upper t.toText ++ ">") ++
        "'")
      ("'" ++ op.signatures ++ "'") b.call.span := by
  refine ⟨op.kind.signature_eq_written, SqlType.toText_ne_ellipsis, fun b => ?_⟩
  have htypes : (b.types.map (·.toText)).map placeholder =
      b.types.map fun t => "<" ++ Text.upper t.toText ++ ">" := by
    rw [List.map_map]
    exact List.map_congr_left fun t _ => placeholder_toText t
  rw [signatureMismatch, Kind.signature_eq_written, htypes]

end Operator

/-- A name and types that look like places of the template are put in as they are. -/
example : Kind.binary.signature "\x7b1\x7d" ["\x7b0\x7d", "a\x7b2"] =
    "<\x7b0\x7d> \x7b1\x7d <A\x7b2>" := by
  decide

end SqlTyping
