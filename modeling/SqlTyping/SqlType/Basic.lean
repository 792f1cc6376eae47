/-
SQL types. A type is a scalar, a collection, a map, a struct, a type that also admits NULL, or the
type of the NULL literal. The operations here look through nullability: `base` strips it, `family`
and `contains` ignore it, and `orNull` adds it once.
-/
import SqlTyping.Family

namespace SqlTyping

/-- Width of an integer type, from one byte to sixteen. -/
inductive IntWidth where
  | tiny
  | small
  | medium
  | big
  | huge
  deriving DecidableEq

/-- A type whose values have no parts. -/
inductive Scalar where
  | boolean
  | signed (width : IntWidth)
  | unsigned (width : IntWidth)
  | real
  | double
  | decimal (precision scale : Option Nat)
  | string
  | text
  | date
  | time
  | timestamp
  | interval
  | uuid
  | bytes
  | json
  deriving DecidableEq

/-- An SQL type. -/
inductive SqlType where
  | scalar (s : Scalar)
  | array (element : SqlType) (size : Option Nat)
  | list (element : SqlType)
  | map (key value : SqlType)
  | struct (fields : List (String × SqlType))
  | nullable (inner : SqlType)
  | null

/-- Family of a scalar. -/
def Scalar.family : Scalar → Family
  | .boolean => .boolean
  | .signed _ | .unsigned _ | .real | .double | .decimal _ _ => .numeric
  | .string | .text => .character
  | .bytes => .binary
  | .date => .date
  | .time => .time
  | .timestamp => .timestamp
  | .interval => .interval
  | .uuid => .uuid
  | .json => .json

namespace SqlType

/-! ## Induction through struct fields -/

/-- Induction on a type, with one hypothesis per struct field. -/
@[elab_as_elim, induction_eliminator]
theorem induct {motive : SqlType → Prop}
    (scalar : ∀ s, motive (.scalar s))
    (array : ∀ t size, motive t → motive (.array t size))
    (list : ∀ t, motive t → motive (.list t))
    (map : ∀ k v, motive k → motive v → motive (.map k v))
    (struct : ∀ fields, (∀ f ∈ fields, motive f.2) → motive (.struct fields))
    (nullable : ∀ t, motive t → motive (.nullable t))
    (null : motive .null) (t : SqlType) : motive t :=
  @SqlType.rec motive (fun fields => ∀ f ∈ fields, motive f.2) (fun f => motive f.2)
    scalar array list map struct nullable null
    (fun _ h => nomatch h)
    (fun _ _ hf hfs g hg => by
      rcases List.mem_cons.1 hg with rfl | hg
      · exact hf
      · exact hfs g hg)
    (fun _ _ h => h) t

/-! ## Equality -/

mutual

/-- Structural equality of types. -/
def beq : SqlType → SqlType → Bool
  | .scalar s, .scalar t => s == t
  | .array a m, .array b n => a.beq b && m == n
  | .list a, .list b => a.beq b
  | .map k v, .map l w => k.beq l && v.beq w
  | .struct fs, .struct gs => beqFields fs gs
  | .nullable a, .nullable b => a.beq b
  | .null, .null => true
  | _, _ => false
termination_by structural t => t

/-- Structural equality of field lists: the same names with the same types, in the same order. -/
def beqFields : List (String × SqlType) → List (String × SqlType) → Bool
  | [], [] => true
  | (n, a) :: fs, (m, b) :: gs => n == m && a.beq b && beqFields fs gs
  | _, _ => false
termination_by structural fs => fs

end

theorem beqFields_iff {fs : List (String × SqlType)}
    (h : ∀ f ∈ fs, ∀ b, f.2.beq b = true ↔ f.2 = b) (gs : List (String × SqlType)) :
    beqFields fs gs = true ↔ fs = gs := by
  induction fs generalizing gs with
  | nil => cases gs <;> simp [beqFields]
  | cons f fs ih =>
    obtain ⟨n, a⟩ := f
    cases gs with
    | nil => simp [beqFields]
    | cons g gs =>
      obtain ⟨m, b⟩ := g
      have ha := h (n, a) (by simp) b
      have hfs := ih (fun f hf => h f (List.mem_cons_of_mem _ hf)) gs
      simp only at ha
      simp [beqFields, ha, hfs]

theorem beq_iff (a b : SqlType) : a.beq b = true ↔ a = b := by
  induction a generalizing b with
  | scalar s => cases b <;> simp [beq]
  | array t n ih => cases b <;> simp [beq, ih]
  | list t ih => cases b <;> simp [beq, ih]
  | map k v ihk ihv => cases b <;> simp [beq, ihk, ihv]
  | struct fs ih => cases b <;> simp [beq, beqFields_iff ih]
  | nullable t ih => cases b <;> simp [beq, ih]
  | null => cases b <;> simp [beq]

instance : DecidableEq SqlType := fun a b =>
  decidable_of_iff (a.beq b = true) (beq_iff a b)

/-! ## Common types -/

/-- The type of truth values. -/
abbrev boolean : SqlType := .scalar .boolean

/-- The type of character literals. -/
abbrev text : SqlType := .scalar .text

/-- The type of integer literals. -/
abbrev bigint : SqlType := .scalar (.signed .big)

/-- The type of floating-point literals. -/
abbrev double : SqlType := .scalar .double

/-! ## Nullability -/

/-- The type without its outer nullability. -/
def base : SqlType → SqlType
  | .nullable t => t.base
  | t => t

/-- Values of the type may be NULL. -/
def isNullable : SqlType → Bool
  | .nullable _ | .null => true
  | _ => false

/-- The type that also admits NULL; a type that does so already stays as it is. -/
def orNull (t : SqlType) : SqlType :=
  if t.isNullable then t else .nullable t

@[simp] theorem isNullable_orNull (t : SqlType) : t.orNull.isNullable = true := by
  unfold orNull
  split
  · assumption
  · rfl

theorem orNull_of_isNullable {t : SqlType} (h : t.isNullable = true) : t.orNull = t := by
  unfold orNull; rw [if_pos h]

@[simp] theorem orNull_orNull (t : SqlType) : t.orNull.orNull = t.orNull :=
  orNull_of_isNullable (isNullable_orNull t)

@[simp] theorem base_orNull (t : SqlType) : t.orNull.base = t.base := by
  unfold orNull
  split
  · rfl
  · rfl

/-! ## Families -/

/-- Family of the type, nullability aside. -/
def family : SqlType → Family
  | .nullable t => t.family
  | .scalar s => s.family
  | .array _ _ | .list _ => .collection
  | .map _ _ => .map
  | .struct _ => .struct
  | .null => .null

@[simp] theorem family_orNull (t : SqlType) : t.orNull.family = t.family := by
  unfold orNull
  split
  · rfl
  · rfl

/-- The type is an integer, floating-point or decimal type. -/
def isNumeric (t : SqlType) : Bool :=
  t.family == .numeric

end SqlType

/-- The type belongs to the family; every type belongs to `any`. -/
def Family.contains : Family → SqlType → Bool
  | .any, _ => true
  | f, t => t.family == f

end SqlTyping
