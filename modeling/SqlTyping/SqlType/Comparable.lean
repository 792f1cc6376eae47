/-
Comparability of types: whether values of two types can be compared directly. Nullability is
ignored, NULL compares with everything, collections compare by their elements, maps and structs
part by part, and scalars within a family.

The skeleton of a type keeps what comparability looks at: families of scalars and the shape of
collections, maps and structs, without nullability, sizes, field names and widths.
-/
import SqlTyping.SqlType.Basic

namespace SqlTyping

namespace SqlType

mutual

/-- Values of the two types can be compared directly. -/
def comparable : SqlType → SqlType → Bool
  | .nullable t, u => t.comparable u
  | .null, _ => true
  | .scalar s, u =>
    match u.base with
    | .null => true
    | .scalar s' => s.family == s'.family
    | _ => false
  | .array t _, u | .list t, u =>
    match u.base with
    | .null => true
    | .array t' _ | .list t' => t.comparable t'
    | _ => false
  | .map k v, u =>
    match u.base with
    | .null => true
    | .map k' v' => k.comparable k' && v.comparable v'
    | _ => false
  | .struct fields, u =>
    match u.base with
    | .null => true
    | .struct fields' => comparableFields fields fields'
    | _ => false
termination_by structural t => t

/-- The two field lists are equally long and comparable type by type; names do not matter. -/
def comparableFields : List (String × SqlType) → List (String × SqlType) → Bool
  | [], [] => true
  | (_, t) :: fields, (_, t') :: fields' => t.comparable t' && comparableFields fields fields'
  | _, _ => false
termination_by structural fields => fields

end

end SqlType

/-! ## Skeletons -/

/-- What comparability sees of a type. -/
inductive Skeleton where
  | scalar (family : Family)
  | collection (element : Skeleton)
  | map (key value : Skeleton)
  | struct (fields : List Skeleton)
  | null

namespace SqlType

mutual

/-- The skeleton of a type. -/
def skeleton : SqlType → Skeleton
  | .scalar s => .scalar s.family
  | .array t _ | .list t => .collection t.skeleton
  | .map k v => .map k.skeleton v.skeleton
  | .struct fields => .struct (fieldSkeletons fields)
  | .nullable t => t.skeleton
  | .null => .null
termination_by structural t => t

/-- The skeletons of the field types, in order. -/
def fieldSkeletons : List (String × SqlType) → List Skeleton
  | [] => []
  | (_, t) :: fields => t.skeleton :: fieldSkeletons fields
termination_by structural fields => fields

end

mutual

/-- The type of NULL occurs at no level of the type. -/
def nullFree : SqlType → Bool
  | .scalar _ => true
  | .array t _ | .list t | .nullable t => t.nullFree
  | .map k v => k.nullFree && v.nullFree
  | .struct fields => nullFreeFields fields
  | .null => false
termination_by structural t => t

/-- Every field type is free of the type of NULL. -/
def nullFreeFields : List (String × SqlType) → Bool
  | [] => true
  | (_, t) :: fields => t.nullFree && nullFreeFields fields
termination_by structural fields => fields

end

mutual

/-- At no level does nullability stand directly on a type that admits NULL already. -/
def normal : SqlType → Bool
  | .scalar _ | .null => true
  | .array t _ | .list t => t.normal
  | .map k v => k.normal && v.normal
  | .struct fields => normalFields fields
  | .nullable t => !t.isNullable && t.normal
termination_by structural t => t

/-- Every field type is normal. -/
def normalFields : List (String × SqlType) → Bool
  | [] => true
  | (_, t) :: fields => t.normal && normalFields fields
termination_by structural fields => fields

end

end SqlType

end SqlTyping
