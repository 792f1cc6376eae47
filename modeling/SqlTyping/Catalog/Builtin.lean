/-
The operators that are there from the start: comparisons, sign, null test, functions of values of
one type, functions of a literal precision, and aggregates.
-/
import SqlTyping.Catalog.Basic

namespace SqlTyping.Catalog

/-- The comparisons, the sign and the null test. -/
def symbols : List Operator :=
  ["=", "<>", "<", "<=", ">", ">="].map (Operator.make · .binary (.sameType (some 2)) .boolean) ++
  [.make "-" .prefixed (.families [.numeric]) .first,
   .make "IS NULL" .postfixed (.families [.any]) (.fixed .boolean)]

/-- The functions of single values. -/
def functions : List Operator :=
  ["COALESCE", "GREATEST", "LEAST"].map
    (Operator.make · .function (.sameType none) .coalesce) ++
  [.make "NULLIF" .function (.sameType (some 2)) .firstOrNull,
   .make "ABS" .function (.families [.numeric]) .first,
   .make "CURRENT_TIME" .function (.literal false) (.fixed (.scalar .time)),
   .make "CURRENT_TIMESTAMP" .function (.literal false) (.fixed (.scalar .timestamp))]

/-- The functions of sets of rows. -/
def aggregates : List Operator :=
  [.make "COUNT" (.aggregate true) (.families [.any]) (.fixed .bigint),
   .make "SUM" (.aggregate true) (.families [.numeric]) .firstOrNull,
   .make "AVG" (.aggregate true) (.families [.numeric]) (.fixed (.nullable .double)),
   .make "MIN" (.aggregate true) (.sameType (some 1)) .firstOrNull,
   .make "MAX" (.aggregate true) (.sameType (some 1)) .firstOrNull,
   .make "ANY_VALUE" (.aggregate false) (.sameType (some 1)) .firstOrNull]

/-- The catalog of the operators that are there from the start. -/
def builtin : Catalog :=
  empty.registerAll (symbols ++ functions ++ aggregates)

end SqlTyping.Catalog
