import SqlTyping.Expr.Equality
import SqlTyping.Catalog.Builtin
import SqlTyping.Validator.Basic
import SqlTyping.Operator.Inspect
import SqlTyping.Operator.ByPosition
import SqlTyping.Json.Arity
import SqlTyping.Json.Schema
import SqlTyping.Proofs.Expr.Sites
import SqlTyping.Proofs.Expr.Preorder
import SqlTyping.Proofs.Expr.Correspondence
import SqlTyping.Proofs.Expr.Equality
import SqlTyping.Proofs.Expr.Equivalence
import SqlTyping.Proofs.SqlType.Skeleton
import SqlTyping.Proofs.Catalog.LastRegistered
import SqlTyping.Proofs.Scope
import SqlTyping.Proofs.Scope.VisibleNames
import SqlTyping.Proofs.Scope.BareNames
import SqlTyping.Proofs.Scope.Nullability
import SqlTyping.Proofs.Scope.TableOrder
import SqlTyping.Proofs.Scope.UniqueNames
import SqlTyping.Proofs.Operator.Gates
import SqlTyping.Proofs.Operator.Appearance
import SqlTyping.Proofs.Operator.Skeletons
import SqlTyping.Proofs.Operator.AllPairs
import SqlTyping.Proofs.Operator.Modes
import SqlTyping.Proofs.Operator.TypeLists
import SqlTyping.Proofs.Operator.Coalesce
import SqlTyping.Proofs.Operator.Signatures
import SqlTyping.Proofs.Operator.Bounds
import SqlTyping.Proofs.Validator.Surroundings
import SqlTyping.Proofs.Validator.Walk
import SqlTyping.Proofs.Validator.Acceptance
import SqlTyping.Proofs.Validator.Agreement
import SqlTyping.Proofs.Validator.Probe
import SqlTyping.Proofs.Validator.Nesting
import SqlTyping.Proofs.Validator.Admission
import SqlTyping.Proofs.Validator.Skeletons
import SqlTyping.Proofs.Validator.NormalTypes
import SqlTyping.Proofs.Validator.Blame
import SqlTyping.Proofs.Validator.Lockstep
import SqlTyping.Proofs.Validator.Relaxing
import SqlTyping.Proofs.Validator.Locality
import SqlTyping.Proofs.Validator.LetterCase
import SqlTyping.Proofs.Validator.EqualExpressions
import SqlTyping.Proofs.Json.RoundTrip
