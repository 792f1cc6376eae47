/-
The JSON forms of types, families, arities, columns, tables and settings lose nothing: a value whose
numbers are within their widths is read back from its form, so two such values never have one form.
Reading is wider than writing. A variant without data may be an object with null, a record an array,
members may be missing or too many; but what is read is within its widths, whatever form it was read
from, and so it is read again from the form that it is written in.
-/
import SqlTyping.Json.Arity
import SqlTyping.Json.Family
import SqlTyping.Json.Schema

namespace SqlTyping

namespace Json

/-! ## Reading and writing -/

/-- What is written can be read, for the values that fit. -/
structure RoundTrips {α : Type} (write : α → Json) (read : Json → Option α) (Fits : α → Prop) :
    Prop where
  /-- A value that fits is read from the form it is written in. -/
  read_write : ∀ x, Fits x → read (write x) = some x
  /-- Values that fit have one form only if they are equal. -/
  write_injective : ∀ x y, Fits x → Fits y → write x = write y → x = y
  /-- What is read, from whatever form, fits, and is read again from the form it is written in. -/
  read_again : ∀ j x, read j = some x → Fits x ∧ read (write x) = some x

theorem RoundTrips.of_reads {α : Type} {write : α → Json} {read : Json → Option α}
    {Fits : α → Prop} (hread : ∀ x, Fits x → read (write x) = some x)
    (hfits : ∀ j x, read j = some x → Fits x) : RoundTrips write read Fits where
  read_write := hread
  write_injective x y hx hy h := by
    have hxy : some x = some y := by rw [← hread x hx, h, hread y hy]
    exact Option.some.inj hxy
  read_again j x h := ⟨hfits j x h, hread x (hfits j x h)⟩

/-! ## Numbers -/

/-- The number, if there is one, has at most so many bits. -/
def fitsIn (bits : Nat) (n? : Option Nat) : Bool :=
  n?.all (· < Nat.pow 2 bits)

theorem nat?_eq_some {bits n : Nat} {j : Json} :
    j.nat? bits = some n ↔ j = .ofNat n ∧ fitsIn bits (some n) = true := by
  have hpow : Int.pow 2 bits = (Nat.pow 2 bits : Nat) := (Int.natCast_pow 2 bits).symm
  simp only [fitsIn, Option.all_some, decide_eq_true_eq]
  cases j with
  | int k =>
    simp only [nat?, ofNat, hpow, Json.int.injEq]
    split
    · simp only [Option.some.injEq]; omega
    · simp only [reduceCtorEq, false_iff]; omega
  | _ => simp [nat?, ofNat]

theorem optional_nat?_eq_some {bits : Nat} {n? : Option Nat} {j : Json} :
    j.optional (·.nat? bits) = some n? ↔ j = .ofNat? n? ∧ fitsIn bits n? = true := by
  cases n? with
  | none =>
    cases j with
    | null => simp [optional, ofNat?, fitsIn]
    | _ => simp [optional, ofNat?]
  | some n =>
    rw [ofNat?, ← nat?_eq_some]
    cases j with
    | null => simp [optional, nat?]
    | _ => simp [optional]

theorem nat?_ofNat {bits n : Nat} (h : fitsIn bits (some n) = true) :
    (ofNat n).nat? bits = some n :=
  nat?_eq_some.2 ⟨rfl, h⟩

theorem optional_ofNat? {bits : Nat} {n? : Option Nat} (h : fitsIn bits n? = true) :
    (ofNat? n?).optional (·.nat? bits) = some n? :=
  optional_nat?_eq_some.2 ⟨rfl, h⟩

/-! ## Arrays -/

variable {α : Type} {write : α → Json} {read : Json → Option α}

theorem mapM_write {xs : List α} (h : ∀ x ∈ xs, read (write x) = some x) :
    (xs.map write).mapM read = some xs := by
  induction xs with
  | nil => rfl
  | cons x xs ih =>
    rw [List.forall_mem_cons] at h
    rw [List.map_cons, List.mapM_cons, h.1, ih h.2]
    rfl

theorem forall_of_mapM {P : α → Prop} (hread : ∀ j x, read j = some x → P x) {js : List Json}
    {xs : List α} (h : js.mapM read = some xs) : ∀ x ∈ xs, P x := by
  induction js generalizing xs with
  | nil => cases h; exact fun _ h => nomatch h
  | cons j js ih =>
    rw [List.mapM_cons] at h
    obtain ⟨x, hx, h⟩ := Option.bind_eq_some_iff.1 h
    obtain ⟨xs', hxs, h⟩ := Option.bind_eq_some_iff.1 h
    cases h
    exact List.forall_mem_cons.2 ⟨hread j x hx, ih hxs⟩

end Json

open Json

/-! ## Types -/

namespace SqlType

mutual

/-- Precisions and scales have at most 32 bits, and sizes at most 64. -/
def fits : SqlType → Bool
  | .scalar (.decimal p s) => fitsIn 32 p && fitsIn 32 s
  | .scalar _ | .null => true
  | .array t size => t.fits && fitsIn 64 size
  | .list t | .nullable t => t.fits
  | .map k v => k.fits && v.fits
  | .struct fields => fieldsFit fields
termination_by structural t => t

/-- The types of all fields fit. -/
def fieldsFit : List (String × SqlType) → Bool
  | [] => true
  | (_, t) :: fields => t.fits && fieldsFit fields
termination_by structural fields => fields

end

theorem fieldsFit_iff {fields : List (String × SqlType)} :
    fieldsFit fields = true ↔ ∀ f ∈ fields, f.2.fits = true := by
  induction fields with
  | nil => simp [fieldsFit]
  | cons f fields ih => rw [fieldsFit, Bool.and_eq_true, ih, List.forall_mem_cons]

theorem toJson_ne_null (t : SqlType) : t.toJson ≠ .null := by
  cases t with
  | scalar s => cases s <;> simp [toJson]
  | _ => simp [toJson]

theorem ofTag?_tag {s : Scalar} (h : s ∈ Scalar.plain) : ofTag? s.tag = some (.scalar s) := by
  revert s
  decide

theorem fits_of_ofTag? {tag : String} {t : SqlType} (h : ofTag? tag = some t) : t.fits = true := by
  have hplain : ∀ s ∈ Scalar.plain, (SqlType.scalar s).fits = true := by decide
  unfold ofTag? at h
  split at h
  · cases h; rfl
  · obtain ⟨s, hs, rfl⟩ := Option.map_eq_some_iff.1 h
    exact hplain s (List.mem_of_find?_eq_some hs)

theorem fieldsOfJson?_fieldsToJson {fields : List (String × SqlType)}
    (h : ∀ f ∈ fields, ofJson? f.2.toJson = some f.2) :
    fieldsOfJson? (fieldsToJson fields) = some fields := by
  induction fields with
  | nil => rfl
  | cons f fields ih =>
    rw [List.forall_mem_cons] at h
    rw [fieldsToJson, fieldsOfJson?, h.1, ih h.2]
    rfl

theorem ofJson?_toJson (t : SqlType) (h : t.fits = true) : ofJson? t.toJson = some t := by
  induction t with
  | scalar s =>
    cases s with
    | decimal p s =>
      rw [fits, Bool.and_eq_true] at h
      rw [toJson, ofJson?, optional_ofNat? h.1, optional_ofNat? h.2]
      rfl
    | signed w => cases w <;> exact ofTag?_tag (by decide)
    | unsigned w => cases w <;> exact ofTag?_tag (by decide)
    | _ => exact ofTag?_tag (by decide)
  | array t size ih =>
    rw [fits, Bool.and_eq_true] at h
    rw [toJson, ofJson?, ih h.1, optional_ofNat? h.2]
    rfl
  | list t ih =>
    rw [toJson, ofJson?, ih h]
    · rfl
    · exact toJson_ne_null t
  | map k v ihk ihv =>
    rw [fits, Bool.and_eq_true] at h
    rw [toJson, ofJson?, ihk h.1, ihv h.2]
    rfl
  | struct fields ih =>
    rw [fits, fieldsFit_iff] at h
    rw [toJson, ofJson?, fieldsOfJson?_fieldsToJson fun f hf => ih f hf (h f hf)]
    rfl
  | nullable t ih =>
    rw [toJson, ofJson?, ih h]
    · rfl
    · exact toJson_ne_null t
  | null => rfl

/-- A type that is read fits, whatever form it is read from, and so do the fields that are read. -/
theorem fits_of_reads :
    (∀ j t, ofJson? j = some t → t.fits = true) ∧
    ∀ js fields, fieldsOfJson? js = some fields → fieldsFit fields = true := by
  -- the reader's own recursion; a form that it refuses has no type
  refine ofJson?.mutual_induct
    (fun j => ∀ t, ofJson? j = some t → t.fits = true)
    (fun js => ∀ fields, fieldsOfJson? js = some fields → fieldsFit fields = true)
    ?tag ?tagOfNull ?decimal ?array ?list ?map ?struct ?nullable ?other ?nil ?cons ?otherFields
  case tag => exact fun tag t h => fits_of_ofTag? h
  case tagOfNull => exact fun tag t h => fits_of_ofTag? h
  case decimal =>
    intro p s t h
    rw [ofJson?] at h
    obtain ⟨p?, hp, h⟩ := Option.bind_eq_some_iff.1 h
    obtain ⟨s?, hs, h⟩ := Option.bind_eq_some_iff.1 h
    cases h
    rw [fits, (optional_nat?_eq_some.1 hp).2, (optional_nat?_eq_some.1 hs).2]
    rfl
  case array =>
    intro j size ih t h
    rw [ofJson?] at h
    obtain ⟨u, hu, h⟩ := Option.bind_eq_some_iff.1 h
    obtain ⟨size?, hsize, h⟩ := Option.bind_eq_some_iff.1 h
    cases h
    rw [fits, ih u hu, (optional_nat?_eq_some.1 hsize).2]
    rfl
  case list =>
    intro j hj ih t h
    rw [ofJson?] at h
    · obtain ⟨u, hu, h⟩ := Option.bind_eq_some_iff.1 h
      cases h
      exact ih u hu
    · exact hj
  case map =>
    intro jk jv ihk ihv t h
    rw [ofJson?] at h
    obtain ⟨k, hk, h⟩ := Option.bind_eq_some_iff.1 h
    obtain ⟨v, hv, h⟩ := Option.bind_eq_some_iff.1 h
    cases h
    rw [fits, ihk k hk, ihv v hv]
    rfl
  case struct =>
    intro js ih t h
    rw [ofJson?] at h
    obtain ⟨fields, hfields, h⟩ := Option.bind_eq_some_iff.1 h
    cases h
    exact ih fields hfields
  case nullable =>
    intro j hj ih t h
    rw [ofJson?] at h
    · obtain ⟨u, hu, h⟩ := Option.bind_eq_some_iff.1 h
      cases h
      exact ih u hu
    · exact hj
  case other =>
    intro j _ _ _ _ _ _ _ _ t h
    rw [ofJson?] at h <;> first | assumption | cases h
  case nil =>
    intro fields h
    cases h
    rfl
  case cons =>
    intro name j js ihj ihjs fields h
    rw [fieldsOfJson?] at h
    obtain ⟨t, ht, h⟩ := Option.bind_eq_some_iff.1 h
    obtain ⟨rest, hrest, h⟩ := Option.bind_eq_some_iff.1 h
    cases h
    rw [fieldsFit, ihj t ht, ihjs rest hrest]
    rfl
  case otherFields =>
    intro js _ _ fields h
    rw [fieldsOfJson?] at h <;> first | assumption | cases h

end SqlType

theorem Family.roundTrips : RoundTrips Family.toJson Family.ofJson? fun _ => True :=
  .of_reads (fun f _ => f.ofJson?_toJson) fun _ _ _ => trivial

theorem SqlType.roundTrips : RoundTrips SqlType.toJson SqlType.ofJson? (·.fits = true) :=
  .of_reads SqlType.ofJson?_toJson SqlType.fits_of_reads.1

/-! ## Arities -/

namespace Arity

/-- Counts have at most 64 bits. -/
def fits : Arity → Bool
  | .exactly n => fitsIn 64 (some n)
  | .range least most => fitsIn 64 (some least) && fitsIn 64 most
  | .any => true

/-- A range is read from the bounds that are given; a greatest count may be missing. -/
theorem ofJson?_range {bounds : List (String × Json)} {a : Arity} :
    ofJson? (.obj [("Range", .obj bounds)]) = some a ↔
      ∃ j least most, bounds.lookup "min" = some j ∧ j.nat? 64 = some least ∧
        ((bounds.lookup "max").getD .null).optional (·.nat? 64) = some most ∧
        .range least most = a := by
  rw [ofJson?]
  simp only [Option.bind_eq_bind, Option.bind_eq_some_iff, Option.pure_def, Option.some.injEq]
  constructor
  · rintro ⟨j, hj, least, hleast, most, hmost, h⟩
    exact ⟨j, least, most, hj, hleast, hmost, h⟩
  · rintro ⟨j, least, most, hj, hleast, hmost, h⟩
    exact ⟨j, hj, least, hleast, most, hmost, h⟩

theorem roundTrips : RoundTrips toJson ofJson? (·.fits = true) := by
  refine .of_reads (fun a h => ?_) fun j a h => ?_
  · cases a with
    | exactly n =>
      simp only [toJson, ofJson?, nat?_ofNat h]
      rfl
    | range least most =>
      rw [fits, Bool.and_eq_true] at h
      exact ofJson?_range.2
        ⟨ofNat least, least, most, rfl, nat?_ofNat h.1, optional_ofNat? h.2, rfl⟩
    | any => rfl
  · unfold ofJson? at h
    split at h
    · obtain ⟨n, hn, rfl⟩ := Option.map_eq_some_iff.1 h
      exact (nat?_eq_some.1 hn).2
    · obtain ⟨_, least, most, _, hleast, hmost, rfl⟩ := ofJson?_range.1 h
      rw [fits, (nat?_eq_some.1 hleast).2, (optional_nat?_eq_some.1 hmost).2]
      rfl
    · split at h
      · cases h; rfl
      · cases h

end Arity

/-! ## Columns and tables -/

namespace Column

/-- The type of the column fits. -/
def fits (c : Column) : Bool :=
  c.type.fits

theorem ofFields?_toJson {c : Column} (h : c.fits = true) :
    ofFields? (.str c.name) c.type.toJson (.bool c.nullable) = some c := by
  simp only [ofFields?, SqlType.ofJson?_toJson c.type h, str?, bool?, Option.bind_eq_bind,
    Option.bind_some]
  rfl

theorem fits_of_ofFields? {name type nullable : Json} {c : Column}
    (h : ofFields? name type nullable = some c) : c.fits = true := by
  obtain ⟨n, _, h⟩ := Option.bind_eq_some_iff.1 h
  obtain ⟨t, ht, h⟩ := Option.bind_eq_some_iff.1 h
  obtain ⟨b, _, h⟩ := Option.bind_eq_some_iff.1 h
  cases h
  exact SqlType.fits_of_reads.1 type t ht

theorem roundTrips : RoundTrips toJson ofJson? (·.fits = true) := by
  refine .of_reads (fun c h => ofFields?_toJson h) fun j c h => ?_
  unfold ofJson? at h
  split at h
  · obtain ⟨name, _, h⟩ := Option.bind_eq_some_iff.1 h
    obtain ⟨type, _, h⟩ := Option.bind_eq_some_iff.1 h
    obtain ⟨nullable, _, h⟩ := Option.bind_eq_some_iff.1 h
    exact fits_of_ofFields? h
  · exact fits_of_ofFields? h
  · cases h

end Column

namespace Table

/-- The types of all columns fit. -/
def fits (t : Table) : Bool :=
  t.columns.all (·.fits)

theorem ofFields?_toJson {t : Table} (h : t.fits = true) :
    ofFields? (.str t.name) (.arr (t.columns.map (·.toJson))) = some t := by
  have hcolumns : (t.columns.map (·.toJson)).mapM Column.ofJson? = some t.columns :=
    mapM_write fun c hc => Column.roundTrips.read_write c (List.all_eq_true.1 h c hc)
  simp only [ofFields?, str?, list?, hcolumns, Option.bind_eq_bind, Option.bind_some]
  rfl

theorem fits_of_ofFields? {name columns : Json} {t : Table}
    (h : ofFields? name columns = some t) : t.fits = true := by
  obtain ⟨n, _, h⟩ := Option.bind_eq_some_iff.1 h
  obtain ⟨cs, hcs, h⟩ := Option.bind_eq_some_iff.1 h
  cases h
  cases columns with
  | arr items =>
    exact List.all_eq_true.2 (forall_of_mapM (fun j c h => (Column.roundTrips.read_again j c h).1) hcs)
  | _ => cases hcs

theorem roundTrips : RoundTrips toJson ofJson? (·.fits = true) := by
  refine .of_reads (fun t h => ofFields?_toJson h) fun j t h => ?_
  unfold ofJson? at h
  split at h
  · obtain ⟨name, _, h⟩ := Option.bind_eq_some_iff.1 h
    obtain ⟨columns, _, h⟩ := Option.bind_eq_some_iff.1 h
    exact fits_of_ofFields? h
  · exact fits_of_ofFields? h
  · cases h

end Table

/-! ## Settings -/

namespace Config

/-- The greatest depth has at most 64 bits. -/
def fits (c : Config) : Bool :=
  fitsIn 64 (some c.maxDepth)

/-- Settings are read from those that are given; the others have their standard value. -/
theorem ofFields?_eq_some {allowUnknown maxDepth : Option Json} {c : Config} :
    ofFields? allowUnknown maxDepth = some c ↔
      allowUnknown.elim (some standard.allowUnknown) bool? = some c.allowUnknown ∧
      maxDepth.elim (some standard.maxDepth) (nat? 64) = some c.maxDepth := by
  have hfields : ofFields? allowUnknown maxDepth =
      (allowUnknown.elim (some standard.allowUnknown) bool?).bind fun allow =>
        (maxDepth.elim (some standard.maxDepth) (nat? 64)).bind fun depth =>
          some ⟨allow, depth⟩ := by
    cases allowUnknown <;> cases maxDepth <;> rfl
  rw [hfields, Option.bind_eq_some_iff]
  simp only [Option.bind_eq_some_iff, Option.some.injEq]
  constructor
  · rintro ⟨allow, hallow, depth, hdepth, rfl⟩
    exact ⟨hallow, hdepth⟩
  · rintro ⟨hallow, hdepth⟩
    exact ⟨_, hallow, _, hdepth, rfl⟩

theorem fits_of_ofFields? {allowUnknown maxDepth : Option Json} {c : Config}
    (h : ofFields? allowUnknown maxDepth = some c) : c.fits = true := by
  have hdepth := (ofFields?_eq_some.1 h).2
  unfold fits
  cases maxDepth with
  | none =>
    rw [← Option.some.inj hdepth]
    decide
  | some j => exact (nat?_eq_some.1 hdepth).2

theorem roundTrips : RoundTrips toJson ofJson? (·.fits = true) := by
  refine .of_reads (fun c h => ?_) fun j c h => ?_
  · show ofFields? (some (.bool c.allowUnknown)) (some (.ofNat c.maxDepth)) = some c
    refine ofFields?_eq_some.2 ⟨rfl, ?_⟩
    rw [Option.elim_some]
    exact nat?_ofNat h
  · unfold ofJson? at h
    split at h
    · exact fits_of_ofFields? h
    · exact fits_of_ofFields? h
    · exact fits_of_ofFields? h
    · exact fits_of_ofFields? h
    · cases h

end Config

/-! ## All forms -/

namespace Json

/-- Types, families, arities, columns, tables and settings whose numbers are within their widths
are read back from their JSON forms and are equal if the forms are, and whatever is read, from any
form, is read again from the form that it is written in. -/
theorem written_forms_are_read_back :
    RoundTrips SqlType.toJson SqlType.ofJson? (·.fits = true) ∧
    RoundTrips Family.toJson Family.ofJson? (fun _ => True) ∧
    RoundTrips Arity.toJson Arity.ofJson? (·.fits = true) ∧
    RoundTrips Column.toJson Column.ofJson? (·.fits = true) ∧
    RoundTrips Table.toJson Table.ofJson? (·.fits = true) ∧
    RoundTrips Config.toJson Config.ofJson? (·.fits = true) :=
  ⟨SqlType.roundTrips, Family.roundTrips, Arity.roundTrips, Column.roundTrips, Table.roundTrips,
    Config.roundTrips⟩

/-- A table with a member too many whose column is an array, a range without a greatest count and
settings without all members are read, and read again from the forms that they are written in. -/
theorem other_forms_are_read_again :
    let pair : Json := .obj [("Struct", .arr [.arr [.str "x", .obj [("F64", .null)]],
      .arr [.str "y", .obj [("Decimal", .arr [.int 10, .null])]]])]
    let column : Json := .arr [.str "at", pair, .bool true]
    let table : Json :=
      .obj [("owner", .null), ("columns", .arr [column]), ("name", .str "points")]
    let t : Table := ⟨"points", [⟨"at", .struct [("x", .double),
      ("y", .scalar (.decimal (some 10) none))], true⟩]⟩
    (Table.ofJson? table = some t ∧ Table.ofJson? t.toJson = some t ∧ t.toJson ≠ table) ∧
    (Arity.ofJson? (.obj [("Range", .obj [("min", .int 2)])]) = some (.atLeast 2) ∧
      Arity.ofJson? (Arity.atLeast 2).toJson = some (.atLeast 2)) ∧
    (Config.ofJson? (.arr [.bool true]) = some ⟨true, 64⟩ ∧
      Config.ofJson? (Config.toJson ⟨true, 64⟩) = some ⟨true, 64⟩) := by
  intro pair column table t
  have htable : Table.ofJson? table = some t := rfl
  have hrange : Arity.ofJson? (.obj [("Range", .obj [("min", .int 2)])]) = some (.atLeast 2) := rfl
  have hsettings : Config.ofJson? (.arr [.bool true]) = some ⟨true, 64⟩ := rfl
  obtain ⟨_, _, harity, _, htables, hconfig⟩ := written_forms_are_read_back
  exact ⟨⟨htable, (htables.read_again _ _ htable).2, by simp [table, Table.toJson]⟩,
    ⟨hrange, (harity.read_again _ _ hrange).2⟩, hsettings, (hconfig.read_again _ _ hsettings).2⟩

end Json

end SqlTyping
