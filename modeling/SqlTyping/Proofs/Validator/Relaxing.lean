/-
Relaxed settings. Settings that go deeper and admit at least the same calls keep every type, every
answer of the probe, and every refusal but those for depth and for unknown functions, as long as the
rules do not ask for types that only the new settings give. Over tables and standard rules an
expression that fits into the depth is not refused for it, so that among settings it fits into the
depth makes no difference.
-/
import SqlTyping.Catalog.Builtin
import SqlTyping.Proofs.Validator.Blame
import SqlTyping.Proofs.Validator.Lockstep

namespace SqlTyping

open SqlTyping.Expr Outcome

/-- The second settings go at least as deep, and admit unknown functions if the first do. -/
structure Config.Relaxes (config config' : Config) : Prop where
  depth : config.maxDepth ≤ config'.maxDepth
  unknown : config.allowUnknown = true → config'.allowUnknown = true

/-- The cause is one that other settings may lift. -/
def Diagnostic.liftable : Diagnostic → Bool
  | .tooDeep _ _ | .unknownFunction _ _ => true
  | _ => false

/-- A value of the first result is the value of the second, and a refusal that no settings lift is
the refusal of the second. -/
def Persists {α : Type} (x y : Except Diagnostic α) : Prop :=
  (∀ a, x = .ok a → y = .ok a) ∧ ∀ d, d.liftable = false → x = .error d → y = .error d

theorem Persists.of_agree {α : Type} {x y : Except Diagnostic α}
    (h : AgreeUnless (·.liftable = true) x y) : Persists x y :=
  ⟨fun _ => h.ok, fun _ hd hx => h.error hx (by simp [hd])⟩

theorem TableScope.resolve_ne_tooDeep (ts : TableScope) (qualifier : Option String) (name : String)
    (place : Span) (m : Nat) (spot : Span) :
    ts.resolve qualifier name place ≠ .error (.tooDeep m spot) := by
  intro h
  rcases columnText_of_resolve h with h | h <;> cases h

namespace Validator

variable {cat : Catalog} {config config' : Config}

/-! ## Two settings -/

theorem operatorOf_agree (h : config.Relaxes config') (c : Call) :
    AgreeUnless (·.liftable = true) (operatorOf ⟨cat, config⟩ c) (operatorOf ⟨cat, config'⟩ c) := by
  unfold operatorOf
  cases cat.lookup c.name with
  | some op => exact .refl _ _
  | none =>
    by_cases hunknown : config.allowUnknown = true
    · simp only [hunknown, h.unknown hunknown]
      exact .refl _ _
    · exact .inr ⟨_, rfl, if_neg hunknown⟩

/-- Settings of which the second go deeper keep in step if they know the same calls up to refusals
that satisfy `P`. -/
theorem inStep_of_config {P : Diagnostic → Prop} (hdepth : config.maxDepth ≤ config'.maxDepth)
    (hP : ∀ maxDepth span, P (.tooDeep maxDepth span))
    (hop : ∀ c, AgreeUnless P (operatorOf ⟨cat, config⟩ c) (operatorOf ⟨cat, config'⟩ c))
    (s : Scope) : InStep ⟨cat, config⟩ ⟨cat, config'⟩ s s P Eq where
  limit := .inr ⟨hdepth, hP _⟩
  resolve := rfl
  span _ _ h := by rw [h]
  operator c c' h := by rw [← h]; exact hop c

/-! ## Expressions that fit into the depth -/

theorem validate_ne_tooDeep (hstd : cat.Standard) {ts : TableScope} {e : Expr}
    (hfits : e.height ≤ config.maxDepth) (maxDepth : Nat) (span : Span) :
    validate ⟨cat, config⟩ ts.toScope e ≠ .error (.tooDeep maxDepth span) := by
  intro h
  have hlt : config.maxDepth + 1 < 1 + e.height :=
    (validateAt_walks ⟨cat, config⟩ ts.toScope).limit_lt_of_tooDeep ts.resolve_ne_tooDeep
      (fun b m spot hcall => ?_) h
  · omega
  · obtain ⟨c, _, hblames⟩ := blamesCall_of_validatedType hstd hcall
    exact hblames

theorem derive_ne_tooDeep {ts : TableScope} {e : Expr} (hfits : e.height ≤ config.maxDepth)
    (maxDepth : Nat) (span : Span) :
    derive ⟨cat, config⟩ ts.toScope e ≠ .error (.tooDeep maxDepth span) := by
  intro h
  have hlt : config.maxDepth + 1 < 1 + e.height :=
    (deriveAt_walks ⟨cat, config⟩ ts.toScope).limit_lt_of_tooDeep ts.resolve_ne_tooDeep
      (fun b m spot hcall => ?_) h
  · omega
  · cases resultType_eq_error hcall

/-- Of two depths into which an expression fits the greater makes no difference. -/
theorem eq_of_fits (hstd : cat.Standard) {ts : TableScope} {e : Expr}
    (hfits : e.height ≤ config.maxDepth) (hdepth : config.maxDepth ≤ config'.maxDepth)
    (hunknown : config.allowUnknown = config'.allowUnknown) :
    validate ⟨cat, config⟩ ts.toScope e = validate ⟨cat, config'⟩ ts.toScope e ∧
      derive ⟨cat, config⟩ ts.toScope e = derive ⟨cat, config'⟩ ts.toScope e := by
  let P : Diagnostic → Prop := fun d => ∃ maxDepth span, d = .tooDeep maxDepth span
  have hop : ∀ c, AgreeUnless P (operatorOf ⟨cat, config⟩ c) (operatorOf ⟨cat, config'⟩ c) := by
    intro c
    unfold operatorOf
    rw [hunknown]
    exact .refl P _
  have hstep := inStep_of_config hdepth (fun m span => ⟨m, span, rfl⟩) hop ts.toScope
  constructor
  · rcases hstep.validate_agree_of_judgesAlike (fun _ _ => rfl)
      (fun c _ => judgesAlike_of_standard hstd _ _ _ c) (fun _ _ _ => rfl) with
      h | ⟨_, ⟨m, span, rfl⟩, h⟩
    · exact h
    · exact absurd h (validate_ne_tooDeep hstd hfits m span)
  · rcases hstep.derive_agree (.refl fun _ _ => rfl) with h | ⟨_, ⟨m, span, rfl⟩, h⟩
    · exact h
    · exact absurd h (derive_ne_tooDeep hfits m span)

/-- Relaxing the settings is monotone. Types without checks stay, and their refusals but for those
that name the depth or an unknown function; so do types with checks of an expression whose calls are
judged alike under both settings, and answers of the probe for such a call. Over tables and standard
rules an expression is never refused for its depth under settings into which it fits, and has the
same results under any two of them that admit the same calls. -/
theorem relaxing_config_is_monotone (cat : Catalog) (config config' : Config) :
    (config.Relaxes config' → ∀ s : Scope,
      (∀ e, Persists (derive ⟨cat, config⟩ s e) (derive ⟨cat, config'⟩ s e)) ∧
      (∀ e, (∀ c ∈ e.calls, JudgesAlike ⟨cat, config⟩ ⟨cat, config'⟩ s s c) →
        Persists (validate ⟨cat, config⟩ s e) (validate ⟨cat, config'⟩ s e)) ∧
      ∀ c, JudgesAlike ⟨cat, config⟩ ⟨cat, config'⟩ s s c →
        Persists (probe ⟨cat, config⟩ s c) (probe ⟨cat, config'⟩ s c)) ∧
    (cat.Standard → ∀ (ts : TableScope) (e : Expr), e.height ≤ config.maxDepth →
      (∀ maxDepth span,
        validate ⟨cat, config⟩ ts.toScope e ≠ .error (.tooDeep maxDepth span) ∧
        derive ⟨cat, config⟩ ts.toScope e ≠ .error (.tooDeep maxDepth span)) ∧
      (e.height ≤ config'.maxDepth → config.allowUnknown = config'.allowUnknown →
        validate ⟨cat, config⟩ ts.toScope e = validate ⟨cat, config'⟩ ts.toScope e ∧
        derive ⟨cat, config⟩ ts.toScope e = derive ⟨cat, config'⟩ ts.toScope e)) := by
  refine ⟨fun hrelax s => ?_, fun hstd ts e hfits => ⟨fun m span => ?_, fun hfits' hunknown => ?_⟩⟩
  · have hstep :=
      inStep_of_config hrelax.depth (fun _ _ => rfl) (@operatorOf_agree cat _ _ hrelax) s
    refine ⟨fun e => ?_, fun e hjudges => ?_, fun c hjudges => ?_⟩
    · exact .of_agree (hstep.derive_agree (.refl fun _ _ => rfl))
    · exact .of_agree (hstep.validate_agree_of_judgesAlike (fun _ _ => rfl) hjudges
        fun _ _ _ => rfl)
    · exact .of_agree (hstep.probe_agree_of_judgesAlike (fun _ _ => rfl) hjudges)
  · exact ⟨validate_ne_tooDeep hstd hfits m span, derive_ne_tooDeep hfits m span⟩
  · rcases Nat.le_total config.maxDepth config'.maxDepth with hdepth | hdepth
    · exact eq_of_fits hstd hfits hdepth hunknown
    · obtain ⟨hvalidate, hderive⟩ :=
        @eq_of_fits cat config' config hstd ts e hfits' hdepth hunknown.symm
      exact ⟨hvalidate.symm, hderive.symm⟩

/-- A call of height three fits into a depth of three and not of two. Its type, its answer to the
probe and its refusal in WHERE stay under settings that are relaxed in both ways. -/
theorem relaxed_totalOrZero :
    let tight : Config := ⟨false, 3⟩
    let e : Expr := .call Orders.totalOrZero
    let s := Orders.scope .select
    e.height = 3 ∧ tight.Relaxes ⟨true, 64⟩ ∧
      validate ⟨.builtin, ⟨false, 2⟩⟩ s.toScope e = .error (.tooDeep 2 (.onLine 1 14 19)) ∧
      validate ⟨.builtin, ⟨true, 64⟩⟩ s.toScope e = .ok .bigint ∧
      probe ⟨.builtin, ⟨true, 64⟩⟩ s.toScope Orders.totalOrZero = .ok true ∧
      validate ⟨.builtin, ⟨true, 64⟩⟩ (Orders.scope .whereRows).toScope e =
        .error (.aggregateInWhere "SUM" Orders.total.span) ∧
      validate ⟨.builtin, tight⟩ s.toScope e ≠ .error (.tooDeep 3 (.onLine 1 14 19)) ∧
      validate ⟨.builtin, tight⟩ s.toScope e = validate ⟨.builtin, .standard⟩ s.toScope e := by
  intro tight e s
  have hheight : e.height = 3 := rfl
  have hrelax : tight.Relaxes ⟨true, 64⟩ := ⟨by decide, fun _ => rfl⟩
  have hok : validate ⟨.builtin, tight⟩ s.toScope e = .ok .bigint := rfl
  have hprobe : probe ⟨.builtin, tight⟩ s.toScope Orders.totalOrZero = .ok true := rfl
  have hwhere : validate ⟨.builtin, tight⟩ (Orders.scope .whereRows).toScope e =
      .error (.aggregateInWhere "SUM" Orders.total.span) := rfl
  have hstd : Catalog.builtin.Standard := by decide
  have hjudges (s : Scope) (c : Call) : JudgesAlike ⟨.builtin, tight⟩ ⟨.builtin, ⟨true, 64⟩⟩ s s c :=
    judgesAlike_of_standard hstd _ s s c
  obtain ⟨hmono, _⟩ := relaxing_config_is_monotone .builtin tight ⟨true, 64⟩
  obtain ⟨_, hfits⟩ := relaxing_config_is_monotone .builtin tight .standard
  obtain ⟨hnever, hsame⟩ := hfits hstd s e (by decide)
  refine ⟨hheight, hrelax, rfl, ?_, ?_, ?_, (hnever _ _).1, ?_⟩
  · exact ((hmono hrelax s.toScope).2.1 e fun c _ => hjudges _ c).1 _ hok
  · exact ((hmono hrelax s.toScope).2.2 Orders.totalOrZero (hjudges _ _)).1 _ hprobe
  · exact ((hmono hrelax (Orders.scope .whereRows).toScope).2.1 e fun c _ => hjudges _ c).2 _ rfl
      hwhere
  · exact (hsame (by decide) rfl).1

/-- A rule that asks for the type of a cast, which is of height two, and takes its calls only if
there is none, takes them under a depth of one and refuses them under a depth of two. -/
theorem relaxing_seen_by_rule :
    ¬ ∀ (cat : Catalog) (config config' : Config), config.Relaxes config' → ∀ s : Scope,
      (∀ e, Persists (validate ⟨cat, config⟩ s e) (validate ⟨cat, config'⟩ s e)) ∧
      ∀ c, Persists (probe ⟨cat, config⟩ s c) (probe ⟨cat, config'⟩ s c) := by
  intro h
  let deep : Expr := .cast (.literal .null) .bigint
  let cat := Inquiry.catalog fun k _ => !(k.derive k.scope deep).isOk
  let s := (Orders.scope .select).toScope
  have hrelax : Config.Relaxes ⟨false, 1⟩ ⟨false, 2⟩ := ⟨by decide, id⟩
  have htaken : validate ⟨cat, ⟨false, 1⟩⟩ s (.call Inquiry.call) = .ok .boolean := by rfl
  have hrefused : validate ⟨cat, ⟨false, 2⟩⟩ s (.call Inquiry.call) ≠ .ok .boolean := by decide
  exact hrefused (((h cat _ _ hrelax s).1 _).1 _ htaken)

end Validator

end SqlTyping
