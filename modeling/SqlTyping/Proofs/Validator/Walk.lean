/-
The two walks of the validator, typing with and without checks, differ only in what they do at a
call. Both are fixed points of one step (`Walks`), and what a walk does to a whole expression is
proved here once, by induction over the expression, for every function that satisfies its step:
a success reaches every site, a refusal comes from a site, a walk that asks less succeeds with the
same type wherever one that asks more does, two walks that differ only in calls they refuse
agree up to the refusal of one call, a relation between the types of two walks that every node
keeps holds between their results, and a kind of types that every node keeps is that of the result.
-/
import SqlTyping.Proofs.Expr.Sites
import SqlTyping.Proofs.Outcome
import SqlTyping.Validator.Basic

namespace SqlTyping

open SqlTyping.Expr Outcome

/-! ## Walks -/

/-- What a walk is made with: a depth limit, the types of columns, and the type of a call from the
types of its operands. -/
structure Walk where
  limit : Nat
  resolve : Option String → String → Span → Except Diagnostic SqlType
  call : Call → List SqlType → Except Diagnostic SqlType

/-- A function that types an expression at a span and depth. -/
abbrev TypingFn := Expr → Span → Nat → Except Diagnostic SqlType

namespace Walk

/-- The type of a node within the limit, where `f` types its parts. -/
def rule (w : Walk) (f : TypingFn) : TypingFn
  | .literal l, _, _ => .ok l.type
  | .chain fragments, _, _ => .ok (chainType fragments)
  | .cast e target, span, depth => do return castType (← f e span (depth + 1)) target
  | .column qualifier name, span, _ => w.resolve qualifier name span
  | .call c, _, depth => (c.operands.mapM fun o => f o.expr o.span (depth + 1)) >>= w.call c

/-- The function types expressions by the walk: no node beyond the limit, and every other node by
its rule. -/
def Walks (w : Walk) (f : TypingFn) : Prop :=
  ∀ e span depth, f e span depth =
    if w.limit < depth then .error (.tooDeep w.limit span) else w.rule f e span depth

/-- The operands have these types at a depth. -/
def OperandTypes (f : TypingFn) (operands : List Operand) (depth : Nat) (types : List SqlType) :
    Prop :=
  List.Forall₂ (fun o t => f o.expr o.span depth = .ok t) operands types

namespace OperandTypes

variable {f g : TypingFn} {operands : List Operand} {depth depth' : Nat} {types : List SqlType}

theorem length_eq (h : OperandTypes f operands depth types) : types.length = operands.length :=
  (List.Forall₂.length_eq h).symm

theorem ok_of_mem (h : OperandTypes f operands depth types) {o : Operand} (ho : o ∈ operands) :
    ∃ t, f o.expr o.span depth = .ok t := by
  obtain ⟨t, _, ht⟩ := exists_related_of_mem h ho
  exact ⟨t, ht⟩

theorem of_forall_ok (h : ∀ o ∈ operands, ∃ t, f o.expr o.span depth = .ok t) :
    ∃ types, OperandTypes f operands depth types := by
  induction operands with
  | nil => exact ⟨[], .nil⟩
  | cons o operands ih =>
    obtain ⟨t, ht⟩ := h o List.mem_cons_self
    obtain ⟨types, htypes⟩ := ih fun o' ho' => h o' (List.mem_cons_of_mem _ ho')
    exact ⟨t :: types, .cons ht htypes⟩

theorem imp (h : OperandTypes f operands depth types)
    (hfg : ∀ o ∈ operands, ∀ t, f o.expr o.span depth = .ok t → g o.expr o.span depth' = .ok t) :
    OperandTypes g operands depth' types := by
  induction h with
  | nil => exact .nil
  | cons hot _ ih =>
    refine .cons (hfg _ List.mem_cons_self _ hot) (ih fun o' ho' => ?_)
    exact hfg o' (List.mem_cons_of_mem _ ho')

end OperandTypes

/-- The walk refuses the node at a site itself, not for a part of it: the site is too deep, or a
column that does not resolve, or a call that is refused with the types of its operands. -/
inductive FailsAt (w : Walk) (f : TypingFn) : Site → Diagnostic → Prop
  | depth {x : Site} : w.limit < x.depth → FailsAt w f x (.tooDeep w.limit x.span)
  | column {x : Site} {qualifier : Option String} {name : String} {d : Diagnostic} :
      x.node = .column qualifier name → w.resolve qualifier name x.span = .error d →
      FailsAt w f x d
  | call {x : Site} {c : Call} {types : List SqlType} {d : Diagnostic} :
      x.node = .call c → OperandTypes f c.operands (x.depth + 1) types →
      w.call c types = .error d → FailsAt w f x d

namespace Walks

variable {w w' : Walk} {f g : TypingFn} {span : Span} {depth : Nat} {t : SqlType}

/-! ## One step -/

section Step

variable (hf : w.Walks f)

include hf

theorem eq_rule (e : Expr) (span : Span) (h : depth ≤ w.limit) :
    f e span depth = w.rule f e span depth := by
  rw [hf, if_neg (by omega)]

theorem eq_tooDeep (e : Expr) (span : Span) (h : w.limit < depth) :
    f e span depth = .error (.tooDeep w.limit span) := by
  rw [hf, if_pos h]

theorem le_of_ok {e : Expr} (h : f e span depth = .ok t) : depth ≤ w.limit := by
  by_contra hlt
  rw [hf.eq_tooDeep e span (by omega)] at h
  cases h

/-- A node is typed exactly if it is within the limit and its rule types it. -/
theorem ok_iff_rule {e : Expr} :
    f e span depth = .ok t ↔ depth ≤ w.limit ∧ w.rule f e span depth = .ok t := by
  constructor
  · intro h
    have hle := hf.le_of_ok h
    exact ⟨hle, by rw [← hf.eq_rule e span hle]; exact h⟩
  · rintro ⟨hle, h⟩
    rw [hf.eq_rule e span hle]; exact h

theorem ok_cast {e : Expr} {target : SqlType} :
    f (.cast e target) span depth = .ok t ↔
      depth ≤ w.limit ∧ ∃ u, f e span (depth + 1) = .ok u ∧ castType u target = t := by
  rw [hf.ok_iff_rule, rule, bind_eq_ok]
  simp only [pure_eq_ok]

theorem ok_column {qualifier : Option String} {name : String} :
    f (.column qualifier name) span depth = .ok t ↔
      depth ≤ w.limit ∧ w.resolve qualifier name span = .ok t :=
  hf.ok_iff_rule

theorem ok_call {c : Call} :
    f (.call c) span depth = .ok t ↔
      depth ≤ w.limit ∧ ∃ types, OperandTypes f c.operands (depth + 1) types ∧
        w.call c types = .ok t := by
  rw [hf.ok_iff_rule, rule, bind_eq_ok]
  simp only [mapM_eq_ok]
  rfl

/-! ## Whole expressions -/

/-- A success reaches every site. -/
theorem ok_of_site {e : Expr} {x : Site} (h : f e span depth = .ok t)
    (hx : x ∈ e.sites span depth) : ∃ u, f x.node x.span x.depth = .ok u := by
  induction e generalizing span depth t with
  | literal l => cases List.mem_singleton.1 hx; exact ⟨t, h⟩
  | chain fragments => cases List.mem_singleton.1 hx; exact ⟨t, h⟩
  | cast e target ih =>
    rcases mem_sites_cast.1 hx with rfl | hx
    · exact ⟨t, h⟩
    · obtain ⟨_, u, hu, _⟩ := hf.ok_cast.1 h
      exact ih hu hx
  | column qualifier name => cases List.mem_singleton.1 hx; exact ⟨t, h⟩
  | call c ih =>
    rcases mem_sites_call.1 hx with rfl | ⟨o, ho, hx⟩
    · exact ⟨t, h⟩
    · obtain ⟨_, types, htypes, _⟩ := hf.ok_call.1 h
      obtain ⟨u, hu⟩ := OperandTypes.ok_of_mem htypes ho
      exact ih o ho hu hx

/-- A node is refused at its own site, or its rule refuses it. -/
theorem failsAt_or_rule {e : Expr} {d : Diagnostic} (h : f e span depth = .error d) :
    w.FailsAt f ⟨e, span, depth⟩ d ∨ w.rule f e span depth = .error d := by
  rw [hf] at h
  split at h
  · rename_i hlt; cases h; exact .inl (.depth hlt)
  · exact .inr h

/-- A refusal comes from a site. -/
theorem failsAt_of_error {e : Expr} {d : Diagnostic} (h : f e span depth = .error d) :
    ∃ x ∈ e.sites span depth, w.FailsAt f x d := by
  induction e generalizing span depth with
  | literal l =>
    rcases hf.failsAt_or_rule h with h | h
    · exact ⟨_, self_mem_sites .., h⟩
    · cases h
  | chain fragments =>
    rcases hf.failsAt_or_rule h with h | h
    · exact ⟨_, self_mem_sites .., h⟩
    · cases h
  | cast e target ih =>
    rcases hf.failsAt_or_rule h with h | h
    · exact ⟨_, self_mem_sites .., h⟩
    · rcases bind_eq_error.1 h with h | ⟨_, _, h⟩
      · obtain ⟨x, hx, hfail⟩ := ih h
        exact ⟨x, mem_sites_cast.2 (.inr hx), hfail⟩
      · exact absurd h pure_ne_error
  | column qualifier name =>
    rcases hf.failsAt_or_rule h with h | h
    · exact ⟨_, self_mem_sites .., h⟩
    · exact ⟨_, self_mem_sites .., .column rfl h⟩
  | call c ih =>
    rcases hf.failsAt_or_rule h with h | h
    · exact ⟨_, self_mem_sites .., h⟩
    · rcases bind_eq_error.1 h with h | ⟨types, htypes, h⟩
      · obtain ⟨o, ho, h⟩ := mapM_eq_error h
        obtain ⟨x, hx, hfail⟩ := ih o ho h
        exact ⟨x, mem_sites_call.2 (.inr ⟨o, ho, hx⟩), hfail⟩
      · exact ⟨_, self_mem_sites .., .call rfl (mapM_eq_ok.1 htypes) h⟩

/-- Where neither columns nor calls are refused for depth, an expression that is refused for it
reaches beyond the limit. -/
theorem limit_lt_of_tooDeep
    (hres : ∀ q n place m spot, w.resolve q n place ≠ .error (.tooDeep m spot))
    (hcall : ∀ (b : TypedCall) m spot, w.call b.call b.types ≠ .error (.tooDeep m spot))
    {e : Expr} {m : Nat} {spot : Span} (h : f e span depth = .error (.tooDeep m spot)) :
    w.limit + 1 < depth + e.height := by
  obtain ⟨x, hx, hfail⟩ := hf.failsAt_of_error h
  generalize hd : Diagnostic.tooDeep m spot = d at hfail
  cases hfail with
  | depth hlt =>
    by_contra hle
    have hwithin : ∀ y ∈ e.sites span depth, y.depth ≤ w.limit := sites_depth_le_iff.2 (by omega)
    have := hwithin x hx
    omega
  | column _ hr => rw [← hd] at hr; exact absurd hr (hres _ _ _ _ _)
  | @call c types _ _ htypes hc =>
    rw [← hd] at hc
    exact absurd hc (hcall ⟨c, types, htypes.length_eq⟩ _ _)

end Step

/-! ## Two walks -/

/-- A walk that asks less than another one, and has at least as far to go, succeeds with the same
type wherever that one does. -/
theorem ok_mono (hf : w.Walks f) (hg : w'.Walks g)
    (hres : ∀ q n span t, w.resolve q n span = .ok t → w'.resolve q n span = .ok t)
    (hcall : ∀ c types t, w.call c types = .ok t → w'.call c types = .ok t)
    {e : Expr} {depth' : Nat} (hdepth : w.limit + depth' ≤ w'.limit + depth)
    (h : f e span depth = .ok t) : g e span depth' = .ok t := by
  -- what is left of the limit in the first walk is left in the second; this carries the induction
  have hle : depth' ≤ w'.limit := by have := hf.le_of_ok h; omega
  induction e generalizing span depth depth' t with
  | literal l => exact hg.ok_iff_rule.2 ⟨hle, (hf.ok_iff_rule.1 h).2⟩
  | chain fragments => exact hg.ok_iff_rule.2 ⟨hle, (hf.ok_iff_rule.1 h).2⟩
  | cast e target ih =>
    obtain ⟨_, u, hu, rfl⟩ := hf.ok_cast.1 h
    have := hf.le_of_ok hu
    exact hg.ok_cast.2 ⟨hle, u, ih (by omega) hu (by omega), rfl⟩
  | column qualifier name =>
    exact hg.ok_column.2 ⟨hle, hres _ _ _ _ (hf.ok_column.1 h).2⟩
  | call c ih =>
    obtain ⟨_, types, htypes, ht⟩ := hf.ok_call.1 h
    refine hg.ok_call.2 ⟨hle, types, htypes.imp fun o ho u hu => ?_, hcall _ _ _ ht⟩
    have := hf.le_of_ok hu
    exact ih o ho (by omega) hu (by omega)

/-- The operands of the call at the site have the same types in both walks, and the first walk
refuses the call with a diagnostic that the second does not give. -/
def Refuses (w w' : Walk) (f g : TypingFn) (x : Site) (d : Diagnostic) : Prop :=
  ∃ c types, x.node = .call c ∧ OperandTypes f c.operands (x.depth + 1) types ∧
    OperandTypes g c.operands (x.depth + 1) types ∧ w.call c types = .error d ∧
    w'.call c types ≠ .error d

/-- Two walks that differ only in calls that the first refuses give the same result, unless the
first ends with such a refusal. -/
theorem eq_or_refuses (hf : w.Walks f) (hg : w'.Walks g) (hlimit : w.limit = w'.limit)
    (hres : w.resolve = w'.resolve) {e : Expr}
    (hcall : ∀ c ∈ e.calls, ∀ types,
      w.call c types = w'.call c types ∨ ∃ d, w.call c types = .error d)
    (span : Span) (depth : Nat) :
    f e span depth = g e span depth ∨
      ∃ d, (∃ x ∈ e.sites span depth, Refuses w w' f g x d) ∧ f e span depth = .error d := by
  induction e generalizing span depth with
  | literal l => exact .inl (by rw [hf, hg, hlimit]; rfl)
  | chain fragments => exact .inl (by rw [hf, hg, hlimit]; rfl)
  | cast e target ih =>
    by_cases hlt : w.limit < depth
    · exact .inl (by rw [hf.eq_tooDeep _ _ hlt, hg.eq_tooDeep _ _ (by omega), hlimit])
    rw [hf.eq_rule _ _ (by omega), hg.eq_rule _ _ (by omega)]
    simp only [rule]
    rcases ih hcall span (depth + 1) with h | ⟨d, ⟨x, hx, hd⟩, h⟩
    · exact .inl (by rw [h])
    · exact .inr ⟨d, ⟨x, mem_sites_cast.2 (.inr hx), hd⟩, by rw [h]; rfl⟩
  | column qualifier name => exact .inl (by rw [hf, hg, hlimit, rule, rule, hres])
  | call c ih =>
    by_cases hlt : w.limit < depth
    · exact .inl (by rw [hf.eq_tooDeep _ _ hlt, hg.eq_tooDeep _ _ (by omega), hlimit])
    rw [hf.eq_rule _ _ (by omega), hg.eq_rule _ _ (by omega)]
    simp only [rule]
    rw [calls_call, List.forall_mem_cons] at hcall
    have hbelow := fun o ho => ih o ho fun d hd => hcall.2 d (List.mem_flatMap.2 ⟨o, ho, hd⟩)
    -- the operands agree, so that both walks see the call with the same types, or one is refused
    rcases mapM_eq_or_error fun o ho => hbelow o ho o.span (depth + 1) with
      h | ⟨o, ho, d, ⟨x, hx, hd⟩, h⟩
    · cases htypes : c.operands.mapM fun o => f o.expr o.span (depth + 1) with
      | error d => exact .inl (by rw [← h, htypes]; rfl)
      | ok types =>
        by_cases heq : w.call c types = w'.call c types
        · exact .inl (by rw [← h, htypes]; exact heq)
        · obtain ⟨d, hd⟩ := (hcall.1 types).resolve_left heq
          have hgtypes := mapM_eq_ok.1 (h ▸ htypes)
          refine .inr ⟨d, ⟨_, self_mem_sites .., c, types, rfl, mapM_eq_ok.1 htypes, hgtypes, hd, ?_⟩,
            hd⟩
          rw [← hd]; exact fun h => heq h.symm
    · exact .inr ⟨d, ⟨x, mem_sites_call.2 (.inr ⟨o, ho, hx⟩), hd⟩, by rw [h]; rfl⟩

end Walks

/-! ## Two walks over related types -/

/-- Two lists give one type each to every operand, and the relation holds between the two. -/
inductive Aligned (R : Expr → SqlType → SqlType → Prop) :
    List Operand → List SqlType → List SqlType → Prop
  | nil : Aligned R [] [] []
  | cons {o : Operand} {t t' : SqlType} {operands : List Operand} {types types' : List SqlType} :
      R o.expr t t' → Aligned R operands types types' →
      Aligned R (o :: operands) (t :: types) (t' :: types')

/-- At every node that satisfies `Fit`, the second walk goes on where the first does, and the
relation is kept between their types. -/
structure Simulates (w w' : Walk) (R : Expr → SqlType → SqlType → Prop) (Fit : Expr → Prop) :
    Prop where
  limit : w.limit = w'.limit
  literal : ∀ l, R (.literal l) l.type l.type
  chain : ∀ fragments, R (.chain fragments) (chainType fragments) (chainType fragments)
  cast : ∀ e target t t', Fit (.cast e target) → R e t t' →
    R (.cast e target) (castType t target) (castType t' target)
  column : ∀ qualifier name span t, w.resolve qualifier name span = .ok t →
    ∃ t', w'.resolve qualifier name span = .ok t' ∧ R (.column qualifier name) t t'
  call : ∀ c types types' t, Fit (.call c) → Aligned R c.operands types types' →
    w.call c types = .ok t → ∃ t', w'.call c types' = .ok t' ∧ R (.call c) t t'

theorem OperandTypes.aligned {f g : TypingFn} {R : Expr → SqlType → SqlType → Prop}
    {operands : List Operand} {depth : Nat} {types : List SqlType}
    (h : OperandTypes f operands depth types)
    (hfg : ∀ o ∈ operands, ∀ t, f o.expr o.span depth = .ok t →
      ∃ t', g o.expr o.span depth = .ok t' ∧ R o.expr t t') :
    ∃ types', OperandTypes g operands depth types' ∧ Aligned R operands types types' := by
  induction h with
  | nil => exact ⟨[], .nil, .nil⟩
  | cons hot _ ih =>
    obtain ⟨t', ht', hR⟩ := hfg _ List.mem_cons_self _ hot
    obtain ⟨types', htypes', hRs⟩ := ih fun o' ho' => hfg o' (List.mem_cons_of_mem _ ho')
    exact ⟨t' :: types', .cons ht' htypes', .cons hR hRs⟩

/-- What the first walk accepts, the second accepts with a related type. -/
theorem Simulates.ok_related {w w' : Walk} {f g : TypingFn}
    {R : Expr → SqlType → SqlType → Prop} {Fit : Expr → Prop} (hsim : Simulates w w' R Fit)
    (hf : w.Walks f) (hg : w'.Walks g) {e : Expr} {span : Span} {depth : Nat} {t : SqlType}
    (hfit : ∀ n ∈ e.nodes, Fit n) (h : f e span depth = .ok t) :
    ∃ t', g e span depth = .ok t' ∧ R e t t' := by
  have hle : depth ≤ w'.limit := hsim.limit ▸ hf.le_of_ok h
  induction e generalizing span depth t with
  | literal l =>
    cases (hf.ok_iff_rule.1 h).2
    exact ⟨l.type, hg.ok_iff_rule.2 ⟨hle, rfl⟩, hsim.literal l⟩
  | chain fragments =>
    cases (hf.ok_iff_rule.1 h).2
    exact ⟨chainType fragments, hg.ok_iff_rule.2 ⟨hle, rfl⟩, hsim.chain fragments⟩
  | cast e target ih =>
    obtain ⟨_, u, hu, rfl⟩ := hf.ok_cast.1 h
    have hinner : ∀ n ∈ e.nodes, Fit n := fun n hn => hfit n (List.mem_cons_of_mem _ hn)
    obtain ⟨u', hu', hR⟩ := ih hinner hu (hsim.limit ▸ hf.le_of_ok hu)
    exact ⟨castType u' target, hg.ok_cast.2 ⟨hle, u', hu', rfl⟩,
      hsim.cast e target u u' (hfit _ (self_mem_nodes _)) hR⟩
  | column qualifier name =>
    obtain ⟨t', ht', hR⟩ := hsim.column qualifier name span t (hf.ok_column.1 h).2
    exact ⟨t', hg.ok_column.2 ⟨hle, ht'⟩, hR⟩
  | call c ih =>
    obtain ⟨_, types, htypes, hcall⟩ := hf.ok_call.1 h
    obtain ⟨types', htypes', haligned⟩ := htypes.aligned fun o ho u hu =>
      ih o ho (fun n hn => hfit n (mem_nodes_call.2 (.inr ⟨o, ho, hn⟩))) hu
        (hsim.limit ▸ hf.le_of_ok hu)
    obtain ⟨t', ht', hR⟩ := hsim.call c types types' t (hfit _ (self_mem_nodes _)) haligned hcall
    exact ⟨t', hg.ok_call.2 ⟨hle, types', htypes', ht'⟩, hR⟩

/-! ## One walk over types of a kind -/

/-- At every node that satisfies `Fit`, the walk gives a type of the kind `P` where the parts of the
node have types of that kind. -/
structure Keeps (w : Walk) (P : SqlType → Prop) (Fit : Expr → Prop) : Prop where
  literal : ∀ l : Literal, P l.type
  chain : ∀ fragments, P (chainType fragments)
  cast : ∀ e target t, Fit (.cast e target) → P t → P (castType t target)
  column : ∀ qualifier name span t, w.resolve qualifier name span = .ok t → P t
  call : ∀ (b : TypedCall) t, Fit (.call b.call) → (∀ u ∈ b.types, P u) →
    w.call b.call b.types = .ok t → P t

/-- A kind of types that every node keeps is that of every expression. -/
theorem Keeps.of_ok {w : Walk} {f : TypingFn} {P : SqlType → Prop} {Fit : Expr → Prop}
    (hkeeps : w.Keeps P Fit) (hf : w.Walks f) {e : Expr} {span : Span} {depth : Nat} {t : SqlType}
    (hfit : ∀ n ∈ e.nodes, Fit n) (h : f e span depth = .ok t) : P t := by
  induction e generalizing span depth t with
  | literal l => cases (hf.ok_iff_rule.1 h).2; exact hkeeps.literal l
  | chain fragments => cases (hf.ok_iff_rule.1 h).2; exact hkeeps.chain fragments
  | cast e target ih =>
    obtain ⟨_, u, hu, rfl⟩ := hf.ok_cast.1 h
    have hinner : ∀ n ∈ e.nodes, Fit n := fun n hn => hfit n (List.mem_cons_of_mem _ hn)
    exact hkeeps.cast e target u (hfit _ (self_mem_nodes _)) (ih hinner hu)
  | column qualifier name => exact hkeeps.column qualifier name span t (hf.ok_column.1 h).2
  | call c ih =>
    obtain ⟨_, types, htypes, hcall⟩ := hf.ok_call.1 h
    have hkind : ∀ u ∈ types, P u := by
      intro u hu
      obtain ⟨o, ho, hou⟩ := exists_related_of_mem (List.Forall₂.flip htypes) hu
      exact ih o ho (fun n hn => hfit n (mem_nodes_call.2 (.inr ⟨o, ho, hn⟩))) hou
    exact hkeeps.call ⟨c, types, htypes.length_eq⟩ t (hfit _ (self_mem_nodes _)) hkind hcall

end Walk

/-! ## The walks of the validator -/

namespace Validator

open Walk

/-- Typing without checks, as a walk. -/
def derivation (v : Validator) (s : Scope) : Walk :=
  ⟨v.config.maxDepth, s.resolve, v.resultType⟩

/-- Typing with checks, as a walk. -/
def validation (v : Validator) (s : Scope) : Walk :=
  ⟨v.config.maxDepth, s.resolve, v.validatedType s⟩

theorem checkDepth_bind {α : Type} (v : Validator) (depth : Nat) (span : Span)
    (x : Except Diagnostic α) :
    (v.checkDepth depth span >>= fun _ => x) =
      if v.config.maxDepth < depth then .error (.tooDeep v.config.maxDepth span) else x := by
  unfold checkDepth
  split
  · rfl
  · rfl

theorem deriveAt_walks (v : Validator) (s : Scope) : (v.derivation s).Walks (v.deriveAt s) := by
  intro e span depth
  cases e with
  | literal l => exact checkDepth_bind v depth span _
  | chain fragments => exact checkDepth_bind v depth span _
  | cast e target => exact checkDepth_bind v depth span _
  | column qualifier name => exact checkDepth_bind v depth span _
  | call c =>
    rw [rule, ← deriveOperands_eq_mapM]
    exact checkDepth_bind v depth span _

theorem validateAt_walks (v : Validator) (s : Scope) : (v.validation s).Walks (v.validateAt s) := by
  intro e span depth
  cases e with
  | literal l => exact checkDepth_bind v depth span _
  | chain fragments => exact checkDepth_bind v depth span _
  | cast e target => exact checkDepth_bind v depth span _
  | column qualifier name => exact checkDepth_bind v depth span _
  | call c =>
    rw [rule, ← validateOperands_eq_mapM]
    exact checkDepth_bind v depth span _

/-! ## What the walks do at a call -/

/-- The operator of the call is registered, or need not be. -/
def Known (v : Validator) (c : Call) : Prop :=
  (v.catalog.lookup c.name).isSome = true ∨ v.config.allowUnknown = true

/-- The type of a call from the types of its operands, whether the call is known or not. -/
def callType (v : Validator) (c : Call) (types : List SqlType) : SqlType :=
  match v.catalog.lookup c.name with
  | some op => op.returns.apply types
  | none => unknownType

variable {v : Validator} {s : Scope} {c : Call} {types : List SqlType} {t : SqlType}
  {d : Diagnostic}

theorem operatorOf_eq_ok {op? : Option Operator} :
    v.operatorOf c = .ok op? ↔ v.Known c ∧ v.catalog.lookup c.name = op? := by
  unfold operatorOf Known
  cases v.catalog.lookup c.name with
  | some op => simp
  | none => cases v.config.allowUnknown <;> simp

theorem operatorOf_eq_error :
    v.operatorOf c = .error d ↔
      ¬ v.Known c ∧ d = .unknownFunction (Text.upper c.name) c.span := by
  unfold operatorOf Known
  cases v.catalog.lookup c.name with
  | some op => simp
  | none => cases v.config.allowUnknown <;> simp [eq_comm]

theorem resultType_eq_ok : v.resultType c types = .ok t ↔ v.Known c ∧ v.callType c types = t := by
  unfold resultType callType
  rw [bind_eq_ok]
  simp only [operatorOf_eq_ok]
  constructor
  · rintro ⟨op?, ⟨hk, rfl⟩, h⟩
    cases hl : v.catalog.lookup c.name <;> rw [hl] at h <;> exact ⟨hk, pure_eq_ok.1 h⟩
  · rintro ⟨hk, rfl⟩
    refine ⟨_, ⟨hk, rfl⟩, ?_⟩
    cases v.catalog.lookup c.name <;> rfl

theorem resultType_eq_error (h : v.resultType c types = .error d) :
    d = .unknownFunction (Text.upper c.name) c.span := by
  rcases bind_eq_error.1 h with h | ⟨op?, _, h⟩
  · exact (operatorOf_eq_error.1 h).2
  · cases op? <;> exact absurd h pure_ne_error

theorem bind_typed (op : Operator) (b : TypedCall) : op.bind b.call b.types = .ok b := by
  unfold Operator.bind
  rw [dif_pos b.aligned]

/-- A registered call is typed if the gates let it through. -/
theorem validatedType_of_lookup {b : TypedCall} {op : Operator}
    (hop : v.catalog.lookup b.call.name = some op) :
    v.validatedType s b.call b.types =
      (op.validateCall v s b).map fun _ => op.returns.apply b.types := by
  have hk : v.operatorOf b.call = .ok (some op) :=
    operatorOf_eq_ok.2 ⟨.inl (by rw [hop]; rfl), hop⟩
  unfold validatedType
  simp only [hk, bind_typed op b, bind, Except.bind]
  cases op.validateCall v s b <;> rfl

/-- An unregistered call is typed alike with and without checks. -/
theorem validatedType_of_lookup_none (hop : v.catalog.lookup c.name = none) :
    v.validatedType s c types = v.resultType c types := by
  unfold validatedType resultType operatorOf
  simp only [hop]
  cases v.config.allowUnknown <;> rfl

/-- A call is typed with checks if it is known and the gates let it through if it is registered. -/
theorem validatedType_eq_ok_iff {b : TypedCall} :
    v.validatedType s b.call b.types = .ok t ↔
      (v.Known b.call ∧ ∀ op, v.catalog.lookup b.call.name = some op →
        op.validateCall v s b = .ok ()) ∧ v.callType b.call b.types = t := by
  cases hop : v.catalog.lookup b.call.name with
  | none =>
    rw [validatedType_of_lookup_none hop, resultType_eq_ok]
    simp
  | some op =>
    have hk : v.Known b.call := .inl (by rw [hop]; rfl)
    rw [validatedType_of_lookup hop, callType, hop]
    cases hv : op.validateCall v s b <;> simp [Except.map, hk, hv]

/-- A call is refused with checks for an unknown name, as without checks, or by its gates. -/
theorem validatedType_eq_error {b : TypedCall} (h : v.validatedType s b.call b.types = .error d) :
    v.resultType b.call b.types = .error d ∨
      ∃ op, v.catalog.lookup b.call.name = some op ∧ op.validateCall v s b = .error d := by
  cases hop : v.catalog.lookup b.call.name with
  | none =>
    rw [validatedType_of_lookup_none hop] at h
    exact .inl h
  | some op =>
    rw [validatedType_of_lookup hop] at h
    cases hv : op.validateCall v s b with
    | error d' => rw [hv] at h; cases h; exact .inr ⟨op, rfl, hv⟩
    | ok u => rw [hv] at h; cases h

/-- A call is accepted where it stands exactly if it is within the limit, its operands are accepted,
it is known, and the gates let it through, bound to their types, if it is registered. -/
theorem validateAt_call_eq_ok {span : Span} {depth : Nat} :
    v.validateAt s (.call c) span depth = .ok t ↔
      depth ≤ v.config.maxDepth ∧ ∃ b : TypedCall, b.call = c ∧
        OperandTypes (v.validateAt s) b.call.operands (depth + 1) b.types ∧
        (v.Known b.call ∧ ∀ op, v.catalog.lookup b.call.name = some op →
          op.validateCall v s b = .ok ()) ∧ v.callType b.call b.types = t := by
  rw [(v.validateAt_walks s).ok_call]
  refine and_congr_right fun _ => ⟨?_, ?_⟩
  · rintro ⟨types, htypes, hcall⟩
    let b : TypedCall := ⟨c, types, htypes.length_eq⟩
    exact ⟨b, rfl, htypes, (@validatedType_eq_ok_iff v s t b).1 hcall⟩
  · rintro ⟨b, rfl, htypes, hcall⟩
    exact ⟨b.types, htypes, validatedType_eq_ok_iff.2 hcall⟩

/-! ## Operands -/

theorem deriveOperands_eq_ok {v : Validator} {s : Scope} {operands : List Operand} {depth : Nat}
    {types : List SqlType} :
    v.deriveOperands s operands depth = .ok types ↔
      OperandTypes (v.deriveAt s) operands depth types := by
  rw [deriveOperands_eq_mapM, mapM_eq_ok]; rfl

theorem validateOperands_eq_ok {v : Validator} {s : Scope} {operands : List Operand} {depth : Nat}
    {types : List SqlType} :
    v.validateOperands s operands depth = .ok types ↔
      OperandTypes (v.validateAt s) operands depth types := by
  rw [validateOperands_eq_mapM, mapM_eq_ok]; rfl

end Validator

end SqlTyping
