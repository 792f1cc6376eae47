/-
The nodes of an expression where a walk from the root meets them. A site is a node with the span
that diagnostics about it point at (that of the innermost operand around it) and its depth;
`sites` lists them in the order of `nodes`. Everything that a walk sees of an expression is said
about sites: the sites below a site are sites, the depths of all sites are within a limit exactly
if the height is, and a search for a node is a search through the list. The span of a site can be
told without a walk: it is that of the operand with nothing but casts between it and the node
(`UnderCasts`), or that of the root. A descent is a path from the root to a leaf; it stays among the
nodes.
-/
import Mathlib.Data.List.Basic
import SqlTyping.Expr.Nodes

namespace SqlTyping.Expr

/-! ## Nodes -/

theorem self_mem_nodes (e : Expr) : e ∈ e.nodes := by
  cases e with
  | literal l => exact List.mem_singleton.2 rfl
  | chain fragments => exact List.mem_singleton.2 rfl
  | cast e target => exact List.mem_cons_self
  | column qualifier name => exact List.mem_singleton.2 rfl
  | call c => rw [nodes_call]; exact List.mem_cons_self

theorem mem_nodes_call {c : Call} {n : Expr} :
    n ∈ (Expr.call c).nodes ↔ n = .call c ∨ ∃ o ∈ c.operands, n ∈ o.expr.nodes := by
  rw [nodes_call, List.mem_cons, List.mem_flatMap]

theorem mem_calls {e : Expr} {c : Call} : c ∈ e.calls ↔ .call c ∈ e.nodes := by
  unfold calls
  rw [List.mem_filterMap]
  constructor
  · rintro ⟨n, hn, hc⟩
    cases n with
    | call d => cases hc; exact hn
    | literal l => cases hc
    | chain fragments => cases hc
    | cast e target => cases hc
    | column qualifier name => cases hc
  · intro h; exact ⟨.call c, h, rfl⟩

theorem calls_call (c : Call) :
    (Expr.call c).calls = c :: c.operands.flatMap (·.expr.calls) := by
  unfold calls
  simp only [nodes_call, List.filterMap_cons, call?, List.filterMap_flatMap]

/-- A call lies strictly below another one: it is among the nodes of an operand. -/
def Below (inner outer : Call) : Prop :=
  ∃ o ∈ outer.operands, inner ∈ o.expr.calls

/-! ## Searching -/

theorem findInOperands?_eq_nodes_find? {p : Expr → Bool} {operands : List Operand}
    (h : ∀ o ∈ operands, o.expr.find? p = o.expr.nodes.find? p) :
    findInOperands? p operands = (nodesOfOperands operands).find? p := by
  induction operands with
  | nil => rfl
  | cons o operands ih =>
    have ho := h o List.mem_cons_self
    have hos := ih fun o' ho' => h o' (List.mem_cons_of_mem _ ho')
    rw [findInOperands?, nodesOfOperands, List.find?_append, ← hos, ← ho]
    cases o.expr.find? p <;> rfl

/-- The search through the tree is the search through the list of nodes. -/
theorem find?_eq_nodes_find? (p : Expr → Bool) (e : Expr) : e.find? p = e.nodes.find? p := by
  induction e with
  | literal l => simp only [find?, nodes, List.find?]; split <;> simp_all
  | chain fragments => simp only [find?, nodes, List.find?]; split <;> simp_all
  | cast e target ih => simp only [find?, nodes, List.find?, ih]; split <;> simp_all
  | column qualifier name => simp only [find?, nodes, List.find?]; split <;> simp_all
  | call c ih =>
    obtain ⟨name, operands, quantifier, span⟩ := c
    simp only [find?, nodes, List.find?, findInOperands?_eq_nodes_find? ih]
    split <;> simp_all

/-! ## Sites -/

/-- A node with the span that diagnostics about it point at and its depth. -/
structure Site where
  node : Expr
  span : Span
  depth : Nat

mutual

/-- The sites of an expression that stands at a span and depth, in pre-order. A cast hands its span
down, an operand has its own. -/
def sites : Expr → Span → Nat → List Site
  | .literal l, span, depth => [⟨.literal l, span, depth⟩]
  | .chain fragments, span, depth => [⟨.chain fragments, span, depth⟩]
  | .cast e target, span, depth => ⟨.cast e target, span, depth⟩ :: e.sites span (depth + 1)
  | .column qualifier name, span, depth => [⟨.column qualifier name, span, depth⟩]
  | .call ⟨name, operands, quantifier, place⟩, span, depth =>
    ⟨.call ⟨name, operands, quantifier, place⟩, span, depth⟩ :: sitesOfOperands operands (depth + 1)
termination_by structural e => e

/-- The sites of the operands at a depth, one operand after the other. -/
def sitesOfOperands : List Operand → Nat → List Site
  | [], _ => []
  | ⟨e, span⟩ :: operands, depth => e.sites span depth ++ sitesOfOperands operands depth
termination_by structural operands => operands

end

theorem sitesOfOperands_eq_flatMap (operands : List Operand) (depth : Nat) :
    sitesOfOperands operands depth = operands.flatMap fun o => o.expr.sites o.span depth := by
  induction operands with
  | nil => rfl
  | cons o operands ih => simp [sitesOfOperands, ih]

theorem sites_call (c : Call) (span : Span) (depth : Nat) :
    (Expr.call c).sites span depth =
      ⟨.call c, span, depth⟩ :: c.operands.flatMap fun o => o.expr.sites o.span (depth + 1) := by
  rw [← sitesOfOperands_eq_flatMap]; rfl

theorem mem_sites_cast {e : Expr} {target : SqlType} {span : Span} {depth : Nat} {x : Site} :
    x ∈ (Expr.cast e target).sites span depth ↔
      x = ⟨.cast e target, span, depth⟩ ∨ x ∈ e.sites span (depth + 1) := by
  rw [sites, List.mem_cons]

theorem mem_sites_call {c : Call} {span : Span} {depth : Nat} {x : Site} :
    x ∈ (Expr.call c).sites span depth ↔
      x = ⟨.call c, span, depth⟩ ∨ ∃ o ∈ c.operands, x ∈ o.expr.sites o.span (depth + 1) := by
  rw [sites_call, List.mem_cons, List.mem_flatMap]

theorem self_mem_sites (e : Expr) (span : Span) (depth : Nat) :
    ⟨e, span, depth⟩ ∈ e.sites span depth := by
  cases e with
  | literal l => exact List.mem_singleton.2 rfl
  | chain fragments => exact List.mem_singleton.2 rfl
  | cast e target => exact List.mem_cons_self
  | column qualifier name => exact List.mem_singleton.2 rfl
  | call c => rw [sites_call]; exact List.mem_cons_self

/-- The sites are the nodes, in the same order. -/
theorem map_node_sites (e : Expr) (span : Span) (depth : Nat) :
    (e.sites span depth).map (·.node) = e.nodes := by
  induction e generalizing span depth with
  | literal l => rfl
  | chain fragments => rfl
  | cast e target ih => simp [sites, nodes, ih]
  | column qualifier name => rfl
  | call c ih =>
    rw [sites_call, nodes_call, List.map_cons, List.map_flatMap]
    congr 1
    exact List.flatMap_congr fun o ho => ih o ho o.span (depth + 1)

/-- Every node has a site, and every site is that of a node. -/
theorem mem_nodes_iff_site {e n : Expr} (span : Span) (depth : Nat) :
    n ∈ e.nodes ↔ ∃ x ∈ e.sites span depth, x.node = n := by
  rw [← map_node_sites e span depth, List.mem_map]

theorem mem_calls_iff_site {e : Expr} {c : Call} (span : Span) (depth : Nat) :
    c ∈ e.calls ↔ ∃ x ∈ e.sites span depth, x.node = .call c := by
  rw [mem_calls, mem_nodes_iff_site span depth]

/-- What stands below a site of an expression is a site of the expression. -/
theorem sites_trans {e : Expr} {span : Span} {depth : Nat} {x y : Site}
    (hx : x ∈ e.sites span depth) (hy : y ∈ x.node.sites x.span x.depth) :
    y ∈ e.sites span depth := by
  induction e generalizing span depth with
  | literal l => cases List.mem_singleton.1 hx; exact hy
  | chain fragments => cases List.mem_singleton.1 hx; exact hy
  | cast e target ih =>
    rcases mem_sites_cast.1 hx with rfl | hx
    · exact hy
    · exact mem_sites_cast.2 (.inr (ih hx))
  | column qualifier name => cases List.mem_singleton.1 hx; exact hy
  | call c ih =>
    rcases mem_sites_call.1 hx with rfl | ⟨o, ho, hx⟩
    · exact hy
    · exact mem_sites_call.2 (.inr ⟨o, ho, ih o ho hx⟩)

/-- No site is above the root. -/
theorem le_depth_of_mem_sites {e : Expr} {span : Span} {depth : Nat} {x : Site}
    (hx : x ∈ e.sites span depth) : depth ≤ x.depth := by
  induction e generalizing span depth with
  | literal l => cases List.mem_singleton.1 hx; exact Nat.le_refl _
  | chain fragments => cases List.mem_singleton.1 hx; exact Nat.le_refl _
  | cast e target ih =>
    rcases mem_sites_cast.1 hx with rfl | hx
    · exact Nat.le_refl _
    · have := ih hx; omega
  | column qualifier name => cases List.mem_singleton.1 hx; exact Nat.le_refl _
  | call c ih =>
    rcases mem_sites_call.1 hx with rfl | ⟨o, ho, hx⟩
    · exact Nat.le_refl _
    · have := ih o ho hx; omega

theorem mem_calls_trans {e : Expr} {c d : Call} (hc : c ∈ e.calls) (hd : d ∈ (Expr.call c).calls) :
    d ∈ e.calls := by
  obtain ⟨x, hx, hxnode⟩ := (mem_calls_iff_site e.rootSpan 1).1 hc
  obtain ⟨y, hy, hynode⟩ := (mem_calls_iff_site x.span x.depth).1 hd
  rw [← hxnode] at hy
  exact (mem_calls_iff_site e.rootSpan 1).2 ⟨y, sites_trans hx hy, hynode⟩

theorem mem_calls_of_below {e : Expr} {c d : Call} (hc : c ∈ e.calls) (hd : Below d c) :
    d ∈ e.calls := by
  obtain ⟨o, ho, hd⟩ := hd
  refine mem_calls_trans hc ?_
  rw [calls_call]
  exact List.mem_cons_of_mem _ (List.mem_flatMap.2 ⟨o, ho, hd⟩)

/-! ## Spans -/

/-- The node is the expression, or stands in it below casts only. -/
inductive UnderCasts (n : Expr) : Expr → Prop
  | here : UnderCasts n n
  | cast {e : Expr} (target : SqlType) : UnderCasts n e → UnderCasts n (.cast e target)

/-- The node stands in the expression where diagnostics about it point at the span: that of the
innermost operand around it, or that of the root if no operand is around it. -/
def Placed (e n : Expr) (root span : Span) : Prop :=
  (∃ c ∈ e.calls, ∃ o ∈ c.operands, UnderCasts n o.expr ∧ span = o.span) ∨
    (UnderCasts n e ∧ span = root)

theorem placed_of_mem_sites {e : Expr} {root : Span} {depth : Nat} {x : Site}
    (hx : x ∈ e.sites root depth) : e.Placed x.node root x.span := by
  induction e generalizing root depth with
  | literal l => cases List.mem_singleton.1 hx; exact .inr ⟨.here, rfl⟩
  | chain fragments => cases List.mem_singleton.1 hx; exact .inr ⟨.here, rfl⟩
  | cast e target ih =>
    rcases mem_sites_cast.1 hx with rfl | hx
    · exact .inr ⟨.here, rfl⟩
    · rcases ih hx with hin | ⟨hunder, hspan⟩
      · exact .inl hin
      · exact .inr ⟨.cast target hunder, hspan⟩
  | column qualifier name => cases List.mem_singleton.1 hx; exact .inr ⟨.here, rfl⟩
  | call c ih =>
    rcases mem_sites_call.1 hx with rfl | ⟨o, ho, hx⟩
    · exact .inr ⟨.here, rfl⟩
    · -- an operand that holds the node under casts only is the innermost one
      have hself : c ∈ (Expr.call c).calls := mem_calls.2 (self_mem_nodes _)
      rcases ih o ho hx with ⟨d, hd, o', ho', hin⟩ | ⟨hunder, hspan⟩
      · exact .inl ⟨d, mem_calls_of_below hself ⟨o, ho, hd⟩, o', ho', hin⟩
      · exact .inl ⟨c, hself, o, ho, hunder, hspan⟩

/-! ## Height -/

theorem height_call_le {c : Call} {n : Nat} :
    (Expr.call c).height ≤ n + 1 ↔ ∀ o ∈ c.operands, o.expr.height ≤ n := by
  obtain ⟨name, operands, quantifier, span⟩ := c
  rw [height, Nat.add_le_add_iff_right, heightOfOperands_le]

theorem height_pos (e : Expr) : 1 ≤ e.height := by
  cases e <;> simp [height]

/-- Every site is within a depth limit exactly if the height fits between the depth of the root and
the limit. -/
theorem sites_depth_le_iff {e : Expr} {span : Span} {depth limit : Nat} :
    (∀ x ∈ e.sites span depth, x.depth ≤ limit) ↔ depth + e.height ≤ limit + 1 := by
  induction e generalizing span depth with
  | literal l => simp [sites, height]
  | chain fragments => simp [sites, height]
  | cast e target ih =>
    have hpos := e.height_pos
    simp only [sites, List.forall_mem_cons, ih, height]
    omega
  | column qualifier name => simp [sites, height]
  | call c ih =>
    rw [sites_call, List.forall_mem_cons]
    simp only [List.mem_flatMap]
    constructor
    · rintro ⟨hroot, hbelow⟩
      -- the subtraction is exact: the root itself is within the limit
      have hos : ∀ o ∈ c.operands, o.expr.height ≤ limit - depth := by
        intro o ho
        have := (ih o ho).1 fun x hx => hbelow x ⟨o, ho, hx⟩
        omega
      have := height_call_le.2 hos
      omega
    · intro h
      have hpos := (Expr.call c).height_pos
      refine ⟨by omega, ?_⟩
      rintro x ⟨o, ho, hx⟩
      have hle : ∀ o ∈ c.operands, o.expr.height ≤ limit - depth :=
        height_call_le.1 (by omega)
      have hone := o.expr.height_pos
      have := hle o ho
      exact (ih o ho).2 (by omega) x hx

/-! ## Descents -/

/-- The nodes on a way from the root of an expression down to a leaf; a call without operands is a
leaf. -/
inductive Descent : Expr → List Expr → Prop
  | literal (l : Literal) : Descent (.literal l) [.literal l]
  | chain (fragments : List Literal) : Descent (.chain fragments) [.chain fragments]
  | column (qualifier : Option String) (name : String) :
      Descent (.column qualifier name) [.column qualifier name]
  | cast {e : Expr} {path : List Expr} (target : SqlType) :
      Descent e path → Descent (.cast e target) (.cast e target :: path)
  | bare {c : Call} : c.operands = [] → Descent (.call c) [.call c]
  | operand {c : Call} {o : Operand} {path : List Expr} :
      o ∈ c.operands → Descent o.expr path → Descent (.call c) (.call c :: path)

/-- A descent stays among the nodes of the expression. -/
theorem Descent.mem_nodes {e n : Expr} {path : List Expr} (h : Descent e path) (hn : n ∈ path) :
    n ∈ e.nodes := by
  induction h with
  | literal l => exact hn
  | chain fragments => exact hn
  | column qualifier name => exact hn
  | cast target _ ih =>
    rcases List.mem_cons.1 hn with rfl | hn
    · exact self_mem_nodes _
    · exact List.mem_cons_of_mem _ (ih hn)
  | bare _ => cases List.mem_singleton.1 hn; exact self_mem_nodes _
  | operand ho _ ih =>
    rcases List.mem_cons.1 hn with rfl | hn
    · exact self_mem_nodes _
    · exact mem_nodes_call.2 (.inr ⟨_, ho, ih hn⟩)

end SqlTyping.Expr
