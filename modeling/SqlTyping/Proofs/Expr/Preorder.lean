/-
Search in pre-order. A node has an address in the expression: the numbers of the parts that are
taken on the way down from the root. A root has the least address of all, and whatever stands in one
part has a lesser address than whatever stands in a part further right, so the lexicographic order of
addresses is pre-order. `nodes` lists the nodes at all addresses in this order, and a search ends at
the least address whose node satisfies the predicate.
-/
import Mathlib.Data.List.Lex
import SqlTyping.Proofs.Expr.Sites

namespace SqlTyping.Expr

/-! ## Parts -/

/-- What stands directly below a node, from left to right. -/
def parts : Expr → List Expr
  | .cast e _ => [e]
  | .call c => c.operands.map (·.expr)
  | .literal _ | .chain _ | .column _ _ => []

/-- Induction on an expression, with one hypothesis for each part. -/
theorem induct_parts {motive : Expr → Prop}
    (node : ∀ e : Expr, (∀ part ∈ e.parts, motive part) → motive e) (e : Expr) : motive e := by
  induction e with
  | literal l => exact node _ fun _ h => nomatch h
  | chain fragments => exact node _ fun _ h => nomatch h
  | cast e target ih => exact node _ fun part h => List.mem_singleton.1 h ▸ ih
  | column qualifier name => exact node _ fun _ h => nomatch h
  | call c ih =>
    refine node _ fun part h => ?_
    obtain ⟨o, ho, rfl⟩ := List.mem_map.1 h
    exact ih o ho

theorem nodes_eq_cons (e : Expr) : e.nodes = e :: e.parts.flatMap nodes := by
  cases e with
  | literal l => rfl
  | chain fragments => rfl
  | cast e target => simp [nodes, parts]
  | column qualifier name => rfl
  | call c => rw [nodes_call, parts, List.flatMap_map]

/-! ## Addresses -/

/-- The node at an address, if the expression has one there. -/
def at? : Expr → List Nat → Option Expr
  | e, [] => some e
  | e, i :: rest => e.parts[i]?.bind (·.at? rest)

mutual

/-- The addresses of the nodes of the expression, in the order of `nodes`. -/
def addresses : Expr → List (List Nat)
  | .literal _ | .chain _ | .column _ _ => [[]]
  | .cast e _ => [] :: e.addresses.map (0 :: ·)
  | .call ⟨_, operands, _, _⟩ => [] :: addressesOfOperands 0 operands
termination_by structural e => e

/-- The addresses of the nodes of the operands, which are numbered from `i` on. -/
def addressesOfOperands (i : Nat) : List Operand → List (List Nat)
  | [] => []
  | ⟨e, _⟩ :: operands => e.addresses.map (i :: ·) ++ addressesOfOperands (i + 1) operands
termination_by structural operands => operands

end

theorem addressesOfOperands_eq_flatMap (i : Nat) (operands : List Operand) :
    addressesOfOperands i operands =
      ((operands.map (·.expr)).zipIdx i).flatMap fun x => x.1.addresses.map (x.2 :: ·) := by
  induction operands generalizing i with
  | nil => rfl
  | cons o operands ih => simp [addressesOfOperands, ih]

theorem addresses_eq_cons (e : Expr) :
    e.addresses = [] :: e.parts.zipIdx.flatMap fun x => x.1.addresses.map (x.2 :: ·) := by
  cases e with
  | literal l => rfl
  | chain fragments => rfl
  | cast e target => simp [addresses, parts]
  | column qualifier name => rfl
  | call c => rw [parts, ← addressesOfOperands_eq_flatMap]; rfl

theorem at?_cons_of_mem {e : Expr} {x : Expr × Nat} (h : x ∈ e.parts.zipIdx) (rest : List Nat) :
    e.at? (x.2 :: rest) = x.1.at? rest := by
  rw [at?, List.mem_zipIdx_iff_getElem?.1 h, Option.bind_some]

/-- The addresses are exactly those where the expression has a node. -/
theorem mem_addresses {e : Expr} {a : List Nat} : a ∈ e.addresses ↔ (e.at? a).isSome = true := by
  induction e using induct_parts generalizing a with
  | node e ih =>
    rw [addresses_eq_cons, List.mem_cons, List.mem_flatMap]
    cases a with
    | nil => simp [at?]
    | cons i rest =>
      constructor
      · rintro (h | ⟨x, hx, h⟩)
        · cases h
        · obtain ⟨rest', hrest, heq⟩ := List.mem_map.1 h
          cases heq
          rw [at?_cons_of_mem hx]
          exact (ih x.1 (List.fst_mem_of_mem_zipIdx hx)).1 hrest
      · intro h
        rw [at?, Option.isSome_bind, Option.any_eq_true] at h
        obtain ⟨part, hpart, h⟩ := h
        refine .inr ⟨(part, i), List.mem_zipIdx_iff_getElem?.2 hpart, List.mem_map.2 ⟨rest, ?_, rfl⟩⟩
        exact (ih part (List.mem_of_getElem? hpart)).2 h

/-- The addresses stand in lexicographic order. -/
theorem addresses_pairwise_lt (e : Expr) : e.addresses.Pairwise (· < ·) := by
  induction e using induct_parts with
  | node e ih =>
    have hinside : ∀ x ∈ e.parts.zipIdx, (x.1.addresses.map (x.2 :: ·)).Pairwise (· < ·) := by
      intro x hx
      rw [List.pairwise_map]
      refine (ih x.1 (List.fst_mem_of_mem_zipIdx hx)).imp fun h => ?_
      exact List.cons_lt_cons_iff.2 (.inr ⟨rfl, h⟩)
    -- addresses in two different parts differ in their first number already
    have hacross : e.parts.zipIdx.Pairwise fun x y =>
        ∀ a ∈ x.1.addresses.map (x.2 :: ·), ∀ b ∈ y.1.addresses.map (y.2 :: ·), a < b := by
      have hnumbers : (e.parts.zipIdx.map (·.2)).Pairwise (· < ·) := by
        rw [List.zipIdx_map_snd]
        exact List.pairwise_lt_range'
      refine (List.pairwise_map.1 hnumbers).imp fun hlt a ha b hb => ?_
      obtain ⟨_, _, rfl⟩ := List.mem_map.1 ha
      obtain ⟨_, _, rfl⟩ := List.mem_map.1 hb
      exact List.cons_lt_cons_iff.2 (.inl hlt)
    rw [addresses_eq_cons, List.pairwise_cons]
    refine ⟨fun a ha => ?_, List.pairwise_flatMap.2 ⟨hinside, hacross⟩⟩
    obtain ⟨x, _, ha⟩ := List.mem_flatMap.1 ha
    obtain ⟨rest, _, rfl⟩ := List.mem_map.1 ha
    exact List.nil_lt_cons _ _

/-- `nodes` lists the nodes at the addresses. -/
theorem map_at?_addresses (e : Expr) : e.addresses.map e.at? = e.nodes.map some := by
  induction e using induct_parts with
  | node e ih =>
    have hpart : ∀ x ∈ e.parts.zipIdx,
        (x.1.addresses.map (x.2 :: ·)).map e.at? = x.1.nodes.map some := by
      intro x hx
      rw [← ih x.1 (List.fst_mem_of_mem_zipIdx hx), List.map_map]
      exact List.map_congr_left fun rest _ => at?_cons_of_mem hx rest
    have hfst : e.parts.flatMap nodes = e.parts.zipIdx.flatMap (·.1.nodes) := by
      conv_lhs => rw [← List.zipIdx_map_fst 0 e.parts, List.flatMap_map]
    rw [addresses_eq_cons, nodes_eq_cons, List.map_cons, List.map_cons, hfst, List.map_flatMap,
      List.map_flatMap, List.flatMap_congr hpart]
    rfl

/-! ## Pre-order -/

/-- The list holds the nodes at all addresses of the expression, in the order of the addresses. -/
def InPreorder (e : Expr) (listed : List Expr) : Prop :=
  ∃ addresses : List (List Nat), addresses.Pairwise (· < ·) ∧
    (∀ a, a ∈ addresses ↔ (e.at? a).isSome = true) ∧ addresses.map e.at? = listed.map some

theorem inPreorder_nodes (e : Expr) : e.InPreorder e.nodes :=
  ⟨e.addresses, e.addresses_pairwise_lt, fun _ => mem_addresses, e.map_at?_addresses⟩

namespace InPreorder

variable {e n : Expr} {listed : List Expr}

/-- What is said of all nodes before a node in the list is said of the nodes at all addresses that
are less than the one of that node. -/
theorem exists_split_iff (h : e.InPreorder listed) {Q : Expr → Prop} :
    (∃ before after, listed = before ++ n :: after ∧ ∀ m ∈ before, Q m) ↔
      ∃ a, e.at? a = some n ∧ ∀ b < a, ∀ m, e.at? b = some m → Q m := by
  obtain ⟨addresses, hsorted, hall, hlisted⟩ := h
  constructor
  · rintro ⟨before, after, rfl, hbefore⟩
    rw [List.map_append, List.map_cons, List.map_eq_append_iff] at hlisted
    obtain ⟨less, rest, rfl, hless, hrest⟩ := hlisted
    obtain ⟨a, greater, rfl, ha, _⟩ := List.map_eq_cons_iff.1 hrest
    refine ⟨a, ha, fun b hb m hm => ?_⟩
    have hmem : b ∈ less ++ a :: greater := (hall b).2 (by rw [hm]; rfl)
    rcases List.mem_append.1 hmem with hb' | hb'
    · have hm' : some m ∈ before.map some := by
        rw [← hless, ← hm]
        exact List.mem_map_of_mem hb'
      obtain ⟨m', hm', heq⟩ := List.mem_map.1 hm'
      cases heq
      exact hbefore m hm'
    · -- at the node itself or after it there is no lesser address
      rcases List.mem_cons.1 hb' with rfl | hb'
      · exact absurd hb (lt_irrefl b)
      · have hlt := (List.pairwise_cons.1 (List.pairwise_append.1 hsorted).2.1).1 b hb'
        exact absurd hb (lt_asymm hlt)
  · rintro ⟨a, ha, hbelow⟩
    obtain ⟨less, greater, rfl⟩ := List.append_of_mem ((hall a).2 (by rw [ha]; rfl))
    rw [List.map_append, List.map_cons, ha, eq_comm, List.map_eq_append_iff] at hlisted
    obtain ⟨before, rest, rfl, hbefore, hrest⟩ := hlisted
    obtain ⟨n', after, rfl, hn, _⟩ := List.map_eq_cons_iff.1 hrest
    cases hn
    refine ⟨before, after, rfl, fun m hm => ?_⟩
    have hm' : some m ∈ less.map e.at? := by
      rw [← hbefore]
      exact List.mem_map_of_mem hm
    obtain ⟨b, hb, hbm⟩ := List.mem_map.1 hm'
    exact hbelow b ((List.pairwise_append.1 hsorted).2.2 b hb a List.mem_cons_self) m hbm

theorem mem_iff (h : e.InPreorder listed) : n ∈ listed ↔ ∃ a, e.at? a = some n := by
  have hsplit := h.exists_split_iff (n := n) (Q := fun _ => True)
  simp only [implies_true, and_true] at hsplit
  rw [List.mem_iff_append, hsplit]

end InPreorder

/-- A search through an expression is a search through the list of its nodes in pre-order. So it
gives the node at the least address whose node satisfies the predicate, and nothing exactly if no
node of the expression, at any address, satisfies it. -/
theorem find?_gives_first_in_preorder (e : Expr) (p : Expr → Bool) :
    e.InPreorder e.nodes ∧ e.find? p = e.nodes.find? p ∧
      (∀ n, e.find? p = some n ↔
        ∃ a, e.at? a = some n ∧ p n = true ∧ ∀ b < a, ∀ m, e.at? b = some m → p m = false) ∧
      (e.find? p = none ↔ ∀ n ∈ e.nodes, p n = false) ∧
      (e.find? p = none ↔ ∀ a n, e.at? a = some n → p n = false) := by
  have horder := e.inPreorder_nodes
  have hlist := find?_eq_nodes_find? p e
  have hnone : e.find? p = none ↔ ∀ n ∈ e.nodes, p n = false := by
    rw [hlist, List.find?_eq_none]
    simp
  refine ⟨horder, hlist, fun n => ?_, hnone, ?_⟩
  · rw [hlist, List.find?_eq_some_iff_append]
    simp only [Bool.not_eq_true']
    rw [horder.exists_split_iff, ← exists_and_left]
    simp only [and_left_comm]
  · rw [hnone]
    simp only [horder.mem_iff, forall_exists_index]
    exact forall_comm

end SqlTyping.Expr
