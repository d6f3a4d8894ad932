/-
Routes in a tree. A route goes from a node down to a node inside it and names each child on the way by its place among
the children.

- `Node.at?`: the node at the end of a route. `Node.modifyAt`: the tree with the node there changed.
- `at?_modifyAt_of_apart`: a change is not seen at the end of a route that neither leads to it nor through it.
- `Route.Before`: two routes part, and the first one goes into the earlier child. Routes that part this way lead to
  nodes of which neither is inside the other (`Before.apart`).
-/
import ResourceInliner.Proofs.Tree.Children

namespace ResourceInliner

/-- the way from a node down to a node inside it: the place of each child on the way -/
abbrev Route := List Nat

namespace Node

/-- the node at the end of a route -/
def at? : Node → Route → Option Node
  | node, [] => some node
  | node, i :: route =>
    match node.children[i]? with
    | none => none
    | some child => child.at? route

/-- the tree with the node at the end of a route changed -/
def modifyAt (f : Node → Node) : Route → Node → Node
  | [], node => f node
  | i :: route, node => node.withChildren (node.children.modify i (modifyAt f route))

/-! ## Looking along a route -/

@[simp] theorem at?_nil (node : Node) : node.at? [] = some node := rfl

theorem at?_cons {node child : Node} {i : Nat} (h : node.children[i]? = some child) (route : Route) :
    node.at? (i :: route) = child.at? route := by
  rw [at?, h]

theorem at?_cons_eq_some {node target : Node} {i : Nat} {route : Route} (h : node.at? (i :: route) = some target) :
    ∃ child, node.children[i]? = some child ∧ child.at? route = some target := by
  rw [at?] at h
  split at h
  · simp at h
  · rename_i child hchild
    exact ⟨child, hchild, h⟩

/-- a route on from the end of another is a route from the start -/
theorem at?_append {node inner : Node} {p : Route} (h : node.at? p = some inner) (q : Route) :
    node.at? (p ++ q) = inner.at? q := by
  induction p generalizing node with
  | nil =>
    rw [at?_nil, Option.some.injEq] at h
    rw [List.nil_append, h]
  | cons i p ih =>
    obtain ⟨child, hchild, hinner⟩ := at?_cons_eq_some h
    rw [List.cons_append, at?_cons hchild, ih hinner]

/-- a route leads through every node on its way -/
theorem at?_of_append {node target : Node} {p q : Route} (h : node.at? (p ++ q) = some target) :
    ∃ inner, node.at? p = some inner ∧ inner.at? q = some target := by
  induction p generalizing node with
  | nil => exact ⟨node, rfl, h⟩
  | cons i p ih =>
    obtain ⟨child, hchild, htarget⟩ := at?_cons_eq_some h
    obtain ⟨inner, hinner, hq⟩ := ih htarget
    exact ⟨inner, by rw [at?_cons hchild, hinner], hq⟩

/-- a test passes on the node and on all nodes inside it, of which none is deeper than this -/
def allWithin (test : Node → Bool) : Nat → Node → Bool
  | 0, _ => false
  | depth + 1, node => test node && node.children.all (allWithin test depth)

theorem of_allWithin {test : Node → Bool} {depth : Nat} {node : Node} (h : allWithin test depth node = true)
    (route : Route) (target : Node) (hat : node.at? route = some target) : test target = true := by
  induction route generalizing depth node with
  | nil =>
    rw [at?_nil, Option.some.injEq] at hat
    cases depth with
    | zero => cases h
    | succ depth =>
      rw [allWithin, Bool.and_eq_true] at h
      rw [← hat, h.1]
  | cons i route ih =>
    obtain ⟨child, hchild, htarget⟩ := at?_cons_eq_some hat
    cases depth with
    | zero => cases h
    | succ depth =>
      rw [allWithin, Bool.and_eq_true] at h
      exact ih (List.all_eq_true.1 h.2 child (List.mem_of_getElem? hchild)) htarget

/-! ## Changing a node -/

theorem children_modifyAt (f : Node → Node) (i : Nat) (route : Route) (node : Node) :
    (modifyAt f (i :: route) node).children = node.children.modify i (modifyAt f route) :=
  children_withChildren node _ (List.length_modify ..)

theorem modifyAt_id (route : Route) (node : Node) : modifyAt id route node = node := by
  induction route generalizing node with
  | nil => rfl
  | cons i route ih =>
    have hid : modifyAt id route = id := funext ih
    rw [modifyAt, hid, List.modify_id, withChildren_children]

/-- changing twice at one place is changing once -/
theorem modifyAt_modifyAt (f g : Node → Node) (route : Route) (node : Node) :
    modifyAt g route (modifyAt f route node) = modifyAt (g ∘ f) route node := by
  induction route generalizing node with
  | nil => rfl
  | cons i route ih =>
    have hcomp : modifyAt g route ∘ modifyAt f route = modifyAt (g ∘ f) route := funext ih
    rw [modifyAt, children_modifyAt, modifyAt, modifyAt,
      withChildren_withChildren _ _ _ (List.length_modify ..) (by simp), List.modify_modify_eq, hcomp]

/-- a change further on is a change of the node on the way -/
theorem modifyAt_append (f : Node → Node) (p q : Route) (node : Node) :
    modifyAt f (p ++ q) node = modifyAt (modifyAt f q) p node := by
  induction p generalizing node with
  | nil => rfl
  | cons i p ih =>
    have hin : modifyAt f (p ++ q) = modifyAt (modifyAt f q) p := funext ih
    rw [List.cons_append, modifyAt, modifyAt, hin]

/-- what counts is only what the change makes of the node that is there -/
theorem modifyAt_congr_at {f g : Node → Node} {node target : Node} {route : Route} (h : node.at? route = some target)
    (hfg : f target = g target) : modifyAt f route node = modifyAt g route node := by
  induction route generalizing node with
  | nil =>
    rw [at?_nil, Option.some.injEq] at h
    rw [modifyAt, modifyAt, h, hfg]
  | cons i route ih =>
    obtain ⟨child, hchild, htarget⟩ := at?_cons_eq_some h
    obtain ⟨hi, hget⟩ := List.getElem?_eq_some_iff.1 hchild
    have hmodify : node.children.modify i (modifyAt f route) = node.children.modify i (modifyAt g route) := by
      rw [List.modify_eq_take_cons_drop hi, List.modify_eq_take_cons_drop hi, hget, ih htarget]
    rw [modifyAt, modifyAt, hmodify]

/-- a change is not seen at the end of a route that neither leads to it nor through it -/
theorem at?_modifyAt_of_apart (f : Node → Node) {p q : Route} (hpq : ¬ p <+: q) (hqp : ¬ q <+: p) (node : Node) :
    (modifyAt f p node).at? q = node.at? q := by
  induction p generalizing q node with
  | nil => exact absurd List.nil_prefix hpq
  | cons i p ih =>
    cases q with
    | nil => exact absurd List.nil_prefix hqp
    | cons j q =>
      by_cases hij : i = j
      · subst hij
        have hp : ¬ p <+: q := fun h => hpq ((List.prefix_cons_inj i).2 h)
        have hq : ¬ q <+: p := fun h => hqp ((List.prefix_cons_inj i).2 h)
        cases hchild : node.children[i]? with
        | none => simp [at?, children_modifyAt, hchild]
        | some child =>
          have hnew : (modifyAt f (i :: p) node).children[i]? = some (modifyAt f p child) := by
            rw [children_modifyAt, List.getElem?_modify_eq, hchild]; rfl
          rw [at?_cons hnew, at?_cons hchild, ih hp hq]
      · simp only [at?, children_modifyAt, List.getElem?_modify_ne _ _ hij]

end Node

/-! ## Routes that part -/

/-- the routes part, and the first one goes into the earlier child -/
def Route.Before (p q : Route) : Prop :=
  ∃ (stem : Route) (i j : Nat) (p' q' : Route), p = stem ++ i :: p' ∧ q = stem ++ j :: q' ∧ i < j

namespace Route

theorem Before.of_lt {i j : Nat} (h : i < j) (p q : Route) : Before (i :: p) (j :: q) :=
  ⟨[], i, j, p, q, rfl, rfl, h⟩

theorem Before.append_left {p q : Route} (h : Before p q) (stem : Route) : Before (stem ++ p) (stem ++ q) := by
  obtain ⟨s, i, j, p', q', rfl, rfl, hij⟩ := h
  exact ⟨stem ++ s, i, j, p', q', by simp, by simp, hij⟩

theorem Before.append_right {p q : Route} (h : Before p q) (p' q' : Route) : Before (p ++ p') (q ++ q') := by
  obtain ⟨s, i, j, a, b, rfl, rfl, hij⟩ := h
  exact ⟨s, i, j, a ++ p', b ++ q', by simp, by simp, hij⟩

/-- of two nodes on routes that part, neither is inside the other -/
theorem Before.apart {p q : Route} (h : Before p q) : ¬ p <+: q ∧ ¬ q <+: p := by
  obtain ⟨s, i, j, p', q', rfl, rfl, hij⟩ := h
  constructor
  · intro hp
    have := (List.cons_prefix_cons.1 ((List.prefix_append_right_inj s).1 hp)).1
    omega
  · intro hq
    have := (List.cons_prefix_cons.1 ((List.prefix_append_right_inj s).1 hq)).1
    omega

end Route

end ResourceInliner
