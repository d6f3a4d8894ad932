/-
What is directly inside a node. `Node.children` lists it in the order in which it is visited, `Node.withChildren` puts
other nodes in its place and leaves the rest of the node alone.

- `withChildren_children`, `children_withChildren`: the two fit together, so a node is its own data and its children.
- `Node.sizeOf_lt`: children are smaller, so recursion into them ends.
-/
import Mathlib.Tactic.Basic
import Mathlib.Data.List.Basic
import ResourceInliner.Tree

namespace ResourceInliner

/-! ## Children -/

/-- the node in a computed key -/
def Key.children : Key → List Node
  | .computed _ inner => [inner]
  | _ => []

/-- the node in an entry of an array -/
def Item.children : Item → List Node
  | .hole => []
  | .element value | .spread _ value => [value]

/-- the nodes in a property -/
def Property.children : Property → List Node
  | .keyValue key value => key.children ++ [value]
  | .shorthand _ _ => []
  | .withDefault _ _ _ value => [value]
  | .method _ _ key parts => key.children ++ parts
  | .spread _ operand => [operand]

/-- the nodes directly inside a node, in the order in which they are visited -/
def Node.children : Node → List Node
  | .name _ _ | .string _ _ _ => []
  | .array _ items => items.flatMap Item.children
  | .object _ props => props.flatMap Property.children
  | .call _ callee args types => callee :: (args ++ types)
  | .cls _ _ decorators parts => decorators ++ parts
  | .other _ _ parts => parts

/-! ## Other children -/

/-- the key with another node in it -/
def Key.withChildren : Key → List Node → Key
  | .computed span _, inner :: _ => .computed span inner
  | key, _ => key

/-- the entry with another node in it -/
def Item.withChildren : Item → List Node → Item
  | .element _, value :: _ => .element value
  | .spread dots _, value :: _ => .spread dots value
  | item, _ => item

/-- the property with other nodes in it -/
def Property.withChildren : Property → List Node → Property
  | .keyValue key value, nodes =>
    .keyValue (key.withChildren nodes) ((nodes.drop key.children.length).headD value)
  | .withDefault span at_ name value, nodes => .withDefault span at_ name (nodes.headD value)
  | .method form span key _, nodes =>
    .method form span (key.withChildren nodes) (nodes.drop key.children.length)
  | .spread dots operand, nodes => .spread dots (nodes.headD operand)
  | prop, _ => prop

/-- hand nodes out to entries, to each as many as it holds -/
def handOut {α : Type} (children : α → List Node) (put : α → List Node → α) : List α → List Node → List α
  | [], _ => []
  | a :: rest, nodes =>
    put a (nodes.take (children a).length) :: handOut children put rest (nodes.drop (children a).length)

/-- the node with other nodes in it, given in the order of its children -/
def Node.withChildren : Node → List Node → Node
  | .array span items, nodes => .array span (handOut Item.children Item.withChildren items nodes)
  | .object span props, nodes => .object span (handOut Property.children Property.withChildren props nodes)
  | .call span callee args _, nodes =>
    .call span (nodes.headD callee) (nodes.tail.take args.length) (nodes.tail.drop args.length)
  | .cls form span decorators _, nodes =>
    .cls form span (nodes.take decorators.length) (nodes.drop decorators.length)
  | .other kind span _, nodes => .other kind span nodes
  | node, _ => node

/-! ## The two fit together -/

section HandOut

variable {α : Type} {children : α → List Node} {put : α → List Node → α}

theorem handOut_flatMap (h : ∀ a, put a (children a) = a) (l : List α) :
    handOut children put l (l.flatMap children) = l := by
  induction l with
  | nil => rfl
  | cons a rest ih => simp [handOut, h, ih]

theorem flatMap_handOut (h : ∀ a nodes, nodes.length = (children a).length → children (put a nodes) = nodes)
    (l : List α) (nodes : List Node) (hn : nodes.length = (l.flatMap children).length) :
    (handOut children put l nodes).flatMap children = nodes := by
  induction l generalizing nodes with
  | nil => simpa [handOut, eq_comm] using hn
  | cons a rest ih =>
    simp only [List.flatMap_cons, List.length_append] at hn
    have hfront : (nodes.take (children a).length).length = (children a).length := by
      rw [List.length_take]; omega
    have hback : (nodes.drop (children a).length).length = (rest.flatMap children).length := by
      rw [List.length_drop]; omega
    rw [handOut, List.flatMap_cons, h a _ hfront, ih _ hback, List.take_append_drop]

end HandOut

theorem Key.withChildren_children (key : Key) : key.withChildren key.children = key := by
  cases key <;> rfl

theorem Key.withChildren_append (key : Key) (nodes : List Node) :
    key.withChildren (key.children ++ nodes) = key := by
  cases key with
  | computed span inner => rfl
  | _ => cases nodes <;> rfl

theorem Item.withChildren_children (item : Item) : item.withChildren item.children = item := by
  cases item <;> rfl

theorem Property.withChildren_children (prop : Property) : prop.withChildren prop.children = prop := by
  cases prop with
  | keyValue key value => simp [withChildren, children, Key.withChildren_append]
  | method form span key parts => simp [withChildren, children, Key.withChildren_append]
  | _ => rfl

/-- a node with its own children put back is the node -/
theorem Node.withChildren_children (node : Node) : node.withChildren node.children = node := by
  cases node with
  | array span items => rw [children, withChildren, handOut_flatMap Item.withChildren_children]
  | object span props => rw [children, withChildren, handOut_flatMap Property.withChildren_children]
  | call span callee args types => simp [children, withChildren]
  | cls form span decorators parts => simp [children, withChildren]
  | _ => rfl

theorem Key.children_withChildren (key : Key) (nodes : List Node) (h : key.children.length ≤ nodes.length) :
    (key.withChildren nodes).children = nodes.take key.children.length := by
  cases key with
  | computed span inner =>
    cases nodes with
    | nil => simp [children] at h
    | cons node rest => rfl
  | _ => cases nodes <;> rfl

theorem Item.children_withChildren (item : Item) (nodes : List Node) (h : nodes.length = item.children.length) :
    (item.withChildren nodes).children = nodes := by
  cases item with
  | hole => simpa [children, withChildren, eq_comm] using h
  | _ =>
    obtain ⟨node, rfl⟩ := List.length_eq_one_iff.1 h
    rfl

theorem Property.children_withChildren (prop : Property) (nodes : List Node)
    (h : nodes.length = prop.children.length) : (prop.withChildren nodes).children = nodes := by
  cases prop with
  | shorthand span name => simpa [children, withChildren, eq_comm] using h
  | keyValue key value =>
    simp only [children, List.length_append, List.length_singleton] at h
    have hlast : (nodes.drop key.children.length).length = 1 := by rw [List.length_drop]; omega
    obtain ⟨node, hnode⟩ := List.length_eq_one_iff.1 hlast
    simp only [withChildren, children, Key.children_withChildren key nodes (by omega), hnode, List.headD_cons]
    rw [← hnode, List.take_append_drop]
  | method form span key parts =>
    simp only [children, List.length_append] at h
    simp only [withChildren, children, Key.children_withChildren key nodes (by omega), List.take_append_drop]
  | _ =>
    obtain ⟨node, rfl⟩ := List.length_eq_one_iff.1 h
    rfl

/-- the children of a node are those that were put in, if they are as many as before -/
theorem Node.children_withChildren (node : Node) (nodes : List Node) (h : nodes.length = node.children.length) :
    (node.withChildren nodes).children = nodes := by
  cases node with
  | array span items => exact flatMap_handOut Item.children_withChildren items nodes h
  | object span props => exact flatMap_handOut Property.children_withChildren props nodes h
  | call span callee args types =>
    cases nodes with
    | nil => simp [children] at h
    | cons node rest => simp [children, withChildren]
  | cls form span decorators parts => simp [children, withChildren]
  | other kind span parts => rfl
  | _ => simpa [children, withChildren, eq_comm] using h

/-! ## The last change counts -/

theorem handOut_handOut {α : Type} {children : α → List Node} {put : α → List Node → α}
    (hc : ∀ a nodes, nodes.length = (children a).length → children (put a nodes) = nodes)
    (hp : ∀ a first second, first.length = (children a).length → second.length = (children a).length →
      put (put a first) second = put a second)
    (l : List α) (first second : List Node) (hf : first.length = (l.flatMap children).length)
    (hs : second.length = (l.flatMap children).length) :
    handOut children put (handOut children put l first) second = handOut children put l second := by
  induction l generalizing first second with
  | nil => rfl
  | cons a rest ih =>
    simp only [List.flatMap_cons, List.length_append] at hf hs
    have hfa : (first.take (children a).length).length = (children a).length := by rw [List.length_take]; omega
    have hsa : (second.take (children a).length).length = (children a).length := by rw [List.length_take]; omega
    simp only [handOut, hc a _ hfa, hfa]
    rw [hp a _ _ hfa hsa, ih _ _ (by rw [List.length_drop]; omega) (by rw [List.length_drop]; omega)]

theorem Key.withChildren_withChildren (key : Key) (first second : List Node)
    (hs : key.children.length ≤ second.length) :
    (key.withChildren first).withChildren second = key.withChildren second := by
  cases key with
  | computed span inner =>
    cases second with
    | nil => simp [children] at hs
    | cons node rest => cases first <;> rfl
  | _ => cases first <;> cases second <;> rfl

theorem Item.withChildren_withChildren (item : Item) (first second : List Node)
    (hf : first.length = item.children.length) (hs : second.length = item.children.length) :
    (item.withChildren first).withChildren second = item.withChildren second := by
  cases item with
  | hole => cases first <;> cases second <;> rfl
  | _ =>
    obtain ⟨a, rfl⟩ := List.length_eq_one_iff.1 hf
    obtain ⟨b, rfl⟩ := List.length_eq_one_iff.1 hs
    rfl

theorem Property.withChildren_withChildren (prop : Property) (first second : List Node)
    (hf : first.length = prop.children.length) (hs : second.length = prop.children.length) :
    (prop.withChildren first).withChildren second = prop.withChildren second := by
  cases prop with
  | shorthand span name => cases first <;> cases second <;> rfl
  | keyValue key value =>
    simp only [children, List.length_append, List.length_singleton] at hf hs
    have hkey : (key.withChildren first).children.length = key.children.length := by
      rw [Key.children_withChildren key first (by omega), List.length_take]; omega
    have hlast : (second.drop key.children.length).length = 1 := by rw [List.length_drop]; omega
    obtain ⟨node, hnode⟩ := List.length_eq_one_iff.1 hlast
    simp only [withChildren, hkey, hnode, List.headD_cons]
    rw [Key.withChildren_withChildren key first second (by omega)]
  | method form span key parts =>
    simp only [children, List.length_append] at hf hs
    have hkey : (key.withChildren first).children.length = key.children.length := by
      rw [Key.children_withChildren key first (by omega), List.length_take]; omega
    simp only [withChildren, hkey]
    rw [Key.withChildren_withChildren key first second (by omega)]
  | _ =>
    obtain ⟨a, rfl⟩ := List.length_eq_one_iff.1 hf
    obtain ⟨b, rfl⟩ := List.length_eq_one_iff.1 hs
    rfl

/-- of two changes of the children only the last one counts -/
theorem Node.withChildren_withChildren (node : Node) (first second : List Node)
    (hf : first.length = node.children.length) (hs : second.length = node.children.length) :
    (node.withChildren first).withChildren second = node.withChildren second := by
  cases node with
  | array span items =>
    rw [withChildren, withChildren, withChildren,
      handOut_handOut Item.children_withChildren Item.withChildren_withChildren items first second hf hs]
  | object span props =>
    rw [withChildren, withChildren, withChildren,
      handOut_handOut Property.children_withChildren Property.withChildren_withChildren props first second hf hs]
  | call span callee args types =>
    simp only [children, List.length_cons, List.length_append] at hf hs
    obtain ⟨a, first, rfl⟩ := List.exists_cons_of_length_pos (by omega : 0 < first.length)
    obtain ⟨b, second, rfl⟩ := List.exists_cons_of_length_pos (by omega : 0 < second.length)
    simp only [List.length_cons] at hf
    have hargs : (first.take args.length).length = args.length := by rw [List.length_take]; omega
    simp [withChildren, hargs]
  | cls form span decorators parts =>
    simp only [children, List.length_append] at hf
    have hdecorators : (first.take decorators.length).length = decorators.length := by
      rw [List.length_take]; omega
    simp [withChildren, hdecorators]
  | _ => cases first <;> cases second <;> rfl

/-! ## Children are smaller -/

theorem Key.sizeOf_lt {key : Key} {node : Node} (h : node ∈ key.children) : sizeOf node < sizeOf key := by
  cases key with
  | computed span inner =>
    rw [children, List.mem_singleton] at h
    subst h
    simp only [Key.computed.sizeOf_spec]; omega
  | _ => simp [children] at h

theorem Item.sizeOf_lt {item : Item} {node : Node} (h : node ∈ item.children) : sizeOf node < sizeOf item := by
  cases item with
  | hole => simp [children] at h
  | element value =>
    rw [children, List.mem_singleton] at h
    subst h
    simp only [Item.element.sizeOf_spec]; omega
  | spread dots value =>
    rw [children, List.mem_singleton] at h
    subst h
    simp only [Item.spread.sizeOf_spec]; omega

theorem Property.sizeOf_lt {prop : Property} {node : Node} (h : node ∈ prop.children) :
    sizeOf node < sizeOf prop := by
  cases prop with
  | keyValue key value =>
    simp only [children, List.mem_append, List.mem_singleton] at h
    simp only [Property.keyValue.sizeOf_spec]
    rcases h with h | rfl
    · have := Key.sizeOf_lt h; omega
    · omega
  | shorthand span name => simp [children] at h
  | withDefault span at_ name value =>
    rw [children, List.mem_singleton] at h
    subst h
    simp only [Property.withDefault.sizeOf_spec]; omega
  | method form span key parts =>
    simp only [children, List.mem_append] at h
    simp only [Property.method.sizeOf_spec]
    rcases h with h | h
    · have := Key.sizeOf_lt h; omega
    · have := List.sizeOf_lt_of_mem h; omega
  | spread dots operand =>
    rw [children, List.mem_singleton] at h
    subst h
    simp only [Property.spread.sizeOf_spec]; omega

/-- a child is smaller than its node -/
theorem Node.sizeOf_lt {node child : Node} (h : child ∈ node.children) : sizeOf child < sizeOf node := by
  cases node with
  | array span items =>
    obtain ⟨item, hitem, hchild⟩ := List.mem_flatMap.1 h
    have := Item.sizeOf_lt hchild
    have := List.sizeOf_lt_of_mem hitem
    simp only [Node.array.sizeOf_spec]; omega
  | object span props =>
    obtain ⟨prop, hprop, hchild⟩ := List.mem_flatMap.1 h
    have := Property.sizeOf_lt hchild
    have := List.sizeOf_lt_of_mem hprop
    simp only [Node.object.sizeOf_spec]; omega
  | call span callee args types =>
    simp only [children, List.mem_cons, List.mem_append] at h
    simp only [Node.call.sizeOf_spec]
    rcases h with rfl | h | h
    · omega
    · have := List.sizeOf_lt_of_mem h; omega
    · have := List.sizeOf_lt_of_mem h; omega
  | cls form span decorators parts =>
    simp only [children, List.mem_append] at h
    simp only [Node.cls.sizeOf_spec]
    rcases h with h | h
    · have := List.sizeOf_lt_of_mem h; omega
    · have := List.sizeOf_lt_of_mem h; omega
  | other kind span parts =>
    have : sizeOf child < sizeOf parts := List.sizeOf_lt_of_mem h
    simp only [Node.other.sizeOf_spec]; omega
  | _ => simp [children] at h

end ResourceInliner
