/-
Trees can be compared, so that what the parser makes of a given text can be checked by computing it.

- `Node.same_iff`: the comparison tells trees apart exactly if they differ.
-/
import ResourceInliner.Tree

namespace ResourceInliner

mutual

/-- are the nodes the same? -/
def Node.same : Node → Node → Bool
  | .name span name, .name span' name' => span == span' && name == name'
  | .string span value raw, .string span' value' raw' => span == span' && value == value' && raw == raw'
  | .array span items, .array span' items' => span == span' && sameItems items items'
  | .object span props, .object span' props' => span == span' && sameProps props props'
  | .call span callee args types, .call span' callee' args' types' =>
    span == span' && callee.same callee' && sameNodes args args' && sameNodes types types'
  | .cls form span decorators parts, .cls form' span' decorators' parts' =>
    form == form' && span == span' && sameNodes decorators decorators' && sameNodes parts parts'
  | .other kind span parts, .other kind' span' parts' => kind == kind' && span == span' && sameNodes parts parts'
  | _, _ => false

def sameNodes : List Node → List Node → Bool
  | [], [] => true
  | a :: as, b :: bs => a.same b && sameNodes as bs
  | _, _ => false

def sameItems : List Item → List Item → Bool
  | [], [] => true
  | a :: as, b :: bs => a.same b && sameItems as bs
  | _, _ => false

def Item.same : Item → Item → Bool
  | .hole, .hole => true
  | .element value, .element value' => value.same value'
  | .spread dots value, .spread dots' value' => dots == dots' && value.same value'
  | _, _ => false

def sameProps : List Property → List Property → Bool
  | [], [] => true
  | a :: as, b :: bs => a.same b && sameProps as bs
  | _, _ => false

def Property.same : Property → Property → Bool
  | .keyValue key value, .keyValue key' value' => key.same key' && value.same value'
  | .shorthand span name, .shorthand span' name' => span == span' && name == name'
  | .withDefault span at_ name value, .withDefault span' at' name' value' =>
    span == span' && at_ == at' && name == name' && value.same value'
  | .method form span key parts, .method form' span' key' parts' =>
    form == form' && span == span' && key.same key' && sameNodes parts parts'
  | .spread dots operand, .spread dots' operand' => dots == dots' && operand.same operand'
  | _, _ => false

def Key.same : Key → Key → Bool
  | .name span name, .name span' name' => span == span' && name == name'
  | .quoted span value, .quoted span' value' => span == span' && value == value'
  | .number span, .number span' => span == span'
  | .computed span inner, .computed span' inner' => span == span' && inner.same inner'
  | _, _ => false

end

mutual

theorem Node.same_iff : ∀ a b : Node, a.same b = true ↔ a = b
  | .name _ _, b => by cases b <;> simp [Node.same]
  | .string _ _ _, b => by cases b <;> simp [Node.same, and_assoc]
  | .array _ items, b => by cases b <;> simp [Node.same, sameItems_iff items]
  | .object _ props, b => by cases b <;> simp [Node.same, sameProps_iff props]
  | .call _ callee args types, b => by
    cases b <;> simp [Node.same, callee.same_iff, sameNodes_iff args, sameNodes_iff types, and_assoc]
  | .cls _ _ decorators parts, b => by
    cases b <;> simp [Node.same, sameNodes_iff decorators, sameNodes_iff parts, and_assoc]
  | .other _ _ parts, b => by cases b <;> simp [Node.same, sameNodes_iff parts, and_assoc]

theorem sameNodes_iff : ∀ as bs : List Node, sameNodes as bs = true ↔ as = bs
  | [], bs => by cases bs <;> simp [sameNodes]
  | a :: as, bs => by cases bs <;> simp [sameNodes, a.same_iff, sameNodes_iff as]

theorem sameItems_iff : ∀ as bs : List Item, sameItems as bs = true ↔ as = bs
  | [], bs => by cases bs <;> simp [sameItems]
  | a :: as, bs => by cases bs <;> simp [sameItems, a.same_iff, sameItems_iff as]

theorem Item.same_iff : ∀ a b : Item, a.same b = true ↔ a = b
  | .hole, b => by cases b <;> simp [Item.same]
  | .element value, b => by cases b <;> simp [Item.same, value.same_iff]
  | .spread _ value, b => by cases b <;> simp [Item.same, value.same_iff]

theorem sameProps_iff : ∀ as bs : List Property, sameProps as bs = true ↔ as = bs
  | [], bs => by cases bs <;> simp [sameProps]
  | a :: as, bs => by cases bs <;> simp [sameProps, a.same_iff, sameProps_iff as]

theorem Property.same_iff : ∀ a b : Property, a.same b = true ↔ a = b
  | .keyValue key value, b => by cases b <;> simp [Property.same, key.same_iff, value.same_iff]
  | .shorthand _ _, b => by cases b <;> simp [Property.same]
  | .withDefault _ _ _ value, b => by cases b <;> simp [Property.same, value.same_iff, and_assoc]
  | .method _ _ key parts, b => by
    cases b <;> simp [Property.same, key.same_iff, sameNodes_iff parts, and_assoc]
  | .spread _ operand, b => by cases b <;> simp [Property.same, operand.same_iff]

theorem Key.same_iff : ∀ a b : Key, a.same b = true ↔ a = b
  | .name _ _, b => by cases b <;> simp [Key.same]
  | .quoted _ _, b => by cases b <;> simp [Key.same]
  | .number _, b => by cases b <;> simp [Key.same]
  | .computed _ inner, b => by cases b <;> simp [Key.same, inner.same_iff]

end

instance : DecidableEq Node := fun a b => decidable_of_iff _ (Node.same_iff a b)

end ResourceInliner
