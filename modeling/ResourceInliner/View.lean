/-
A view of the object literals of a tree, as a reader of the edited module sees them: the keys that are identifiers
with their values, module references and lists spelled out, and everything else by its place in the source.

- `Node.objects`: all object literals, outer ones first.
- `Node.objectViews`: their views in the order of the source.
-/
import ResourceInliner.Tree

namespace ResourceInliner

mutual

/-- all object literals of a node, an outer one before those inside it -/
def Node.objects : Node → List (Span × List Property)
  | .name _ _ | .string _ _ _ => []
  | .array _ items => itemsObjects items
  | .object span props => (span, props) :: propsObjects props
  | .call _ callee args types => callee.objects ++ nodesObjects args ++ nodesObjects types
  | .cls _ _ decorators parts => nodesObjects decorators ++ nodesObjects parts
  | .other _ _ parts => nodesObjects parts

def nodesObjects : List Node → List (Span × List Property)
  | [] => []
  | node :: rest => node.objects ++ nodesObjects rest

def itemsObjects : List Item → List (Span × List Property)
  | [] => []
  | item :: rest => item.objects ++ itemsObjects rest

def Item.objects : Item → List (Span × List Property)
  | .hole => []
  | .element value | .spread _ value => value.objects

def propsObjects : List Property → List (Span × List Property)
  | [] => []
  | prop :: rest => prop.objects ++ propsObjects rest

def Property.objects : Property → List (Span × List Property)
  | .keyValue key value => key.objects ++ value.objects
  | .shorthand _ _ => []
  | .withDefault _ _ _ value => value.objects
  | .method _ _ key parts => key.objects ++ nodesObjects parts
  | .spread _ operand => operand.objects

def Key.objects : Key → List (Span × List Property)
  | .computed _ inner => inner.objects
  | _ => []

end

/-- a value as a reader sees it -/
inductive ValueView where
  /-- a reference to a module: the value and the text of the string that names it -/
  | reference (value raw : String)
  | list (items : List ValueView)
  | hole
  | spread (value : ValueView)
  /-- the source at this place -/
  | source (span : Span)

mutual

/-- the view of a value -/
def Node.view : Node → ValueView
  | .call span callee args _ =>
    match callee, args with
    | .name _ "require", [.string _ value raw] => .reference value raw
    | _, _ => .source span
  | .array _ items => .list (itemsView items)
  | .name span _ | .string span _ _ | .object span _ | .cls _ span _ _ | .other _ span _ => .source span

def itemsView : List Item → List ValueView
  | [] => []
  | item :: rest => item.view :: itemsView rest

def Item.view : Item → ValueView
  | .hole => .hole
  | .element value => value.view
  | .spread _ value => .spread value.view

end

/-- a property as a reader sees it -/
inductive PropertyView where
  | keyed (name : String) (value : ValueView)
  | source (span : Span)

/-- the view of a property -/
def Property.view : Property → PropertyView
  | .keyValue (.name _ name) value => .keyed name value.view
  | prop => .source prop.span

/-- an object literal as a reader sees it -/
structure ObjectView where
  span : Span
  props : List PropertyView

/-- the views of all object literals, in the order of the source -/
def Node.objectViews (node : Node) : List ObjectView :=
  (node.objects.mergeSort fun a b => a.1.lo ≤ b.1.lo).map fun (span, props) => ⟨span, props.map Property.view⟩

end ResourceInliner
