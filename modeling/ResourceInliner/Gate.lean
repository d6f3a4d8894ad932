/-
Finding metadata. An object literal is metadata when it stands in an argument of a decorator call of a class
declaration, not inside another object literal; a class inside such an argument has its own decorators looked at, and
nothing else.

- `Node.metadata`: the property lists that are metadata, in the order they are met.
- `Node.inline`: the tree with each of them edited.
- `inlineModule`: both, with the patches and notes of the edits.
-/
import ResourceInliner.Metadata

namespace ResourceInliner

/-- what the search for metadata is looking at -/
inductive Region where
  /-- code that is not the argument of a decorator call -/
  | code
  /-- an argument of a decorator call of a class -/
  | argument
  deriving DecidableEq, Repr

/-- are the decorators of a class looked at, and nothing else of it? In code this holds for declarations; class
expressions there are code themselves. -/
def Region.gates : Region → ClassForm → Bool
  | .code, .expression => false
  | _, _ => true

mutual

/-- the metadata in a node, in the order it is met -/
def Node.metadata (region : Region) : Node → List (List Property)
  | .name _ _ | .string _ _ _ => []
  | .array _ items => itemsMetadata region items
  | .object _ props =>
    match region with
    | .argument => [props]
    | .code => propsMetadata region props
  | .call _ callee args types =>
    callee.metadata region ++ nodesMetadata region args ++ nodesMetadata region types
  | .cls form _ decorators parts =>
    if region.gates form then decoratorsMetadata decorators
    else nodesMetadata region decorators ++ nodesMetadata region parts
  | .other _ _ parts => nodesMetadata region parts

def nodesMetadata (region : Region) : List Node → List (List Property)
  | [] => []
  | node :: rest => node.metadata region ++ nodesMetadata region rest

/-- the metadata in the arguments of those decorators that are calls -/
def decoratorsMetadata : List Node → List (List Property)
  | [] => []
  | .call _ _ args _ :: rest => nodesMetadata .argument args ++ decoratorsMetadata rest
  | _ :: rest => decoratorsMetadata rest

def itemsMetadata (region : Region) : List Item → List (List Property)
  | [] => []
  | item :: rest => item.metadata region ++ itemsMetadata region rest

def Item.metadata (region : Region) : Item → List (List Property)
  | .hole => []
  | .element value | .spread _ value => value.metadata region

def propsMetadata (region : Region) : List Property → List (List Property)
  | [] => []
  | prop :: rest => prop.metadata region ++ propsMetadata region rest

def Property.metadata (region : Region) : Property → List (List Property)
  | .keyValue key value => key.metadata region ++ value.metadata region
  | .shorthand _ _ => []
  | .withDefault _ _ _ value => value.metadata region
  | .method _ _ key parts => key.metadata region ++ nodesMetadata region parts
  | .spread _ operand => operand.metadata region

def Key.metadata (region : Region) : Key → List (List Property)
  | .computed _ inner => inner.metadata region
  | _ => []

end

mutual

/-- the node with all metadata in it edited -/
def Node.inline (keepUrl : Bool) (region : Region) : Node → Node
  | .name span name => .name span name
  | .string span value raw => .string span value raw
  | .array span items => .array span (inlineItems keepUrl region items)
  | .object span props =>
    match region with
    | .argument => .object span (Metadata.inlineMetadata keepUrl props).result
    | .code => .object span (inlineProps keepUrl region props)
  | .call span callee args types =>
    .call span (callee.inline keepUrl region) (inlineNodes keepUrl region args) (inlineNodes keepUrl region types)
  | .cls form span decorators parts =>
    if region.gates form then .cls form span (inlineDecorators keepUrl decorators) parts
    else .cls form span (inlineNodes keepUrl region decorators) (inlineNodes keepUrl region parts)
  | .other kind span parts => .other kind span (inlineNodes keepUrl region parts)

def inlineNodes (keepUrl : Bool) (region : Region) : List Node → List Node
  | [] => []
  | node :: rest => node.inline keepUrl region :: inlineNodes keepUrl region rest

def inlineDecorators (keepUrl : Bool) : List Node → List Node
  | [] => []
  | .call span callee args types :: rest =>
    .call span callee (inlineNodes keepUrl .argument args) types :: inlineDecorators keepUrl rest
  | node :: rest => node :: inlineDecorators keepUrl rest

def inlineItems (keepUrl : Bool) (region : Region) : List Item → List Item
  | [] => []
  | item :: rest => item.inline keepUrl region :: inlineItems keepUrl region rest

def Item.inline (keepUrl : Bool) (region : Region) : Item → Item
  | .hole => .hole
  | .element value => .element (value.inline keepUrl region)
  | .spread dots value => .spread dots (value.inline keepUrl region)

def inlineProps (keepUrl : Bool) (region : Region) : List Property → List Property
  | [] => []
  | prop :: rest => prop.inline keepUrl region :: inlineProps keepUrl region rest

def Property.inline (keepUrl : Bool) (region : Region) : Property → Property
  | .keyValue key value => .keyValue (key.inline keepUrl region) (value.inline keepUrl region)
  | .shorthand span name => .shorthand span name
  | .withDefault span at_ name value => .withDefault span at_ name (value.inline keepUrl region)
  | .method form span key parts => .method form span (key.inline keepUrl region) (inlineNodes keepUrl region parts)
  | .spread dots operand => .spread dots (operand.inline keepUrl region)

def Key.inline (keepUrl : Bool) (region : Region) : Key → Key
  | .name span name => .name span name
  | .quoted span value => .quoted span value
  | .number span => .number span
  | .computed span inner => .computed span (inner.inline keepUrl region)

end

/-- a module after inlining -/
structure InlinedModule where
  tree : Node
  /-- the number of objects that were changed -/
  editCount : Nat
  /-- text patches that make the same changes to the source -/
  patches : List Patch
  notes : List SkipNote

/-- inline the resources that the metadata of a module names -/
def inlineModule (keepUrl : Bool) (tree : Node) : InlinedModule :=
  let edits := (tree.metadata .code).map (Metadata.inlineMetadata keepUrl)
  { tree := tree.inline keepUrl .code
    editCount := (edits.filter fun r => !r.patches.isEmpty).length
    patches := edits.flatMap (·.patches)
    notes := edits.flatMap (·.notes) }

end ResourceInliner
