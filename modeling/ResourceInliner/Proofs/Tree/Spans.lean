/-
A tree with other spans. Nothing that a property is looked up by is decided by where it stands.

- `Node.mapSpans`: the same tree with every span sent through a function. `Node.metadata_mapSpans`: its metadata.
- `unplaced`: the properties of an object with no places at all. Two objects that differ in nothing but spans are the same
  without places.
-/
import ResourceInliner.Gate

namespace ResourceInliner

mutual

/-- the same node with other spans -/
def Node.mapSpans (f : Span → Span) : Node → Node
  | .name span name => .name (f span) name
  | .string span value raw => .string (f span) value raw
  | .array span items => .array (f span) (itemsMapSpans f items)
  | .object span props => .object (f span) (propsMapSpans f props)
  | .call span callee args types =>
    .call (f span) (callee.mapSpans f) (nodesMapSpans f args) (nodesMapSpans f types)
  | .cls form span decorators parts => .cls form (f span) (nodesMapSpans f decorators) (nodesMapSpans f parts)
  | .other kind span parts => .other kind (f span) (nodesMapSpans f parts)

def nodesMapSpans (f : Span → Span) : List Node → List Node
  | [] => []
  | node :: rest => node.mapSpans f :: nodesMapSpans f rest

def itemsMapSpans (f : Span → Span) : List Item → List Item
  | [] => []
  | item :: rest => item.mapSpans f :: itemsMapSpans f rest

def Item.mapSpans (f : Span → Span) : Item → Item
  | .hole => .hole
  | .element value => .element (value.mapSpans f)
  | .spread dots value => .spread (f dots) (value.mapSpans f)

def propsMapSpans (f : Span → Span) : List Property → List Property
  | [] => []
  | prop :: rest => prop.mapSpans f :: propsMapSpans f rest

def Property.mapSpans (f : Span → Span) : Property → Property
  | .keyValue key value => .keyValue (key.mapSpans f) (value.mapSpans f)
  | .shorthand span name => .shorthand (f span) name
  | .withDefault span at_ name value => .withDefault (f span) (f at_) name (value.mapSpans f)
  | .method form span key parts => .method form (f span) (key.mapSpans f) (nodesMapSpans f parts)
  | .spread dots operand => .spread (f dots) (operand.mapSpans f)

def Key.mapSpans (f : Span → Span) : Key → Key
  | .name span name => .name (f span) name
  | .quoted span value => .quoted (f span) value
  | .number span => .number (f span)
  | .computed span inner => .computed (f span) (inner.mapSpans f)

end

/-- the properties as if they stood nowhere in a source -/
def unplaced (props : List Property) : List Property :=
  propsMapSpans (fun _ => .dummy) props

theorem itemsMapSpans_eq (f : Span → Span) (items : List Item) : itemsMapSpans f items = items.map (Item.mapSpans f) := by
  induction items with
  | nil => rfl
  | cons item items ih => rw [itemsMapSpans, ih, List.map_cons]

theorem propsMapSpans_eq (f : Span → Span) (props : List Property) :
    propsMapSpans f props = props.map (Property.mapSpans f) := by
  induction props with
  | nil => rfl
  | cons prop props ih => rw [propsMapSpans, ih, List.map_cons]

theorem propsMapSpans_getElem? (f : Span → Span) (props : List Property) (i : Nat) :
    (propsMapSpans f props)[i]? = props[i]?.map (Property.mapSpans f) := by
  rw [propsMapSpans_eq, List.getElem?_map]

theorem Node.span_mapSpans (f : Span → Span) (node : Node) : (node.mapSpans f).span = f node.span := by
  cases node <;> rfl

theorem Key.span_mapSpans (f : Span → Span) (key : Key) : (key.mapSpans f).span = f key.span := by
  cases key <;> rfl

theorem Property.name?_mapSpans (f : Span → Span) (prop : Property) : (prop.mapSpans f).name? = prop.name? := by
  cases prop with
  | keyValue key value => cases key <;> rfl
  | method form span key parts => cases key <;> rfl
  | _ => rfl

/-- an entry has a place or has none, whatever the place is -/
theorem Item.isSome_span?_mapSpans (f : Span → Span) (item : Item) :
    (item.mapSpans f).span?.isSome = item.span?.isSome := by
  cases item <;> rfl

/-! ## Metadata -/

section

variable (f : Span → Span)

mutual

theorem Node.metadata_mapSpans (region : Region) : ∀ node : Node,
    (node.mapSpans f).metadata region = (node.metadata region).map (propsMapSpans f)
  | .name _ _ | .string _ _ _ => rfl
  | .array _ items => by rw [Node.mapSpans, Node.metadata, Node.metadata, itemsMetadata_mapSpans]
  | .object _ props => by
    cases region with
    | argument => rfl
    | code => rw [Node.mapSpans, Node.metadata, Node.metadata, propsMetadata_mapSpans]
  | .call _ callee args types => by
    rw [Node.mapSpans, Node.metadata, Node.metadata, callee.metadata_mapSpans, nodesMetadata_mapSpans,
      nodesMetadata_mapSpans, List.map_append, List.map_append]
  | .cls form _ decorators parts => by
    rw [Node.mapSpans, Node.metadata, Node.metadata]
    split
    · rw [decoratorsMetadata_mapSpans]
    · rw [nodesMetadata_mapSpans, nodesMetadata_mapSpans, List.map_append]
  | .other _ _ parts => by rw [Node.mapSpans, Node.metadata, Node.metadata, nodesMetadata_mapSpans]

theorem nodesMetadata_mapSpans (region : Region) : ∀ nodes : List Node,
    nodesMetadata region (nodesMapSpans f nodes) = (nodesMetadata region nodes).map (propsMapSpans f)
  | [] => rfl
  | node :: rest => by
    rw [nodesMapSpans, nodesMetadata, nodesMetadata, node.metadata_mapSpans, nodesMetadata_mapSpans, List.map_append]

theorem decoratorsMetadata_mapSpans : ∀ decorators : List Node,
    decoratorsMetadata (nodesMapSpans f decorators) = (decoratorsMetadata decorators).map (propsMapSpans f)
  | [] => rfl
  | .call _ _ args _ :: rest => by
    rw [nodesMapSpans, Node.mapSpans, decoratorsMetadata, decoratorsMetadata, nodesMetadata_mapSpans,
      decoratorsMetadata_mapSpans, List.map_append]
  | .name _ _ :: rest | .string _ _ _ :: rest | .array _ _ :: rest | .object _ _ :: rest | .cls _ _ _ _ :: rest
  | .other _ _ _ :: rest => decoratorsMetadata_mapSpans rest

theorem itemsMetadata_mapSpans (region : Region) : ∀ items : List Item,
    itemsMetadata region (itemsMapSpans f items) = (itemsMetadata region items).map (propsMapSpans f)
  | [] => rfl
  | item :: rest => by
    rw [itemsMapSpans, itemsMetadata, itemsMetadata, item.metadata_mapSpans, itemsMetadata_mapSpans, List.map_append]

theorem Item.metadata_mapSpans (region : Region) : ∀ item : Item,
    (item.mapSpans f).metadata region = (item.metadata region).map (propsMapSpans f)
  | .hole => rfl
  | .element value | .spread _ value => value.metadata_mapSpans region

theorem propsMetadata_mapSpans (region : Region) : ∀ props : List Property,
    propsMetadata region (propsMapSpans f props) = (propsMetadata region props).map (propsMapSpans f)
  | [] => rfl
  | prop :: rest => by
    rw [propsMapSpans, propsMetadata, propsMetadata, prop.metadata_mapSpans, propsMetadata_mapSpans, List.map_append]

theorem Property.metadata_mapSpans (region : Region) : ∀ prop : Property,
    (prop.mapSpans f).metadata region = (prop.metadata region).map (propsMapSpans f)
  | .keyValue key value => by
    rw [Property.mapSpans, Property.metadata, Property.metadata, key.metadata_mapSpans, value.metadata_mapSpans,
      List.map_append]
  | .shorthand _ _ => rfl
  | .withDefault _ _ _ value => value.metadata_mapSpans region
  | .method _ _ key parts => by
    rw [Property.mapSpans, Property.metadata, Property.metadata, key.metadata_mapSpans, nodesMetadata_mapSpans,
      List.map_append]
  | .spread _ operand => operand.metadata_mapSpans region

theorem Key.metadata_mapSpans (region : Region) : ∀ key : Key,
    (key.mapSpans f).metadata region = (key.metadata region).map (propsMapSpans f)
  | .computed _ inner => inner.metadata_mapSpans region
  | .name _ _ | .quoted _ _ | .number _ => rfl

end

end

end ResourceInliner
