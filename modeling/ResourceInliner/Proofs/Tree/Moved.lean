/-
A tree some bytes later in the text: the same tree with every span moved. Where a property or an entry stands is worked
out from several spans, so it moves along.

- `Node.moved`, `propsMoved`: a node and the properties of an object, moved.
- `Item.span?_moved`, `Property.span_moved`: where the entries and properties are then.
-/
import ResourceInliner.Proofs.Patch.Moved
import ResourceInliner.Proofs.Tree.Spans

namespace ResourceInliner

variable (bytes : UInt32)

/-- the same node, some bytes later -/
abbrev Node.moved : Node → Node := Node.mapSpans (Span.moved bytes)

/-- the same nodes, some bytes later -/
abbrev nodesMoved : List Node → List Node := nodesMapSpans (Span.moved bytes)

/-- the same entries, some bytes later -/
abbrev itemsMoved : List Item → List Item := itemsMapSpans (Span.moved bytes)

/-- the same property, some bytes later -/
abbrev Property.moved : Property → Property := Property.mapSpans (Span.moved bytes)

/-- the same properties, some bytes later -/
abbrev propsMoved : List Property → List Property := propsMapSpans (Span.moved bytes)

theorem Item.span?_moved (item : Item) :
    (item.mapSpans (Span.moved bytes)).span? = item.span?.map (Span.moved bytes) := by
  cases item with
  | hole => rfl
  | element value => rw [mapSpans, span?, Node.span_mapSpans]; rfl
  | spread dots value => rw [mapSpans, span?, Node.span_mapSpans]; rfl

theorem Property.span_moved (prop : Property) : (prop.moved bytes).span = prop.span.moved bytes := by
  cases prop with
  | keyValue key value => rw [moved, mapSpans, span, Key.span_mapSpans, Node.span_mapSpans]; rfl
  | spread dots operand => rw [moved, mapSpans, span, Node.span_mapSpans]; rfl
  | _ => rfl

end ResourceInliner
