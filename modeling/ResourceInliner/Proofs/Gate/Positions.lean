/-
What positions decide in an edit, and what they do not. A host may hand over a tree that no parser has made, with spans of
any kind, or with none: its nodes then stand at position zero. The tree that comes of it is the same but for spans. The
positions in the patches are not as safe: one of them is worked out by a subtraction.

- `Node.inline_mapSpans`, `unplaced_tree`: the edited tree with other spans.
- `edit_ignores_spans`: the objects for which no subtraction goes below zero, and the results for objects and trees that
  differ in spans only.
- `edit_below_zero`: an object without places, for which it does.
-/
import ResourceInliner.Gate
import ResourceInliner.Proofs.Metadata.Positions
import ResourceInliner.Proofs.Metadata.Spans

namespace ResourceInliner

open Metadata

/-! ## Trees with other spans -/

section

variable {f : Span → Span} (keepUrl : Bool)

mutual

theorem Node.inline_mapSpans (hf : f .dummy = .dummy) (region : Region) : ∀ node : Node,
    (node.mapSpans f).inline keepUrl region = (node.inline keepUrl region).mapSpans f
  | .name _ _ | .string _ _ _ => rfl
  | .array _ items => by
    rw [Node.mapSpans, Node.inline, Node.inline, Node.mapSpans, inlineItems_mapSpans hf]
  | .object _ props => by
    cases region with
    | argument =>
      rw [Node.mapSpans, Node.inline, Node.inline, Node.mapSpans, (inlineMetadata_alike hf keepUrl props).result]
    | code => rw [Node.mapSpans, Node.inline, Node.inline, Node.mapSpans, inlineProps_mapSpans hf]
  | .call _ callee args types => by
    rw [Node.mapSpans, Node.inline, Node.inline, Node.mapSpans, callee.inline_mapSpans hf, inlineNodes_mapSpans hf,
      inlineNodes_mapSpans hf]
  | .cls form _ decorators parts => by
    rw [Node.mapSpans, Node.inline, Node.inline]
    split
    · rw [Node.mapSpans, inlineDecorators_mapSpans hf]
    · rw [Node.mapSpans, inlineNodes_mapSpans hf, inlineNodes_mapSpans hf]
  | .other _ _ parts => by rw [Node.mapSpans, Node.inline, Node.inline, Node.mapSpans, inlineNodes_mapSpans hf]

theorem inlineNodes_mapSpans (hf : f .dummy = .dummy) (region : Region) : ∀ nodes : List Node,
    inlineNodes keepUrl region (nodesMapSpans f nodes) = nodesMapSpans f (inlineNodes keepUrl region nodes)
  | [] => rfl
  | node :: rest => by
    rw [nodesMapSpans, inlineNodes, inlineNodes, nodesMapSpans, node.inline_mapSpans hf, inlineNodes_mapSpans hf]

theorem inlineDecorators_mapSpans (hf : f .dummy = .dummy) : ∀ decorators : List Node,
    inlineDecorators keepUrl (nodesMapSpans f decorators) = nodesMapSpans f (inlineDecorators keepUrl decorators)
  | [] => rfl
  | .call _ _ args _ :: rest => by
    rw [nodesMapSpans, Node.mapSpans, inlineDecorators, inlineDecorators, nodesMapSpans, Node.mapSpans,
      inlineNodes_mapSpans hf, inlineDecorators_mapSpans hf]
  | .name _ _ :: rest | .string _ _ _ :: rest | .array _ _ :: rest | .object _ _ :: rest | .cls _ _ _ _ :: rest
  | .other _ _ _ :: rest => congrArg (_ :: ·) (inlineDecorators_mapSpans hf rest)

theorem inlineItems_mapSpans (hf : f .dummy = .dummy) (region : Region) : ∀ items : List Item,
    inlineItems keepUrl region (itemsMapSpans f items) = itemsMapSpans f (inlineItems keepUrl region items)
  | [] => rfl
  | item :: rest => by
    rw [itemsMapSpans, inlineItems, inlineItems, itemsMapSpans, item.inline_mapSpans hf, inlineItems_mapSpans hf]

theorem Item.inline_mapSpans (hf : f .dummy = .dummy) (region : Region) : ∀ item : Item,
    (item.mapSpans f).inline keepUrl region = (item.inline keepUrl region).mapSpans f
  | .hole => rfl
  | .element value => congrArg Item.element (value.inline_mapSpans hf region)
  | .spread dots value => congrArg (Item.spread (f dots)) (value.inline_mapSpans hf region)

theorem inlineProps_mapSpans (hf : f .dummy = .dummy) (region : Region) : ∀ props : List Property,
    inlineProps keepUrl region (propsMapSpans f props) = propsMapSpans f (inlineProps keepUrl region props)
  | [] => rfl
  | prop :: rest => by
    rw [propsMapSpans, inlineProps, inlineProps, propsMapSpans, prop.inline_mapSpans hf, inlineProps_mapSpans hf]

theorem Property.inline_mapSpans (hf : f .dummy = .dummy) (region : Region) : ∀ prop : Property,
    (prop.mapSpans f).inline keepUrl region = (prop.inline keepUrl region).mapSpans f
  | .keyValue key value => by
    rw [Property.mapSpans, Property.inline, Property.inline, Property.mapSpans, key.inline_mapSpans hf,
      value.inline_mapSpans hf]
  | .shorthand _ _ => rfl
  | .withDefault span at_ name value =>
    congrArg (Property.withDefault (f span) (f at_) name) (value.inline_mapSpans hf region)
  | .method _ _ key parts => by
    rw [Property.mapSpans, Property.inline, Property.inline, Property.mapSpans, key.inline_mapSpans hf,
      inlineNodes_mapSpans hf]
  | .spread dots operand => congrArg (Property.spread (f dots)) (operand.inline_mapSpans hf region)

theorem Key.inline_mapSpans (hf : f .dummy = .dummy) (region : Region) : ∀ key : Key,
    (key.mapSpans f).inline keepUrl region = (key.inline keepUrl region).mapSpans f
  | .computed span inner => congrArg (Key.computed (f span)) (inner.inline_mapSpans hf region)
  | .name _ _ | .quoted _ _ | .number _ => rfl

end

end

/-- the tree as if it stood nowhere in a source -/
def Node.unplaced (node : Node) : Node :=
  node.mapSpans fun _ => .dummy

/-- Trees that differ in spans only are edited into trees that differ in spans only. -/
theorem unplaced_tree (keepUrl : Bool) {a b : Node} (h : a.unplaced = b.unplaced) :
    (inlineModule keepUrl a).tree.unplaced = (inlineModule keepUrl b).tree.unplaced := by
  have hedit := fun node : Node => node.inline_mapSpans (f := fun _ => .dummy) keepUrl rfl .code
  calc (inlineModule keepUrl a).tree.unplaced
      = a.unplaced.inline keepUrl .code := (hedit a).symm
    _ = b.unplaced.inline keepUrl .code := by rw [h]
    _ = (inlineModule keepUrl b).tree.unplaced := hedit b

/-! ## Positions -/

/-- **Main result.** A checked edit of an object goes below zero exactly if the object has an empty list of style sheets that
ends at position zero, and a `styles` to merge into it; in all other cases it comes to what the edit without checks comes
to. Apart from that, spans decide nothing: two objects, or two trees, that differ in spans only are edited into such objects
or trees, and the same properties are skipped for the same reasons. -/
theorem edit_ignores_spans (keepUrl : Bool) :
    (∀ props : List Property, Strict.inlineMetadata keepUrl props =
      if goesBelowZero props then none else some (inlineMetadata keepUrl props)) ∧
    (∀ a b : List Property, unplaced a = unplaced b →
      unplaced (inlineMetadata keepUrl a).result = unplaced (inlineMetadata keepUrl b).result ∧
      (inlineMetadata keepUrl a).notes = (inlineMetadata keepUrl b).notes) ∧
    ∀ a b : Node, a.unplaced = b.unplaced →
      (inlineModule keepUrl a).tree.unplaced = (inlineModule keepUrl b).tree.unplaced := by
  refine ⟨strict_inlineMetadata keepUrl, fun a b h => ⟨?_, ?_⟩, fun a b h => unplaced_tree keepUrl h⟩
  · exact unplaced_result keepUrl h
  · exact unplaced_notes keepUrl h

/-- the object in `@C({styleUrls: [], styles: ['b']})` -/
def noSheets : List Property :=
  [.keyValue (.name ⟨5, 14⟩ styleUrls) (.array ⟨16, 18⟩ []),
    .keyValue (.name ⟨20, 26⟩ styles) (.array ⟨28, 33⟩ [.element (.string ⟨29, 32⟩ "b" "'b'")])]

/-- the class with this decorator -/
def noSheetsClass : Node :=
  .cls .declaration ⟨1, 46⟩ [.call ⟨2, 35⟩ (.name ⟨2, 3⟩ "C") [.object ⟨4, 34⟩ noSheets] []] []

/-- the object in a source and the same object without places: edited alike, though only the first one has room for the
entry before the bracket of its list -/
theorem edit_ignores_spans_sample :
    (unplaced noSheets = unplaced (unplaced noSheets) ∧
      unplaced (inlineMetadata false noSheets).result =
        unplaced (inlineMetadata false (unplaced noSheets)).result) ∧
    (noSheetsClass.unplaced = noSheetsClass.unplaced.unplaced ∧
      (inlineModule false noSheetsClass).tree.unplaced =
        (inlineModule false noSheetsClass.unplaced).tree.unplaced) ∧
    Strict.inlineMetadata false noSheets = some (inlineMetadata false noSheets) ∧
    Strict.inlineMetadata false (unplaced noSheets) = none := by
  obtain ⟨hstrict, hobjects, htrees⟩ := edit_ignores_spans false
  have hobject : unplaced noSheets = unplaced (unplaced noSheets) := rfl
  have htree : noSheetsClass.unplaced = noSheetsClass.unplaced.unplaced := rfl
  have hroom : goesBelowZero noSheets = false := by decide
  have hnoRoom : goesBelowZero (unplaced noSheets) = true := by decide
  refine ⟨⟨hobject, (hobjects _ _ hobject).1⟩, ⟨htree, htrees _ _ htree⟩, ?_, ?_⟩
  · rw [hstrict, hroom]
    rfl
  · rw [hstrict, hnoRoom]
    rfl

/-- An edit of an object without places can go below zero. -/
theorem edit_below_zero : ¬ ∀ (keepUrl : Bool) (props : List Property),
    ∃ edit, Strict.inlineMetadata keepUrl props = some edit := by
  intro h
  obtain ⟨edit, hedit⟩ := h false (unplaced noSheets)
  have hnone : Strict.inlineMetadata false (unplaced noSheets) = none := rfl
  rw [hnone] at hedit
  cases hedit

end ResourceInliner
