/-
The edit of an object whose nodes have other spans. What an edit looks at has no spans in it, and what it makes takes them
over: the edited object has the new spans where it had the old ones. The nodes that an edit adds stand nowhere, so a
change of spans has to leave those alone.

- `indexOf?_mapSpans` to `keyEdit_mapSpans`: what is looked at.
- `inlineMetadata_alike`: the edit of an object with other spans.
- `unplaced_result`: objects that differ in spans only are edited into such objects.
-/
import Mathlib.Data.List.InsertIdx
import ResourceInliner.Proofs.Metadata.Outcome
import ResourceInliner.Proofs.Tree.Spans

namespace ResourceInliner.Metadata

variable (f : Span → Span)

/-! ## What is looked at -/

theorem indexOf?_mapSpans (props : List Property) (name : String) :
    indexOf? (propsMapSpans f props) name = indexOf? props name := by
  rw [indexOf?, indexOf?, propsMapSpans_eq, List.findIdx?_map]
  congr 1
  funext prop
  rw [Function.comp_apply, Property.name?_mapSpans]

theorem named_mapSpans (name : String) (props : List Property) :
    named name (propsMapSpans f props) = (named name props).map (Property.mapSpans f) := by
  rw [named, named, propsMapSpans_eq, List.filter_map]
  congr 2
  funext prop
  rw [Function.comp_apply, Property.name?_mapSpans]

theorem value?_mapSpans (prop : Property) : value? (prop.mapSpans f) = (value? prop).map (Node.mapSpans f) := by
  cases prop <;> rfl

theorem isBlocked_mapSpans (props : List Property) : isBlocked (propsMapSpans f props) = isBlocked props := by
  rw [isBlocked, isBlocked, named_mapSpans, List.head?_map]
  cases (named styles props).head? with
  | none => rfl
  | some prop => rw [Option.map_some, Option.any_some, Option.any_some, value?_mapSpans, Option.isNone_map]

theorem stylePaths_mapSpans (items : List Item) : stylePaths (itemsMapSpans f items) =
    (stylePaths items).map fun paths => paths.map fun (path, span) => (path, f span) := by
  induction items with
  | nil => rfl
  | cons item rest ih =>
    cases item with
    | element value =>
      cases value with
      | string span value raw =>
        rw [itemsMapSpans, Item.mapSpans, Node.mapSpans, stylePaths, stylePaths, ih]
        cases stylePaths rest <;> rfl
      | _ => rfl
    | _ => rfl

theorem isInlinable_mapSpans (prop : Property) : isInlinable (prop.mapSpans f) = isInlinable prop := by
  cases prop with
  | keyValue key value =>
    cases value with
    | array span items =>
      rw [Property.mapSpans, Node.mapSpans, isInlinable, isInlinable, stylePaths_mapSpans]
      cases stylePaths items <;> rfl
    | _ => rfl
  | _ => rfl

/-- the style sheet with another span -/
def Sheet.mapSpan (sheet : Sheet) : Sheet := ⟨f sheet.span, sheet.value, sheet.raw⟩

theorem literals_mapSpans (sheets : List Sheet) :
    itemsMapSpans f (sheets.map Sheet.literal) = (sheets.map (Sheet.mapSpan f)).map Sheet.literal := by
  rw [itemsMapSpans_eq, List.map_map, List.map_map]
  rfl

theorem keyEdit_mapSpans (rename : Bool) (name : String) (key : Key) :
    (keyEdit rename name (key.mapSpans f)).1 = (keyEdit rename name key).1.mapSpans f := by
  cases rename <;> cases key <;> rfl

/-! ## What is made -/

/-- two edits, of a thing and of the same thing with other spans, that differ in those spans only -/
structure Alike {α : Type} (change : α → α) (old new : Edit α) : Prop where
  result : new.result = change old.result
  notes : new.notes = old.notes

theorem editAt_alike {edit : Property → Edit Property}
    (h : ∀ prop : Property, Alike (Property.mapSpans f) (edit prop) (edit (prop.mapSpans f))) (props : List Property)
    (index : Option Nat) :
    Alike (propsMapSpans f) (editAt props index edit) (editAt (propsMapSpans f props) index edit) := by
  cases index with
  | none => exact ⟨rfl, rfl⟩
  | some i =>
    rw [editAt, editAt, propsMapSpans_getElem?]
    cases props[i]? with
    | none => exact ⟨rfl, rfl⟩
    | some prop =>
      refine ⟨?_, (h prop).notes⟩
      change (propsMapSpans f props).set i (edit (prop.mapSpans f)).result = propsMapSpans f (props.set i (edit prop).result)
      rw [(h prop).result, propsMapSpans_eq, propsMapSpans_eq, List.map_set]

variable {f} (hf : f .dummy = .dummy)

include hf

theorem requireNode_mapSpans (path : String) (span : Span) :
    (requireNode path span).mapSpans f = requireNode path (f span) := by
  change Node.call (f span) (.name (f .dummy) "require") _ _ = _
  rw [hf]
  rfl

theorem inlineTemplate_alike (keepUrl : Bool) (prop : Property) :
    Alike (Property.mapSpans f) (inlineTemplate keepUrl prop) (inlineTemplate keepUrl (prop.mapSpans f)) := by
  cases prop with
  | keyValue key value =>
    cases value with
    | string span value raw =>
      rw [Property.mapSpans, Node.mapSpans, inlineTemplate_string, inlineTemplate_string]
      refine ⟨?_, rfl⟩
      rw [Property.mapSpans, keyEdit_mapSpans, requireNode_mapSpans hf]
    | _ => exact ⟨rfl, rfl⟩
  | _ => exact ⟨rfl, rfl⟩

theorem references_mapSpans (sheets : List Sheet) :
    itemsMapSpans f (sheets.map Sheet.reference) = (sheets.map (Sheet.mapSpan f)).map Sheet.reference := by
  rw [itemsMapSpans_eq, List.map_map, List.map_map]
  refine List.map_congr_left fun sheet _ => ?_
  exact congrArg Item.element (requireNode_mapSpans hf sheet.value sheet.span)

theorem inlineStyles_alike (rename : Bool) (prop : Property) :
    Alike (Property.mapSpans f) (inlineStyles rename prop) (inlineStyles rename (prop.mapSpans f)) := by
  cases prop with
  | keyValue key value =>
    cases value with
    | array span items =>
      cases hpaths : stylePaths items with
      | error reason =>
        have hpaths' : stylePaths (itemsMapSpans f items) = .error reason := by rw [stylePaths_mapSpans, hpaths]; rfl
        simp only [Property.mapSpans, Node.mapSpans, inlineStyles, hpaths, hpaths']
        exact ⟨rfl, rfl⟩
      | ok paths =>
        obtain ⟨sheets, rfl, -⟩ := stylePaths_eq_ok hpaths
        rw [Property.mapSpans, Node.mapSpans, literals_mapSpans, inlineStyles_literals, inlineStyles_literals]
        refine ⟨?_, rfl⟩
        rw [Property.mapSpans, keyEdit_mapSpans, Node.mapSpans, references_mapSpans hf]
    | _ => exact ⟨rfl, rfl⟩
  | _ => exact ⟨rfl, rfl⟩

theorem mergedItems_mapSpans (value : Node) :
    mergedItems (value.mapSpans f) = itemsMapSpans f (mergedItems value) := by
  cases value with
  | array span items =>
    rw [Node.mapSpans, mergedItems, mergedItems, itemsMapSpans_eq, itemsMapSpans_eq, List.filter_map]
    congr 2
    funext item
    rw [Function.comp_apply, Item.isSome_span?_mapSpans]
  | _ =>
    -- the dots in front of a value that is spread are new
    simp only [mergedItems, Node.mapSpans, itemsMapSpans, Item.mapSpans, hf]

theorem merge_alike (props : List Property) (target source : Nat) :
    Alike (propsMapSpans f) (merge props target source) (merge (propsMapSpans f props) target source) := by
  simp only [merge, mergeWith, propsMapSpans_getElem?]
  cases props[source]? with
  | none => exact ⟨rfl, rfl⟩
  | some gone =>
    cases props[target]? with
    | none => exact ⟨rfl, rfl⟩
    | some list =>
      cases list with
      | keyValue key list =>
        cases list with
        | array span items =>
          simp only [Option.map_some, Property.mapSpans, Node.mapSpans, value?_mapSpans]
          cases value? gone with
          | none => exact ⟨rfl, rfl⟩
          | some value =>
            refine ⟨?_, rfl⟩
            simp only [Option.map_some, pure_bind, Id.run_pure, propsMapSpans_eq, ← List.eraseIdx_map, List.map_set,
              Property.mapSpans, Node.mapSpans, mergedItems_mapSpans hf, itemsMapSpans_eq, List.map_append]
        | _ => exact ⟨rfl, rfl⟩
      | _ => exact ⟨rfl, rfl⟩

/-- the edit of an object with other spans is the edit of the object, with other spans -/
theorem inlineMetadata_alike (keepUrl : Bool) (props : List Property) :
    Alike (propsMapSpans f) (inlineMetadata keepUrl props) (inlineMetadata keepUrl (propsMapSpans f props)) := by
  have hfirst := editAt_alike f (inlineTemplate_alike hf keepUrl) props (indexOf? props templateUrl)
  have hvalue : ∀ i : Nat, ((propsMapSpans f props)[i]?.bind value?).isSome = (props[i]?.bind value?).isSome := by
    intro i
    rw [propsMapSpans_getElem?]
    cases props[i]? with
    | none => rfl
    | some prop => rw [Option.map_some, Option.bind_some, value?_mapSpans, Option.isSome_map, Option.bind_some]
  have hlist : ∀ i : Nat, (propsMapSpans f props)[i]?.map isInlinable = props[i]?.map isInlinable := by
    intro i
    rw [propsMapSpans_getElem?, Option.map_map]
    congr 1
    funext prop
    exact isInlinable_mapSpans f prop
  simp only [inlineMetadata, inlineMetadataWith, indexOf?_mapSpans, hvalue, hlist]
  cases indexOf? props styleUrls with
  | none => exact hfirst
  | some u =>
    simp only [hfirst.result, hfirst.notes]
    generalize (indexOf? props styles).map (fun i => (props[i]?.bind value?).isSome) = mergeable
    have hsecond := editAt_alike f (inlineStyles_alike hf (!keepUrl && mergeable != some false))
      (editAt props (indexOf? props templateUrl) (inlineTemplate keepUrl)).result (some u)
    simp only [hsecond.result, hsecond.notes]
    refine ⟨?_, rfl⟩
    split
    · exact (merge_alike hf _ _ _).result
    · rfl

omit hf in
/-- Objects that differ in spans only are edited into objects that differ in spans only. -/
theorem unplaced_result (keepUrl : Bool) {a b : List Property} (h : unplaced a = unplaced b) :
    unplaced (inlineMetadata keepUrl a).result = unplaced (inlineMetadata keepUrl b).result := by
  have hedit := fun props => (inlineMetadata_alike (f := fun _ => .dummy) rfl keepUrl props).result
  calc unplaced (inlineMetadata keepUrl a).result
      = (inlineMetadata keepUrl (unplaced a)).result := (hedit a).symm
    _ = (inlineMetadata keepUrl (unplaced b)).result := by rw [h]
    _ = unplaced (inlineMetadata keepUrl b).result := hedit b

omit hf in
/-- what is skipped in objects that differ in spans only is the same -/
theorem unplaced_notes (keepUrl : Bool) {a b : List Property} (h : unplaced a = unplaced b) :
    (inlineMetadata keepUrl a).notes = (inlineMetadata keepUrl b).notes := by
  have hedit := fun props => (inlineMetadata_alike (f := fun _ => .dummy) rfl keepUrl props).notes
  calc (inlineMetadata keepUrl a).notes
      = (inlineMetadata keepUrl (unplaced a)).notes := (hedit a).symm
    _ = (inlineMetadata keepUrl (unplaced b)).notes := by rw [h]
    _ = (inlineMetadata keepUrl b).notes := hedit b

end ResourceInliner.Metadata
