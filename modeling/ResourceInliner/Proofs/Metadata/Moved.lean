/-
The edit of an object some bytes later in the text: the same patches, moved along.

- `patches_moved`: the patches of an edit.
-/
import ResourceInliner.Proofs.Metadata.Spans
import ResourceInliner.Proofs.Tree.Moved

namespace ResourceInliner.Metadata

variable (bytes : UInt32)

/-! ## The patches of the parts -/

theorem keyEdit_moved (rename : Bool) (name : String) (key : Key) :
    (keyEdit rename name (key.mapSpans (Span.moved bytes))).2 = (keyEdit rename name key).2.map (Patch.moved bytes) := by
  cases rename <;> cases key <;> rfl

theorem inlineTemplate_moved (keepUrl : Bool) (prop : Property) :
    (inlineTemplate keepUrl (prop.moved bytes)).patches =
      (inlineTemplate keepUrl prop).patches.map (Patch.moved bytes) := by
  cases prop with
  | keyValue key value =>
    cases value with
    | string span value raw =>
      rw [Property.moved, Property.mapSpans, Node.mapSpans, inlineTemplate_string, inlineTemplate_string, keyEdit_moved]
      rfl
    | _ => rfl
  | _ => rfl

theorem inlineStyles_moved (rename : Bool) (prop : Property) :
    (inlineStyles rename (prop.moved bytes)).patches = (inlineStyles rename prop).patches.map (Patch.moved bytes) := by
  cases hlist : isInlinable prop with
  | false =>
    rw [(inlineStyles_of_not hlist rename).2, (inlineStyles_of_not (by rw [isInlinable_mapSpans, hlist]) rename).2]
    rfl
  | true =>
    obtain ⟨key, span, sheets, rfl⟩ := isInlinable_iff.1 hlist
    have hsheets : (sheets.map (Sheet.mapSpan (Span.moved bytes))).map Sheet.patch =
        (sheets.map Sheet.patch).map (Patch.moved bytes) := by
      rw [List.map_map, List.map_map]
      rfl
    rw [Property.moved, Property.mapSpans, Node.mapSpans, literals_mapSpans, inlineStyles_literals, inlineStyles_literals,
      keyEdit_moved, List.map_append, hsheets]

theorem templateEdit_moved (keepUrl : Bool) (props : List Property) :
    (templateEdit keepUrl (propsMoved bytes props)).patches =
      (templateEdit keepUrl props).patches.map (Patch.moved bytes) := by
  rw [templateEdit, templateEdit, indexOf?_mapSpans]
  cases indexOf? props templateUrl with
  | none => rfl
  | some t =>
    rw [editAt, editAt, propsMapSpans_getElem?]
    cases props[t]? with
    | none => rfl
    | some prop => exact inlineTemplate_moved bytes keepUrl prop

/-! ## The patches of the merge -/

theorem insertionPoint_moved (span : Span) (items : List Item) :
    insertionPoint (span.moved bytes) (itemsMoved bytes items) = insertionPoint span items + bytes := by
  have hlast : (itemsMoved bytes items).getLast?.bind Item.span? =
      (items.getLast?.bind Item.span?).map (Span.moved bytes) := by
    rw [itemsMoved, itemsMapSpans_eq, List.getLast?_map]
    cases items.getLast? with
    | none => rfl
    | some item => exact Item.span?_moved bytes item
  rw [insertionPoint, insertionPoint, hlast]
  cases items.getLast?.bind Item.span? with
  | none =>
    change span.hi + bytes - 1 = span.hi - 1 + bytes
    grind
  | some last => rfl

theorem mergedChunks_moved (value : Node) :
    mergedChunks (value.moved bytes) = (mergedChunks value).map fun group => group.map (Chunk.moved bytes) := by
  cases value with
  | array span items =>
    rw [Node.moved, Node.mapSpans, mergedChunks, mergedChunks, itemsMapSpans_eq, List.filterMap_map, List.map_filterMap]
    congr 1
    funext item
    rw [Function.comp_apply, Item.span?_moved]
    cases item.span? <;> rfl
  | _ => rfl

theorem joinGroups_moved (before : Bool) (groups : List (List Chunk)) :
    joinGroups before (groups.map fun group => group.map (Chunk.moved bytes)) =
      (joinGroups before groups).map (Chunk.moved bytes) := by
  induction groups generalizing before with
  | nil => cases before <;> rfl
  | cons group groups ih => cases before <;> simp [joinGroups, ih, Chunk.moved]

theorem insert_moved (at_ : UInt32) (chunks : List Chunk) :
    Patch.insert (at_ + bytes) (chunks.map (Chunk.moved bytes)) = (Patch.insert at_ chunks).moved bytes := by
  rw [Patch.insert, Patch.insert, Span.between_of_le (Nat.le_refl _), Span.between_of_le (Nat.le_refl _)]
  rfl

theorem insertion_moved (span : Span) (items : List Item) (value : Node) :
    insertion (span.moved bytes) (itemsMoved bytes items) (value.moved bytes) =
      (insertion span items value).map (Patch.moved bytes) := by
  rw [insertion, insertion, mergedChunks_moved, joinGroups_moved, insertionPoint_moved, insert_moved, List.isEmpty_map,
    itemsMoved, itemsMapSpans_eq, List.isEmpty_map]
  split <;> rfl

variable {bytes}

theorem remove_moved {a b : UInt32} (ha : a.toNat + bytes.toNat < UInt32.size) (hb : b.toNat + bytes.toNat < UInt32.size) :
    Patch.remove (a + bytes) (b + bytes) = (Patch.remove a b).moved bytes := by
  have horder : b + bytes < a + bytes ↔ b < a := by
    have hsize : UInt32.size = 4294967296 := rfl
    rw [UInt32.lt_iff_toNat_lt, UInt32.lt_iff_toNat_lt, UInt32.toNat_add, UInt32.toNat_add]
    omega
  rw [Patch.remove, Patch.remove, Patch.moved, Span.between, Span.between]
  simp only [horder]
  split <;> rfl

variable {base : UInt32}

/-- the patch that takes a property out moves along, if no position beside the property wraps around -/
theorem takeOut_moved {before : Option Span} {span : Span} {after : Option Span} (hspan : span.Movable base bytes)
    (hbefore : ∀ other, before = some other → other.Movable base bytes)
    (hafter : ∀ other, after = some other → other.Movable base bytes) :
    takeOut (before.map (Span.moved bytes)) (span.moved bytes) (after.map (Span.moved bytes)) =
      (takeOut before span after).moved bytes := by
  cases after with
  | some next => exact remove_moved hspan.lo_lt (hafter next rfl).lo_lt
  | none =>
    cases before with
    | some last => exact remove_moved (hbefore last rfl).hi_lt hspan.hi_lt
    | none => exact remove_moved hspan.lo_lt hspan.hi_lt

theorem removal_moved {props : List Property} (h : ∀ prop ∈ props, prop.span.Movable base bytes) {i : Nat}
    {prop : Property} (hprop : props[i]? = some prop) :
    removal (propsMoved bytes props) i (prop.moved bytes) = (removal props i prop).moved bytes := by
  have hspan : ∀ j : Nat, (propsMoved bytes props)[j]?.map Property.span =
      (props[j]?.map Property.span).map (Span.moved bytes) := by
    intro j
    rw [propsMapSpans_getElem?, Option.map_map, Option.map_map]
    congr 1
    funext other
    exact Property.span_moved bytes other
  have hmovable : ∀ (j : Nat) other, props[j]?.map Property.span = some other → other.Movable base bytes := by
    intro j other hother
    obtain ⟨found, hfound, rfl⟩ := Option.map_eq_some_iff.1 hother
    exact h found (List.mem_of_getElem? hfound)
  have hbefore : (if i = 0 then none else (propsMoved bytes props)[i - 1]?).map Property.span =
      ((if i = 0 then none else props[i - 1]?).map Property.span).map (Span.moved bytes) := by
    split
    · rfl
    · exact hspan (i - 1)
  rw [removal_eq, removal_eq, hspan, hbefore, Property.span_moved]
  refine takeOut_moved (h prop (List.mem_of_getElem? hprop)) (fun other hother => ?_) fun other => hmovable _ other
  split at hother
  · cases hother
  · exact hmovable _ other hother

/-! ## The patches of an edit -/

/-- **Main result.** An edit some bytes later makes the same patches, some bytes later. -/
theorem patches_moved (keepUrl : Bool) {props : List Property} (h : ∀ prop ∈ props, prop.span.Movable base bytes) :
    (inlineMetadata keepUrl (propsMoved bytes props)).patches =
      (inlineMetadata keepUrl props).patches.map (Patch.moved bytes) := by
  have hfirst := templateEdit_moved bytes keepUrl props
  cases hu : indexOf? props styleUrls with
  | none =>
    have hu' : indexOf? (propsMoved bytes props) styleUrls = none := by rw [indexOf?_mapSpans, hu]
    simp only [inlineMetadata, inlineMetadataWith, hu, hu']
    exact hfirst
  | some u =>
    obtain ⟨list, hlist, -⟩ := getElem?_of_indexOf? hu
    have hmoved : ∀ {i : Nat} {prop : Property}, props[i]? = some prop →
        (propsMoved bytes props)[i]? = some (prop.moved bytes) := by
      intro i prop hprop
      rw [propsMapSpans_getElem?, hprop, Option.map_some]
    have hu' : indexOf? (propsMoved bytes props) styleUrls = some u := by rw [indexOf?_mapSpans, hu]
    rw [(inlineMetadata_of_some keepUrl hu hlist).2, (inlineMetadata_of_some keepUrl hu' (hmoved hlist)).2, hfirst,
      isBlocked_mapSpans, isInlinable_mapSpans, inlineStyles_moved, List.map_append, List.map_append]
    congr 1
    cases hinlinable : isInlinable list with
    | false => rfl
    | true =>
      cases hblocked : isBlocked props with
      | true => rfl
      | false =>
        obtain ⟨key, span, sheets, rfl⟩ := isInlinable_iff.1 hinlinable
        simp only [Bool.not_false, Bool.and_true, if_true, indexOf?_mapSpans]
        cases hs : indexOf? props styles with
        | none => rfl
        | some s =>
          obtain ⟨gone, hgone, -, hfirst⟩ := getElem?_of_indexOf? hs
          obtain ⟨value, hvalue⟩ : ∃ value, value? gone = some value := by
            rw [isBlocked, hfirst, Option.any_some, Option.isNone_eq_false_iff] at hblocked
            exact Option.isSome_iff_exists.1 hblocked
          have hlist' := hmoved hlist
          have hvalue' : value? (gone.moved bytes) = some (value.moved bytes) := by rw [value?_mapSpans, hvalue]; rfl
          have hs' : indexOf? (propsMoved bytes props) styles = some s := by rw [indexOf?_mapSpans, hs]
          rw [Property.moved, Property.mapSpans, Node.mapSpans, literals_mapSpans] at hlist' ⊢
          simp only [inlineStyles_literals]
          rw [merge_listed _ hu hlist hs hgone hvalue, merge_listed _ hu' hlist' hs' (hmoved hgone) hvalue',
            ← literals_mapSpans, insertion_moved, removal_moved h hgone, List.map_append]
          rfl

end ResourceInliner.Metadata
