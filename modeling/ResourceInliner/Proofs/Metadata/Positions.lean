/-
The positions that an edit works out. Almost all of them are ends of spans, taken over as they are. One is not: entries
that are put into an empty list go in front of its bracket, one byte before its end. A list that another program made up
stands nowhere, at position zero, and no position comes before that one.

- `Strict.inlineMetadata`: the edit with this subtraction checked. It has no result where the subtraction goes below zero.
- `strict_inlineMetadata`: it goes below zero for the objects of `goesBelowZero` only, and comes to what the edit without
  checks comes to for all others.
- `strict_of_placed`: it never does for an object in a source.
-/
import ResourceInliner.Proofs.Metadata.Placement
import ResourceInliner.Proofs.Metadata.SingleStyles

namespace ResourceInliner.Metadata

namespace Strict

/-- the position one byte before another one; there is none before position zero -/
def before? (position : UInt32) : Option UInt32 :=
  if position = 0 then none else some (position - 1)

/-- `insertionPoint`, with its subtraction checked -/
def insertionPoint (span : Span) (items : List Item) : Option UInt32 :=
  match items.getLast?.bind Item.span? with
  | some last => some last.hi
  | none => before? span.hi

/-- `inlineMetadata`, with its subtraction checked -/
def inlineMetadata (keepUrl : Bool) (props : List Property) : Option (Edit (List Property)) :=
  inlineMetadataWith insertionPoint keepUrl props

end Strict

/-! ## Where the subtraction goes below zero -/

/-- an empty list that ends at position zero -/
def endsAtZero : Property → Bool
  | .keyValue _ (.array span []) => span.hi == 0
  | _ => false

/-- Does an edit look for a position before zero? It does if the style sheets are an empty list that ends there, and there
is a `styles` whose entries are to be put into it. -/
def goesBelowZero (props : List Property) : Bool :=
  (named styleUrls props).head?.any endsAtZero && hasValue props

theorem strict_insertionPoint (span : Span) (items : List Item) :
    Strict.insertionPoint span items =
      if (items.getLast?.bind Item.span?).isNone && span.hi == 0 then none else some (insertionPoint span items) := by
  rw [Strict.insertionPoint, insertionPoint]
  cases items.getLast?.bind Item.span? with
  | none => simp only [Strict.before?, Option.isNone_none, Bool.true_and, beq_iff_eq]
  | some last => rfl

-- without the check the position is the last one of all
example : insertionPoint .dummy [] = 4294967295 := by decide

theorem strict_merge {props : List Property} {u s : Nat} {key : Key} {span : Span} {items : List Item} {gone : Property}
    {value : Node} (hgone : props[s]? = some gone) (hlist : props[u]? = some (.keyValue key (.array span items)))
    (hvalue : value? gone = some value) :
    mergeWith Strict.insertionPoint props u s =
      if (items.getLast?.bind Item.span?).isNone && span.hi == 0 then none else some (merge props u s) := by
  simp only [merge, mergeWith, hgone, hlist, hvalue, strict_insertionPoint]
  split <;> rfl

theorem exists_value_of_hasValue {props : List Property} (h : hasValue props = true) :
    ∃ s gone value, indexOf? props styles = some s ∧ props[s]? = some gone ∧ value? gone = some value := by
  rw [hasValue_eq, Bool.and_eq_true, Bool.not_eq_true', Bool.not_eq_true'] at h
  refine exists_value fun hor => ?_
  rcases hor with hnone | hblocked
  · rw [hnone] at h
    cases h.1
  · rw [hblocked] at h
    cases h.2

theorem endsAtZero_literals (key : Key) (span : Span) (sheets : List Sheet) :
    endsAtZero (.keyValue key (.array span (sheets.map Sheet.literal))) = (sheets.isEmpty && span.hi == 0) := by
  cases sheets <;> rfl

theorem endsAtZero_of_not {prop : Property} (h : isInlinable prop = false) : endsAtZero prop = false := by
  unfold endsAtZero
  split
  · cases h
  · rfl

theorem goesBelowZero_eq_false {props : List Property}
    (h : ∀ list, (named styleUrls props).head? = some list → (endsAtZero list && hasValue props) = false) :
    goesBelowZero props = false := by
  rw [goesBelowZero]
  cases hfirst : (named styleUrls props).head? with
  | none => rfl
  | some list => exact h list hfirst

/-- the edit and the checked edit of an object whose style sheets can be inlined and whose `styles` has a value -/
theorem strict_folded (keepUrl : Bool) {props : List Property} {u s : Nat} {key : Key} {span : Span} {sheets : List Sheet}
    {gone : Property} {value : Node} (hu : indexOf? props styleUrls = some u)
    (hlist : props[u]? = some (.keyValue key (.array span (sheets.map Sheet.literal))))
    (hs : indexOf? props styles = some s) (hgone : props[s]? = some gone) (hvalue : value? gone = some value) :
    Strict.inlineMetadata keepUrl props =
      if sheets.isEmpty && span.hi == 0 then none else some (inlineMetadata keepUrl props) := by
  have hinlinable : isInlinable (.keyValue key (.array span (sheets.map Sheet.literal))) = true :=
    isInlinable_iff.2 ⟨_, _, _, rfl⟩
  have hfirst : (templateEdit keepUrl props).result[u]? = _ := (templateEdit_getElem? hu (by decide) keepUrl).trans hlist
  have hgoneNow := fun new => (getElem?_set_templateEdit hu hs keepUrl new).trans hgone
  have hlistNow : ∀ new, ((templateEdit keepUrl props).result.set u new)[u]? = some new := fun new =>
    List.getElem?_set_self (List.getElem?_eq_some_iff.1 hfirst).1
  have hlast : ((sheets.map Sheet.reference).getLast?.bind Item.span?).isNone = sheets.isEmpty := by
    rw [List.getLast?_map]
    cases sheets with
    | nil => rfl
    | cons sheet rest => rw [List.getLast?_cons]; rfl
  have htemplate : editAt props (indexOf? props templateUrl) (inlineTemplate keepUrl) = templateEdit keepUrl props := rfl
  simp only [Strict.inlineMetadata, inlineMetadata, inlineMetadataWith, htemplate, hu, hs, hlist, hgone,
    editAt_of_some hfirst, inlineStyles_literals, Option.map_some, Option.bind_some, hvalue, Option.isSome_some,
    hinlinable, Option.getD_some, strict_merge (hgoneNow _) (hlistNow _) hvalue, hlast]
  cases sheets.isEmpty && span.hi == 0 <;> rfl

/-- the edit and the checked edit of an object that has nothing to merge -/
theorem strict_unfolded (keepUrl : Bool) {props : List Property} (h : (listsSheets props && hasValue props) = false) :
    Strict.inlineMetadata keepUrl props = some (inlineMetadata keepUrl props) := by
  cases hu : indexOf? props styleUrls with
  | none => simp only [Strict.inlineMetadata, inlineMetadata, inlineMetadataWith, hu]; rfl
  | some u =>
    obtain ⟨list, hlist, -, hfirst⟩ := getElem?_of_indexOf? hu
    rw [listsSheets, hfirst, Option.any_some] at h
    cases hs : indexOf? props styles with
    | none => simp only [Strict.inlineMetadata, inlineMetadata, inlineMetadataWith, hu, hs]; rfl
    | some s =>
      obtain ⟨gone, hgone, -, hfirstGone⟩ := getElem?_of_indexOf? hs
      rw [hasValue, hfirstGone, Option.any_some] at h
      simp only [Strict.inlineMetadata, inlineMetadata, inlineMetadataWith, hu, hs, hlist, hgone, Option.map_some,
        Option.bind_some, Option.getD_some]
      cases hvalue : (value? gone).isSome with
      | false => rfl
      | true =>
        rw [hvalue, Bool.and_true] at h
        rw [h]
        rfl

/-- A checked edit goes below zero for the objects of `goesBelowZero` only, and comes to what the edit without checks comes
to for all others. -/
theorem strict_inlineMetadata (keepUrl : Bool) (props : List Property) :
    Strict.inlineMetadata keepUrl props = if goesBelowZero props then none else some (inlineMetadata keepUrl props) := by
  cases hfold : listsSheets props && hasValue props with
  | false =>
    -- there is nothing to merge; an empty list would be one to inline, so its end does not matter
    have hstays : goesBelowZero props = false := by
      refine goesBelowZero_eq_false fun list hfirst => ?_
      rw [listsSheets, hfirst, Option.any_some, Bool.and_eq_false_iff] at hfold
      exact Bool.and_eq_false_iff.2 (hfold.imp_left endsAtZero_of_not)
    rw [strict_unfolded keepUrl hfold, hstays]
    rfl
  | true =>
    obtain ⟨hlists, hvalues⟩ := Bool.and_eq_true_iff.1 hfold
    obtain ⟨list, hfirst, hinlinable⟩ := (Option.any_eq_true _ _).1 hlists
    obtain ⟨key, span, sheets, rfl⟩ := isInlinable_iff.1 hinlinable
    obtain ⟨u, hu, hlist⟩ := exists_indexOf?_of_head? hfirst
    obtain ⟨s, gone, value, hs, hgone, hvalue⟩ := exists_value_of_hasValue hvalues
    rw [strict_folded keepUrl hu hlist hs hgone hvalue, goesBelowZero, hfirst, Option.any_some, endsAtZero_literals,
      hvalues, Bool.and_true]

/-- the bracket of a list in a source has a place of its own, so nothing goes below zero there -/
theorem strict_of_placed {source : List Char} {base : UInt32} {span : Span} {props : List Property}
    (h : ObjectPlaced source base span props) (keepUrl : Bool) :
    Strict.inlineMetadata keepUrl props = some (inlineMetadata keepUrl props) := by
  have hends : ∀ prop ∈ props, endsAtZero prop = false := by
    intro prop hprop
    unfold endsAtZero
    split
    · rename_i key list
      have hpos := (h.arrays _ _ _ hprop).hi_pos
      refine beq_eq_false_iff_ne.2 fun hzero => ?_
      rw [hzero, UInt32.toNat_zero] at hpos
      omega
    · rfl
  have hstays : goesBelowZero props = false := by
    refine goesBelowZero_eq_false fun list hfirst => ?_
    rw [hends list (List.mem_filter.1 (List.mem_of_head? hfirst)).1, Bool.false_and]
  rw [strict_inlineMetadata, hstays]
  rfl

end ResourceInliner.Metadata
