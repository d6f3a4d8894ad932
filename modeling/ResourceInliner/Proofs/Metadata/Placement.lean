/-
Where the patches of one object lie. If the spans of an object are well placed in a source, every patch of its edit can
be read and lies inside the object, and no two of them overlap.

- `ObjectPlaced`: the spans of an object literal, its properties, their keys and values, and the entries of lists.
- `fits_change`: the patches of one change lie inside its property.
- `takeOut_placed`: the patch that takes a property out lies between its neighbours.
- `edit_placed`: the patches of an edit.
-/
import Mathlib.Data.List.Perm.Basic
import ResourceInliner.Proofs.Metadata.Plan
import ResourceInliner.Proofs.Patch.Apply

namespace ResourceInliner

open Metadata

/-! ## Well-placed objects -/

/-- the entries of an array literal stand in order before its bracket -/
structure ItemsPlaced (source : List Char) (base : UInt32) (span : Span) (items : List Item) : Prop where
  readable : ∀ entry ∈ items.filterMap Item.span?, entry.Readable source base
  inside : ∀ entry ∈ items.filterMap Item.span?, entry.Inside ⟨span.lo, span.hi - 1⟩
  ordered : (items.filterMap Item.span?).Pairwise Span.Before
  nonempty : span.lo < span.hi
  bracket : Span.Reads source base ⟨span.hi - 1, span.hi⟩ [']']

/-- the key of a property stands before its value -/
def Property.KeyPlaced (source : List Char) (base : UInt32) : Property → Prop
  | .keyValue key value => key.span.Readable source base ∧ key.span.Before value.span
  | _ => True

/-- the properties of an object literal stand in order inside it, each with its key before its value -/
structure PropsPlaced (source : List Char) (base : UInt32) (span : Span) (props : List Property) : Prop where
  readable : ∀ prop ∈ props, prop.span.Readable source base
  inside : ∀ prop ∈ props, prop.span.Inside span
  ordered : props.Pairwise fun a b => a.span.Before b.span
  keys : ∀ prop ∈ props, prop.KeyPlaced source base

/-- an object literal with its values and the lists among them -/
structure ObjectPlaced (source : List Char) (base : UInt32) (span : Span) (props : List Property) : Prop extends
    PropsPlaced source base span props where
  values : ∀ key value, .keyValue key value ∈ props → value.span.Readable source base
  arrays : ∀ key span items, .keyValue key (.array span items) ∈ props → ItemsPlaced source base span items

variable {source : List Char} {base : UInt32}

instance (span : Span) (items : List Item) : Decidable (ItemsPlaced source base span items) :=
  decidable_of_iff ((∀ entry ∈ items.filterMap Item.span?, entry.Readable source base) ∧
      (∀ entry ∈ items.filterMap Item.span?, entry.Inside ⟨span.lo, span.hi - 1⟩) ∧
      (items.filterMap Item.span?).Pairwise Span.Before ∧ span.lo < span.hi ∧
      Span.Reads source base ⟨span.hi - 1, span.hi⟩ [']'])
    ⟨fun ⟨a, b, c, d, e⟩ => ⟨a, b, c, d, e⟩, fun ⟨a, b, c, d, e⟩ => ⟨a, b, c, d, e⟩⟩

instance : DecidablePred (Property.KeyPlaced source base)
  | .keyValue _ _ => inferInstanceAs (Decidable (_ ∧ _))
  | .shorthand _ _ | .withDefault _ _ _ _ | .method _ _ _ _ | .spread _ _ => inferInstanceAs (Decidable True)

instance (span : Span) (props : List Property) : Decidable (PropsPlaced source base span props) :=
  decidable_of_iff ((∀ prop ∈ props, prop.span.Readable source base) ∧ (∀ prop ∈ props, prop.span.Inside span) ∧
      (props.Pairwise fun a b => a.span.Before b.span) ∧ ∀ prop ∈ props, prop.KeyPlaced source base)
    ⟨fun ⟨a, b, c, d⟩ => ⟨a, b, c, d⟩, fun ⟨a, b, c, d⟩ => ⟨a, b, c, d⟩⟩

theorem Property.inside_of_keys {key : Key} {value : Node} (hkey : key.span.Readable source base)
    (hvalue : value.span.Readable source base) (horder : key.span.Before value.span) :
    key.span.Inside (Property.keyValue key value).span ∧ value.span.Inside (Property.keyValue key value).span := by
  have hkey := hkey.le
  have hvalue := hvalue.le
  rw [Span.before_iff] at horder
  simp only [Span.inside_iff, Property.span]
  omega

theorem ObjectPlaced.keyValue {span : Span} {props : List Property} (h : ObjectPlaced source base span props)
    {key : Key} {value : Node} (hmem : .keyValue key value ∈ props) :
    key.span.Readable source base ∧ value.span.Readable source base ∧ key.span.Before value.span :=
  ⟨(h.keys _ hmem).1, h.values key value hmem, (h.keys _ hmem).2⟩

theorem ItemsPlaced.hi_pos {span : Span} {items : List Item} (h : ItemsPlaced source base span items) :
    (span.hi - 1).toNat + 1 = span.hi.toNat := by
  obtain ⟨before, after, -, hlo, hhi⟩ := h.bracket
  have hone : byteLength [']'] = 1 := rfl
  dsimp only at hlo hhi
  omega

theorem ItemsPlaced.inside_span {span entry : Span} {items : List Item} (h : ItemsPlaced source base span items)
    (hentry : entry ∈ items.filterMap Item.span?) : entry.Inside span := by
  refine (h.inside entry hentry).trans ?_
  have := h.hi_pos
  simp only [Span.inside_iff]
  omega

namespace Metadata

/-! ## The patches of one change -/

/-- the patches that change the text in a part of an object: they can be read, lie in it and do not overlap -/
structure Fits (source : List Char) (base : UInt32) (part : Span) (patches : List Patch) : Prop where
  readable : ∀ patch ∈ patches, patch.span.Readable source base
  inside : ∀ patch ∈ patches, patch.span.Inside part
  apart : patches.Pairwise fun a b => a.span.Apart b.span

theorem Fits.nil (part : Span) : Fits source base part [] :=
  ⟨by simp, by simp, .nil⟩

theorem Fits.single {part : Span} {patch : Patch} (hread : patch.span.Readable source base)
    (hinside : patch.span.Inside part) : Fits source base part [patch] :=
  ⟨by simpa using hread, by simpa using hinside, List.pairwise_singleton _ _⟩

theorem Fits.append {part : Span} {a b : List Patch} (ha : Fits source base part a) (hb : Fits source base part b)
    (hab : ∀ p ∈ a, ∀ q ∈ b, p.span.Apart q.span) : Fits source base part (a ++ b) where
  readable patch hpatch := (List.mem_append.1 hpatch).elim (ha.readable patch) (hb.readable patch)
  inside patch hpatch := (List.mem_append.1 hpatch).elim (ha.inside patch) (hb.inside patch)
  apart := List.pairwise_append.2 ⟨ha.apart, hb.apart, hab⟩

theorem Fits.mono {part outer : Span} {patches : List Patch} (h : Fits source base part patches)
    (hpart : part.Inside outer) : Fits source base outer patches :=
  ⟨h.readable, fun patch hpatch => (h.inside patch hpatch).trans hpart, h.apart⟩

theorem Fits.perm {part : Span} {a b : List Patch} (h : Fits source base part a) (hperm : a.Perm b) :
    Fits source base part b :=
  ⟨fun patch hpatch => h.readable patch (hperm.mem_iff.2 hpatch),
    fun patch hpatch => h.inside patch (hperm.mem_iff.2 hpatch), (hperm.pairwise_iff fun h => h.symm).1 h.apart⟩

/-- the patch of a key lies in the key -/
theorem fits_keyEdit (rename : Bool) (name : String) {key : Key} (h : key.span.Readable source base) :
    Fits source base key.span (keyEdit rename name key).2 := by
  cases rename with
  | false => exact .nil _
  | true =>
    cases key with
    | name span old => exact .single h (Span.Inside.refl span)
    | _ => exact .nil _

/-- the patches of a key and of a value do not meet -/
theorem fits_keyValue {key : Key} {value : Node} {a b : List Patch} (hkey : key.span.Readable source base)
    (hvalue : value.span.Readable source base) (horder : key.span.Before value.span)
    (ha : Fits source base value.span a) (hb : Fits source base key.span b) :
    Fits source base (Property.keyValue key value).span (a ++ b) := by
  obtain ⟨hkeyIn, hvalueIn⟩ := Property.inside_of_keys hkey hvalue horder
  exact (ha.mono hvalueIn).append (hb.mono hkeyIn) fun p hp q hq => .inr (horder.mono (hb.inside q hq) (ha.inside p hp))

theorem spans_literals (sheets : List Sheet) :
    (sheets.map Sheet.literal).filterMap Item.span? = sheets.map Sheet.span := by
  rw [List.filterMap_map, ← List.filterMap_eq_map]
  rfl

theorem spans_patches (sheets : List Sheet) {patch : Patch} (h : patch ∈ sheets.map Sheet.patch) :
    patch.span ∈ (sheets.map Sheet.literal).filterMap Item.span? := by
  obtain ⟨sheet, hsheet, rfl⟩ := List.mem_map.1 h
  rw [spans_literals]
  exact List.mem_map_of_mem hsheet

/-- the patches of the entries of a list lie in the list -/
theorem fits_sheets {span : Span} {sheets : List Sheet} (h : ItemsPlaced source base span (sheets.map Sheet.literal)) :
    Fits source base span (sheets.map Sheet.patch) where
  readable patch hpatch := h.readable _ (spans_patches sheets hpatch)
  inside patch hpatch := h.inside_span (spans_patches sheets hpatch)
  apart := by
    have hordered := h.ordered
    rw [spans_literals, List.pairwise_map] at hordered
    rw [List.pairwise_map]
    exact hordered.imp fun h => .inl h

/-- the end of a list is behind its entries -/
theorem insertionPoint_placed {span : Span} {items : List Item} (h : ItemsPlaced source base span items) :
    Boundary source base (insertionPoint span items) ∧ span.lo.toNat ≤ (insertionPoint span items).toNat ∧
      (insertionPoint span items).toNat ≤ span.hi.toNat ∧
      ∀ entry ∈ items.filterMap Item.span?, entry.hi.toNat ≤ (insertionPoint span items).toNat := by
  have hpos := h.hi_pos
  rw [insertionPoint]
  split
  · rename_i last hlast
    obtain ⟨item, hitem, hspan⟩ := Option.bind_eq_some_iff.1 hlast
    obtain ⟨front, rfl⟩ := List.getLast?_eq_some_iff.1 hitem
    have hsplit : (front ++ [item]).filterMap Item.span? = front.filterMap Item.span? ++ [last] := by
      rw [List.filterMap_append, List.filterMap_cons_some hspan, List.filterMap_nil]
    have hmem : last ∈ (front ++ [item]).filterMap Item.span? := by rw [hsplit]; simp
    have hread := h.readable last hmem
    have hinside := Span.inside_iff.1 (h.inside_span hmem)
    have hle := hread.le
    refine ⟨hread.boundaries.2, by omega, by omega, fun entry hentry => ?_⟩
    have hordered := h.ordered
    rw [hsplit] at hordered hentry
    rcases List.mem_append.1 hentry with hfront | hback
    · have := Span.before_iff.1 ((List.pairwise_append.1 hordered).2.2 entry hfront last (by simp))
      omega
    · rw [List.mem_singleton] at hback
      exact Nat.le_of_eq (by rw [hback])
  · have hlt := UInt32.lt_iff_toNat_lt.1 h.nonempty
    obtain ⟨before, after, hsource, hlo, -⟩ := h.bracket
    refine ⟨⟨before, [']'] ++ after, by rw [hsource, List.append_assoc], hlo⟩, by omega, by omega, ?_⟩
    intro entry hentry
    exact (Span.inside_iff.1 (h.inside entry hentry)).2

/-- what is put in at the end of a list lies in it, behind its entries -/
theorem fits_insertion {span : Span} {items : List Item} (h : ItemsPlaced source base span items) (value : Node) :
    Fits source base span (insertion span items value) ∧
      ∀ patch ∈ insertion span items value, ∀ entry ∈ items.filterMap Item.span?, entry.Before patch.span := by
  obtain ⟨hboundary, hlo, hhi, hentries⟩ := insertionPoint_placed h
  have hspan : Span.between (insertionPoint span items) (insertionPoint span items) =
      ⟨insertionPoint span items, insertionPoint span items⟩ := Span.between_of_le (Nat.le_refl _)
  rw [insertion]
  split
  · exact ⟨.nil _, by simp⟩
  · refine ⟨.single ?_ ?_, ?_⟩
    · rw [Patch.insert, hspan]
      exact Span.readable_of_boundaries (Nat.le_refl _) hboundary hboundary
    · rw [Patch.insert, hspan, Span.inside_iff]
      exact ⟨hlo, hhi⟩
    · intro patch hpatch entry hentry
      rw [List.mem_singleton] at hpatch
      rw [hpatch, Patch.insert, hspan, Span.before_iff]
      exact hentries entry hentry

/-- the patches of one change lie in its property -/
theorem fits_change {moved : Option Node} {change : Change} (hlegal : change.Legal moved) {span : Span}
    {props : List Property} (h : ObjectPlaced source base span props) (hmem : change.old ∈ props) :
    Fits source base change.old.span (change.replaced ++ change.inserted) := by
  cases hlegal with
  | keep prop => exact .nil _
  | template rename key at_ value raw =>
    obtain ⟨hkey, hvalue, horder⟩ := h.keyValue hmem
    have hcall : Fits source base at_ [.replace at_ (Path.requireCall value)] := .single hvalue (Span.Inside.refl at_)
    have hfits := fits_keyValue hkey hvalue horder hcall (fits_keyEdit rename template hkey)
    simpa only [Change.ofTemplate, List.append_nil, List.singleton_append] using hfits
  | list rename key at_ sheets =>
    obtain ⟨hkey, hvalue, horder⟩ := h.keyValue hmem
    have hitems := h.arrays _ _ _ hmem
    have hmoved : Fits source base at_ (movedPatches at_ (sheets.map Sheet.literal) moved) ∧
        ∀ patch ∈ movedPatches at_ (sheets.map Sheet.literal) moved,
          ∀ entry ∈ (sheets.map Sheet.literal).filterMap Item.span?, entry.Before patch.span := by
      cases moved with
      | none => exact ⟨.nil _, by simp [movedPatches]⟩
      | some value => exact fits_insertion hitems value
    have hlist := (fits_sheets hitems).append hmoved.1 fun p hp q hq => .inl (hmoved.2 q hq _ (spans_patches sheets hp))
    refine (fits_keyValue hkey hvalue horder hlist (fits_keyEdit rename styles hkey)).perm ?_
    rw [Change.ofList, List.append_assoc, List.append_assoc]
    exact List.Perm.append_left _ List.perm_append_comm

/-! ## The patches of an edit -/

theorem fits_changes {moved : Option Node} {changes : List Change} {span : Span} {props : List Property}
    (h : ObjectPlaced source base span props) (hlegal : ∀ change ∈ changes, change.Legal moved)
    (hold : (changes.map Change.old).Sublist props) :
    Fits source base span (changes.flatMap fun change => change.replaced ++ change.inserted) := by
  have hmem : ∀ change ∈ changes, change.old ∈ props := fun change hchange => hold.subset (List.mem_map_of_mem hchange)
  have hfits := fun change hchange => fits_change (hlegal change hchange) h (hmem change hchange)
  refine ⟨fun patch hpatch => ?_, fun patch hpatch => ?_, ?_⟩
  · obtain ⟨change, hchange, hpatch⟩ := List.mem_flatMap.1 hpatch
    exact (hfits change hchange).readable patch hpatch
  · obtain ⟨change, hchange, hpatch⟩ := List.mem_flatMap.1 hpatch
    exact ((hfits change hchange).inside patch hpatch).trans (h.inside _ (hmem change hchange))
  · refine List.pairwise_flatMap.2 ⟨fun change hchange => (hfits change hchange).apart, ?_⟩
    have hordered := h.ordered.sublist hold
    rw [List.pairwise_map] at hordered
    refine hordered.imp_of_mem fun ha hb hab p hp q hq => ?_
    exact .inl (hab.mono ((hfits _ ha).inside p hp) ((hfits _ hb).inside q hq))

/-- a span can be read, and lies in an object between the properties before it and those after it -/
structure LiesBetween (source : List Char) (base : UInt32) (span : Span) (before after : List Property) (out : Span) :
    Prop where
  readable : out.Readable source base
  inside : out.Inside span
  behind : ∀ prop ∈ before, prop.span.Before out
  ahead : ∀ prop ∈ after, out.Before prop.span

/-- a property that others follow goes with the comma behind it -/
theorem takeOut_next {before rest : List Property} {gone next : Property} {span : Span}
    (h : ObjectPlaced source base span (before ++ gone :: next :: rest)) (last : Option Span) :
    LiesBetween source base span before (next :: rest) (takeOut last gone.span (some next.span)).span := by
  have hread := h.readable gone (by simp)
  have hnextRead := h.readable next (by simp)
  have hordered := h.ordered
  rw [List.pairwise_append, List.pairwise_cons, List.pairwise_cons] at hordered
  obtain ⟨-, ⟨hnext, hrest, -⟩, hbefore⟩ := hordered
  have hle := hread.le
  have hgap := Span.before_iff.1 (hnext next (by simp))
  have hout : (takeOut last gone.span (some next.span)).span = ⟨gone.span.lo, next.span.lo⟩ :=
    Span.between_of_le (by omega)
  rw [hout]
  refine ⟨?_, ?_, fun prop hprop => hbefore prop hprop gone (by simp), fun prop hprop => ?_⟩
  · exact Span.readable_of_boundaries (by dsimp only; omega) hread.boundaries.1 hnextRead.boundaries.1
  · have hin := Span.inside_iff.1 (h.inside gone (by simp))
    have hnextIn := Span.inside_iff.1 (h.inside next (by simp))
    have hnextLe := hnextRead.le
    rw [Span.inside_iff]
    dsimp only
    omega
  · rw [Span.before_iff]
    rcases List.mem_cons.1 hprop with rfl | hother
    · exact Nat.le_refl _
    · have hnextLe := hnextRead.le
      have := Span.before_iff.1 (hrest prop hother)
      dsimp only
      omega

/-- the last property goes with the comma in front of it -/
theorem takeOut_last {before : List Property} {gone last : Property} {span : Span}
    (h : ObjectPlaced source base span (before ++ [last] ++ [gone])) :
    LiesBetween source base span (before ++ [last]) [] (takeOut (some last.span) gone.span none).span := by
  have hread := h.readable gone (by simp)
  have hlastRead := h.readable last (by simp)
  have hordered := h.ordered
  rw [List.pairwise_append, List.pairwise_append] at hordered
  obtain ⟨⟨-, -, hbefore⟩, -, hgone⟩ := hordered
  have hle := hread.le
  have hgap := Span.before_iff.1 (hgone last (by simp) gone (by simp))
  have hout : (takeOut (some last.span) gone.span none).span = ⟨last.span.hi, gone.span.hi⟩ :=
    Span.between_of_le (by omega)
  rw [hout]
  refine ⟨?_, ?_, fun prop hprop => ?_, by simp⟩
  · exact Span.readable_of_boundaries (by dsimp only; omega) hlastRead.boundaries.2 hread.boundaries.2
  · have hin := Span.inside_iff.1 (h.inside gone (by simp))
    have hlastIn := Span.inside_iff.1 (h.inside last (by simp))
    have hlastLe := hlastRead.le
    rw [Span.inside_iff]
    dsimp only
    omega
  · rw [Span.before_iff]
    rcases List.mem_append.1 hprop with hother | hprop
    · have hlastLe := hlastRead.le
      have := Span.before_iff.1 (hbefore prop hother last (by simp))
      dsimp only
      omega
    · rw [List.mem_singleton] at hprop
      exact Nat.le_of_eq (by rw [hprop])

/-- what is taken out lies between the neighbours -/
theorem takeOut_placed {before after : List Property} {gone : Property} {span : Span}
    (h : ObjectPlaced source base span (before ++ gone :: after)) : LiesBetween source base span before after
      (takeOut (before.getLast?.map Property.span) gone.span (after.head?.map Property.span)).span := by
  cases after with
  | cons next rest => exact takeOut_next h _
  | nil =>
    rcases List.eq_nil_or_concat before with rfl | ⟨front, last, rfl⟩
    · have hread := h.readable gone (by simp)
      have hout : (takeOut none gone.span none).span = gone.span := Span.between_of_le hread.le
      rw [List.getLast?_nil, List.head?_nil, Option.map_none, hout]
      exact ⟨hread, h.inside gone (by simp), by simp, by simp⟩
    · rw [List.concat_eq_append] at h ⊢
      rw [List.getLast?_concat]
      exact takeOut_last h

theorem mem_joinGroups {copied : Span} {comma : Bool} {groups : List (List Chunk)}
    (h : .source copied ∈ joinGroups comma groups) : ∃ group ∈ groups, .source copied ∈ group := by
  induction groups generalizing comma with
  | nil => cases comma <;> cases h
  | cons group rest ih =>
    have hsplit : .source copied ∈ group ∨ .source copied ∈ joinGroups true rest := by
      cases comma <;> simpa [joinGroups] using h
    rcases hsplit with hgroup | hrest
    · exact ⟨group, List.mem_cons_self, hgroup⟩
    · obtain ⟨other, hother, hcopied⟩ := ih hrest
      exact ⟨other, List.mem_cons_of_mem _ hother, hcopied⟩

/-- what replaces text in a property copies nothing -/
theorem not_copied_of_replaced {moved : Option Node} {change : Change} (hlegal : change.Legal moved) {patch : Patch}
    (hpatch : patch ∈ change.replaced) (copied : Span) : .source copied ∉ patch.chunks := by
  have hkey : ∀ rename name key, patch ∈ (keyEdit rename name key).2 → .source copied ∉ patch.chunks := by
    intro rename name key hpatch
    cases rename with
    | false => cases hpatch
    | true => cases key <;> simp_all [keyEdit, renameKey, Patch.replace]
  cases hlegal with
  | keep prop => cases hpatch
  | template rename key at_ value raw =>
    rcases List.mem_cons.1 hpatch with rfl | hrename
    · simp [Patch.replace]
    · exact hkey _ _ _ hrename
  | list rename key at_ sheets =>
    rcases List.mem_append.1 hpatch with hsheet | hrename
    · obtain ⟨sheet, -, rfl⟩ := List.mem_map.1 hsheet
      simp [Sheet.patch, Patch.replace]
    · exact hkey _ _ _ hrename

/-- what is put in copies parts of the value that moves -/
theorem copied_of_inserted {moved : Option Node} {change : Change} (hlegal : change.Legal moved) {patch : Patch}
    (hpatch : patch ∈ change.inserted) {copied : Span} (hcopied : .source copied ∈ patch.chunks) :
    ∃ value, moved = some value ∧ ∃ group ∈ mergedChunks value, .source copied ∈ group := by
  cases hlegal with
  | keep prop => cases hpatch
  | template => cases hpatch
  | list rename key at_ sheets =>
    cases moved with
    | none => cases hpatch
    | some value =>
      have hmem : patch ∈ insertion at_ (sheets.map Sheet.literal) value := hpatch
      rw [insertion] at hmem
      split at hmem
      · cases hmem
      · rw [List.mem_singleton] at hmem
        rw [hmem] at hcopied
        exact ⟨value, rfl, mem_joinGroups hcopied⟩

theorem copied_of_legal {moved : Option Node} {change : Change} (hlegal : change.Legal moved) {patch : Patch}
    (hpatch : patch ∈ change.replaced ++ change.inserted) {copied : Span} (hcopied : .source copied ∈ patch.chunks) :
    ∃ value, moved = some value ∧ ∃ group ∈ mergedChunks value, .source copied ∈ group := by
  rcases List.mem_append.1 hpatch with hreplaced | hinserted
  · exact absurd hcopied (not_copied_of_replaced hlegal hreplaced copied)
  · exact copied_of_inserted hlegal hinserted hcopied

/-- what a value adds to a list copies the entries of an array, or the whole value -/
theorem copied_of_mergedChunks {value : Node} {group : List Chunk} (hgroup : group ∈ mergedChunks value) {copied : Span}
    (hcopied : .source copied ∈ group) :
    copied = value.span ∨ ∃ span items, value = .array span items ∧ copied ∈ items.filterMap Item.span? := by
  cases value with
  | array span items =>
    obtain ⟨item, hitem, hchunks⟩ := List.mem_filterMap.1 hgroup
    obtain ⟨entry, hentry, rfl⟩ := Option.map_eq_some_iff.1 hchunks
    rw [List.mem_singleton, Chunk.source.injEq] at hcopied
    rw [hcopied]
    exact .inr ⟨span, items, rfl, List.mem_filterMap.2 ⟨item, hitem, hentry⟩⟩
  | _ =>
    rw [mergedChunks, List.mem_singleton] at hgroup
    · left
      simpa [hgroup] using hcopied
    · simp

/-- the parts of a value that are copied can be read and lie in its property -/
theorem copied_placed {span : Span} {props : List Property} (h : ObjectPlaced source base span props) {gone : Property}
    {value : Node} (hmem : gone ∈ props) (hvalue : value? gone = some value) {copied : Span} {group : List Chunk}
    (hgroup : group ∈ mergedChunks value) (hcopied : .source copied ∈ group) :
    copied.Readable source base ∧ copied.Inside gone.span := by
  have hparts := copied_of_mergedChunks hgroup hcopied
  cases gone with
  | keyValue key found =>
    rw [value?, Option.some.injEq] at hvalue
    subst hvalue
    obtain ⟨hkeyRead, hread, horder⟩ := h.keyValue hmem
    have hinside := (Property.inside_of_keys hkeyRead hread horder).2
    rcases hparts with rfl | ⟨at_, items, rfl, hentry⟩
    · exact ⟨hread, hinside⟩
    · have hitems := h.arrays _ _ _ hmem
      exact ⟨hitems.readable _ hentry, (hitems.inside_span hentry).trans hinside⟩
  | shorthand at_ name =>
    rw [value?, Option.some.injEq] at hvalue
    subst hvalue
    rcases hparts with rfl | ⟨_, _, hnot, -⟩
    · exact ⟨h.readable _ hmem, Span.Inside.refl _⟩
    · cases hnot
  | _ => cases hvalue

/-- **Main result.** The patches of an edit can be read, lie inside the object with all that they copy, and do not
overlap. -/
theorem edit_placed (keepUrl : Bool) {span : Span} {props : List Property} (h : ObjectPlaced source base span props) :
    Fits source base span (inlineMetadata keepUrl props).patches ∧
      ∀ patch ∈ (inlineMetadata keepUrl props).patches, ∀ copied, .source copied ∈ patch.chunks →
        copied.Readable source base ∧ copied.Inside span := by
  have hplan := plan keepUrl props
  generalize (inlineMetadata keepUrl props).result = result, (inlineMetadata keepUrl props).patches = patches at hplan ⊢
  cases hplan with
  | @whole changes _ hlegal hold hpatches =>
    have hfits := fits_changes h hlegal (by rw [hold])
    have hperm := List.flatMap_append_perm changes Change.replaced Change.inserted
    rw [inserted_of_legal_none hlegal, List.append_nil] at hperm
    refine ⟨hfits.perm (hpatches.trans hperm).symm, fun patch hpatch copied hcopied => ?_⟩
    obtain ⟨change, hchange, hmem⟩ := List.mem_flatMap.1 (hpatches.mem_iff.1 hpatch)
    exact absurd hcopied (not_copied_of_replaced (hlegal change hchange) hmem copied)
  | @less before after gone value inserted _ hname hvalue hothers hlegal hold hinserted hsingle hpatches =>
    subst hold
    have hsublist :
        ((before ++ after).map Change.old).Sublist (before.map Change.old ++ gone :: after.map Change.old) := by
      rw [List.map_append]
      exact (List.sublist_cons_self gone _).append_left _
    have hperm : patches.Perm (((before ++ after).flatMap fun change => change.replaced ++ change.inserted) ++
        [takeOut ((before.map Change.old).getLast?.map Property.span) gone.span
          ((after.map Change.old).head?.map Property.span)]) :=
      hpatches.trans (((hinserted.append_left _).trans (List.flatMap_append_perm ..)).append_right _)
    have hout := takeOut_placed h
    have hmem : ∀ change ∈ before ++ after, change.old ∈ before.map Change.old ++ gone :: after.map Change.old :=
      fun change hchange => hsublist.subset (List.mem_map_of_mem hchange)
    refine ⟨((fits_changes h hlegal hsublist).append (.single hout.readable hout.inside) ?_).perm hperm.symm, ?_⟩
    · intro patch hpatch out hmemOut
      obtain ⟨change, hchange, hpatch⟩ := List.mem_flatMap.1 hpatch
      have hinside := (fits_change (hlegal change hchange) h (hmem change hchange)).inside patch hpatch
      rw [List.mem_singleton] at hmemOut
      rw [hmemOut]
      rcases List.mem_append.1 hchange with hbefore | hafter
      · exact .inl ((hout.behind _ (List.mem_map_of_mem hbefore)).mono hinside (Span.Inside.refl _))
      · exact .inr ((hout.ahead _ (List.mem_map_of_mem hafter)).mono (Span.Inside.refl _) hinside)
    · intro patch hpatch copied hcopied
      rcases List.mem_append.1 (hperm.mem_iff.1 hpatch) with hchanges | hmemOut
      · obtain ⟨change, hchange, hpatch⟩ := List.mem_flatMap.1 hchanges
        obtain ⟨_, hmoved, group, hgroup, hmem⟩ := copied_of_legal (hlegal change hchange) hpatch hcopied
        rw [Option.some.injEq] at hmoved
        subst hmoved
        obtain ⟨hread, hinside⟩ := copied_placed h (by simp) hvalue hgroup hmem
        exact ⟨hread, hinside.trans (h.inside gone (by simp))⟩
      · rw [List.mem_singleton] at hmemOut
        rw [hmemOut, takeOut_chunks] at hcopied
        cases hcopied

end Metadata

end ResourceInliner
