/-
The edit of an object as a list of changes, one for each property. Where the edit is done index by index, the changes
stand in the order of the properties, which is the order of the text.

- `Change`: a property, what it becomes, and the patches for it. `Change.Legal`: the changes that an edit is made of.
- `plan`: an edit is a list of such changes, or it is one with a property taken out between two parts of it.
-/
import ResourceInliner.Proofs.Metadata.Outcome

namespace ResourceInliner.Metadata

/-- what becomes of one property, with the patches that replace text in it and those that put text in -/
structure Change where
  old : Property
  new : Property
  replaced : List Patch
  inserted : List Patch

/-- the entries that move to the end of a list -/
def movedItems (moved : Option Node) : List Item :=
  (moved.map mergedItems).getD []

/-- the patches that put them in -/
def movedPatches (span : Span) (items : List Item) (moved : Option Node) : List Patch :=
  (moved.map (insertion span items)).getD []

namespace Change

/-- a property that stays as it is -/
def keep (prop : Property) : Change := ⟨prop, prop, [], []⟩

/-- a template that is inlined -/
def ofTemplate (rename : Bool) (key : Key) (span : Span) (value raw : String) : Change where
  old := .keyValue key (.string span value raw)
  new := .keyValue (keyEdit rename template key).1 (requireNode value span)
  replaced := .replace span (Path.requireCall value) :: (keyEdit rename template key).2
  inserted := []

/-- style sheets that are inlined, with entries that move behind them -/
def ofList (rename : Bool) (key : Key) (span : Span) (sheets : List Sheet) (moved : Option Node) : Change where
  old := .keyValue key (.array span (sheets.map Sheet.literal))
  new := .keyValue (keyEdit rename styles key).1 (.array span (sheets.map Sheet.reference ++ movedItems moved))
  replaced := sheets.map Sheet.patch ++ (keyEdit rename styles key).2
  inserted := movedPatches span (sheets.map Sheet.literal) moved

/-- the changes that an edit is made of -/
inductive Legal (moved : Option Node) : Change → Prop where
  | keep (prop : Property) : Legal moved (keep prop)
  | template (rename : Bool) (key : Key) (span : Span) (value raw : String) :
    Legal moved (ofTemplate rename key span value raw)
  | list (rename : Bool) (key : Key) (span : Span) (sheets : List Sheet) :
    Legal moved (ofList rename key span sheets moved)

end Change

/-! ## Changes one after the other -/

/-- the changes lead from these properties to those, with these patches -/
structure Follows (moved : Option Node) (props result : List Property) (replaced inserted : List Patch)
    (changes : List Change) : Prop where
  legal : ∀ change ∈ changes, change.Legal moved
  old : changes.map Change.old = props
  new : changes.map Change.new = result
  replaced : replaced.Perm (changes.flatMap Change.replaced)
  inserted : inserted.Perm (changes.flatMap Change.inserted)

theorem follows_keep (moved : Option Node) (props : List Property) :
    Follows moved props props [] [] (props.map Change.keep) where
  legal := by
    intro change hchange
    obtain ⟨prop, -, rfl⟩ := List.mem_map.1 hchange
    exact .keep prop
  old := by rw [List.map_map]; exact List.map_id _
  new := by rw [List.map_map]; exact List.map_id _
  replaced := by rw [List.flatMap_map]; simp [Change.keep]
  inserted := by rw [List.flatMap_map]; simp [Change.keep]

theorem flatMap_split {α β : Type} (f : α → List β) {l : List α} {i : Nat} {a : α} (h : l[i]? = some a) :
    l.flatMap f = (l.take i).flatMap f ++ (f a ++ (l.drop (i + 1)).flatMap f) := by
  obtain ⟨hi, rfl⟩ := List.getElem?_eq_some_iff.1 h
  conv_lhs => rw [← List.take_append_drop i l, List.drop_eq_getElem_cons hi]
  rw [List.flatMap_append, List.flatMap_cons]

theorem flatMap_set_perm {α β : Type} (f : α → List β) {l : List α} {i : Nat} {a : α} (h : l[i]? = some a) (b : α) :
    (l.flatMap f ++ f b).Perm ((l.set i b).flatMap f ++ f a) := by
  have hi := (List.getElem?_eq_some_iff.1 h).1
  rw [List.set_eq_take_append_cons_drop, if_pos hi, flatMap_split f h, List.flatMap_append, List.flatMap_cons]
  classical
  rw [List.perm_iff_count]
  intro x
  simp only [List.count_append]
  omega

/-- changing a property that was kept so far -/
theorem Follows.set {moved : Option Node} {props result : List Property} {replaced inserted : List Patch}
    {changes : List Change} (h : Follows moved props result replaced inserted changes) {i : Nat} (change : Change)
    (hi : changes[i]? = some (Change.keep change.old)) (hlegal : change.Legal moved) :
    Follows moved props (result.set i change.new) (replaced ++ change.replaced) (inserted ++ change.inserted)
      (changes.set i change) where
  legal := by
    intro other hother
    rcases List.mem_or_eq_of_mem_set hother with hmem | rfl
    · exact h.legal other hmem
    · exact hlegal
  old := by
    rw [List.map_set, h.old]
    refine set_eq_self ?_
    rw [← h.old, List.getElem?_map, hi]
    rfl
  new := by rw [List.map_set, h.new]
  replaced := by
    rw [← List.append_nil (List.flatMap _ (changes.set i change))]
    exact (h.replaced.append_right _).trans (flatMap_set_perm Change.replaced hi change)
  inserted := by
    rw [← List.append_nil (List.flatMap _ (changes.set i change))]
    exact (h.inserted.append_right _).trans (flatMap_set_perm Change.inserted hi change)

/-- a property that is kept is taken out from between the changes before and after it -/
theorem Follows.cut {moved : Option Node} {props result : List Property} {replaced inserted : List Patch}
    {changes : List Change} (h : Follows moved props result replaced inserted changes) {s : Nat} {gone : Property}
    (hs : changes[s]? = some (Change.keep gone)) :
    ∃ before after : List Change, before.length = s ∧ before.map Change.old ++ gone :: after.map Change.old = props ∧
      (before ++ after).map Change.new = result.eraseIdx s ∧ (∀ change ∈ before ++ after, change.Legal moved) ∧
      replaced.Perm ((before ++ after).flatMap Change.replaced) ∧
      inserted.Perm ((before ++ after).flatMap Change.inserted) := by
  obtain ⟨hlt, hat⟩ := List.getElem?_eq_some_iff.1 hs
  have hsplit : changes = changes.take s ++ Change.keep gone :: changes.drop (s + 1) := by
    rw [← hat, ← List.drop_eq_getElem_cons hlt, List.take_append_drop]
  have hlength : (changes.take s).length = s := by rw [List.length_take]; omega
  generalize changes.take s = before, changes.drop (s + 1) = after at hsplit hlength
  subst hsplit
  obtain ⟨hlegal, hold, hnew, hreplaced, hinserted⟩ := h
  rw [List.flatMap_append, List.flatMap_cons] at hreplaced hinserted
  refine ⟨before, after, hlength, ?_, ?_, fun change hchange => hlegal change ?_, ?_, ?_⟩
  · rw [← hold, List.map_append, List.map_cons]
    rfl
  · have hlength' : (before.map Change.new).length = s := by rw [List.length_map, hlength]
    rw [← hnew, List.map_append, List.map_append, List.eraseIdx_append_of_length_le (Nat.le_of_eq hlength'), hlength',
      Nat.sub_self, List.map_cons, List.eraseIdx_cons_zero]
  · rw [List.mem_append] at hchange ⊢
    exact hchange.imp_right (List.mem_cons_of_mem _)
  · rw [List.flatMap_append]
    exact hreplaced
  · rw [List.flatMap_append]
    exact hinserted

/-- the changes of the template edit; the other properties are kept -/
theorem follows_template (moved : Option Node) (keepUrl : Bool) (props : List Property) :
    ∃ changes, Follows moved props (templateEdit keepUrl props).result (templateEdit keepUrl props).patches [] changes ∧
      ∀ name ≠ templateUrl, ∀ (i : Nat) (prop : Property), indexOf? props name = some i → props[i]? = some prop →
        changes[i]? = some (Change.keep prop) := by
  have hedit := template_outcome keepUrl props
  generalize (templateEdit keepUrl props).result = result, (templateEdit keepUrl props).patches = patches at hedit ⊢
  have hkept : ∀ (i : Nat) (prop : Property), props[i]? = some prop →
      (props.map Change.keep)[i]? = some (Change.keep prop) := by
    intro i prop hprop
    rw [List.getElem?_map, hprop]
    rfl
  cases hedit with
  | untouched => exact ⟨_, follows_keep moved props, fun _ _ i prop _ hprop => hkept i prop hprop⟩
  | @inlined t key span value raw ht hprop =>
    have hset := (follows_keep moved props).set (.ofTemplate (!keepUrl) key span value raw) (hkept t _ hprop)
      (.template ..)
    refine ⟨_, hset, fun name hname i prop hi hat => ?_⟩
    rw [List.getElem?_set_ne (indexOf?_ne hname hi ht).symm]
    exact hkept i prop hat

/-- the changes of the list edit after it -/
theorem follows_list (keepUrl : Bool) {props : List Property} {u : Nat} {key : Key} {span : Span} {sheets : List Sheet}
    (hu : indexOf? props styleUrls = some u)
    (hlist : props[u]? = some (.keyValue key (.array span (sheets.map Sheet.literal)))) (rename : Bool)
    (moved : Option Node) :
    ∃ changes, Follows moved props
        ((templateEdit keepUrl props).result.set u (.keyValue (keyEdit rename styles key).1
          (.array span (sheets.map Sheet.reference ++ movedItems moved))))
        ((templateEdit keepUrl props).patches ++ (sheets.map Sheet.patch ++ (keyEdit rename styles key).2))
        (movedPatches span (sheets.map Sheet.literal) moved) changes ∧
      ∀ (s : Nat) (gone : Property), indexOf? props styles = some s → props[s]? = some gone →
        changes[s]? = some (Change.keep gone) := by
  obtain ⟨changes, hfollows, hkept⟩ := follows_template moved keepUrl props
  have hset := hfollows.set (.ofList rename key span sheets moved) (hkept _ (by decide) u _ hu hlist) (.list ..)
  refine ⟨_, hset, fun s gone hs hgone => ?_⟩
  rw [List.getElem?_set_ne (indexOf?_ne (by decide) hu hs)]
  exact hkept _ (by decide) s gone hs hgone

/-! ## The plan of an edit -/

/-- an edit of properties as a list of changes -/
inductive Plan (props : List Property) : List Property → List Patch → Prop where
  /-- every property is changed in its place -/
  | whole {changes : List Change} {patches : List Patch} (legal : ∀ change ∈ changes, change.Legal none)
    (hold : changes.map Change.old = props) (hpatches : patches.Perm (changes.flatMap Change.replaced)) :
    Plan props (changes.map Change.new) patches
  /-- one property is taken out, and its value moves to the others -/
  | less {before after : List Change} {gone : Property} {value : Node} {inserted patches : List Patch}
    (hname : gone.name? = some styles) (hvalue : value? gone = some value) (hothers : before ++ after ≠ [])
    (legal : ∀ change ∈ before ++ after, change.Legal (some value))
    (hold : before.map Change.old ++ gone :: after.map Change.old = props)
    (hinserted : inserted.Perm ((before ++ after).flatMap Change.inserted)) (hsingle : inserted.length ≤ 1)
    (hpatches : patches.Perm ((before ++ after).flatMap Change.replaced ++ inserted ++
      [takeOut ((before.map Change.old).getLast?.map Property.span) gone.span
        ((after.map Change.old).head?.map Property.span)])) :
    Plan props ((before ++ after).map Change.new) patches

theorem inserted_of_legal_none {changes : List Change} (h : ∀ change ∈ changes, change.Legal none) :
    changes.flatMap Change.inserted = [] := by
  rw [List.flatMap_eq_nil_iff]
  intro change hchange
  cases h change hchange <;> rfl

theorem insertion_length_le (span : Span) (items : List Item) (value : Node) :
    (insertion span items value).length ≤ 1 := by
  rw [insertion]
  split <;> simp

/-- **Main result.** Every edit has a plan. -/
theorem plan (keepUrl : Bool) (props : List Property) :
    Plan props (inlineMetadata keepUrl props).result (inlineMetadata keepUrl props).patches := by
  have hedit := outcome keepUrl props
  generalize (inlineMetadata keepUrl props).result = result, (inlineMetadata keepUrl props).patches = patches at hedit ⊢
  cases hedit with
  | untouched =>
    obtain ⟨changes, hfollows, -⟩ := follows_template none keepUrl props
    rw [← hfollows.new]
    exact .whole hfollows.legal hfollows.old hfollows.replaced
  | @listed u key span sheets hu hlist hstyles =>
    obtain ⟨changes, hfollows, -⟩ := follows_list keepUrl hu hlist (!keepUrl && !isBlocked props) none
    have hnew := hfollows.new
    rw [movedItems, Option.map_none, Option.getD_none, List.append_nil] at hnew
    rw [← hnew]
    exact .whole hfollows.legal hfollows.old hfollows.replaced
  | @folded u s key span sheets gone value hu hlist hs hgone hvalue =>
    obtain ⟨changes, hfollows, hkept⟩ := follows_list keepUrl hu hlist (!keepUrl) (some value)
    obtain ⟨before, after, hlength, hold, hnew, hlegal, hreplaced, hinserted⟩ := hfollows.cut (hkept s gone hs hgone)
    have hremoval : removal props s gone = takeOut ((before.map Change.old).getLast?.map Property.span) gone.span
        ((after.map Change.old).head?.map Property.span) := by
      rw [← removal_between, hold, List.length_map, hlength]
    have hothers : before ++ after ≠ [] := by
      intro hnil
      obtain ⟨rfl, rfl⟩ := List.append_eq_nil_iff.1 hnil
      have hu' := (List.getElem?_eq_some_iff.1 hlist).1
      have hne := indexOf?_ne (by decide) hu hs
      rw [← hold] at hu'
      rw [List.length_nil] at hlength
      simp at hu'
      omega
    rw [movedItems, Option.map_some, Option.getD_some] at hnew
    rw [← hnew, hremoval, ← List.append_assoc]
    exact .less (first_of_indexOf? hs hgone).1 hvalue hothers hlegal hold hinserted
      (insertion_length_le span (sheets.map Sheet.literal) value) ((hreplaced.append_right _).append_right _)

end ResourceInliner.Metadata
