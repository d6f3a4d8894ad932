/-
The same object edited once with its key names kept and once with new ones. The two edits make the same values, merge the
same entries and take the same property out; the second one gives two keys at most another name besides.

- `KeyRenamed`: one key has another name, and one patch says so. `KeyRenamed.set`, `KeyRenamed.eraseIdx`: this still holds
  after both objects are edited elsewhere.
- `TemplateInlined`, `SheetsInlined`: what inlining makes of a value. `FirstBecomes`: it made this of the first value of a
  name.
- `OnlyKeysRenamed`: how the two edits may differ. `onlyKeysRenamed`: they do not differ in any other way.
-/
import ResourceInliner.Proofs.Metadata.SingleStyles
import ResourceInliner.Proofs.Metadata.Specified

namespace ResourceInliner.Metadata

/-! ## Renamed keys -/

/-- if the condition holds, the key of the first property of a name is renamed and a patch does the same in the text;
otherwise nothing is different -/
inductive KeyRenamed (name new : String) (happens : Prop) : List Property → List Property → List Patch → Prop where
  | kept (h : ¬ happens) (props : List Property) : KeyRenamed name new happens props props []
  | renamed (h : happens) {before after : List Property} {span : Span} {value : Node}
    (hbefore : ∀ prop ∈ before, prop.name? ≠ some name) :
    KeyRenamed name new happens (before ++ .keyValue (.name span name) value :: after)
      (before ++ .keyValue (.name span new) value :: after) [.replace span new]

section

variable {name new : String} {happens : Prop} {props other : List Property} {patches : List Patch}

theorem KeyRenamed.congr {happens' : Prop} (h : KeyRenamed name new happens props other patches)
    (hiff : happens ↔ happens') : KeyRenamed name new happens' props other patches := by
  rwa [propext hiff] at h

/-- two values for the first property of a name, whose key is renamed in one of them -/
theorem keyRenamed_keyEdit {i : Nat} (hi : indexOf? props name = some i) (rename : Bool) (span : Span) (value : Node) :
    KeyRenamed name new (rename = true) (props.set i (.keyValue (.name span name) value))
      (props.set i (.keyValue (keyEdit rename new (.name span name)).1 value)) (keyEdit rename new (.name span name)).2 := by
  cases rename with
  | false => exact .kept Bool.false_ne_true _
  | true =>
    obtain ⟨before, prop, after, rfl, rfl, -, hbefore⟩ := indexOf?_eq_some hi
    rw [List.set_append_right _ _ (Nat.le_refl _), List.set_append_right _ _ (Nat.le_refl _), Nat.sub_self,
      List.set_cons_zero, List.set_cons_zero]
    exact .renamed rfl fun other hother => by simpa using List.filter_eq_nil_iff.1 hbefore other hother

/-- the same property in both objects is changed to the same other one -/
theorem KeyRenamed.set (h : KeyRenamed name new happens props other patches) {i : Nat} {prop : Property}
    (hold : ∀ old, props[i]? = some old → old.name? ≠ some name) (hprop : prop.name? ≠ some name) :
    KeyRenamed name new happens (props.set i prop) (other.set i prop) patches := by
  cases h with
  | kept h => exact .kept h _
  | @renamed h before after span value hbefore =>
    rcases Nat.lt_trichotomy i before.length with hlt | rfl | hgt
    · rw [List.set_append_left _ _ hlt, List.set_append_left _ _ hlt]
      refine .renamed h fun p hp => ?_
      rcases List.mem_or_eq_of_mem_set hp with hmem | rfl
      · exact hbefore p hmem
      · exact hprop
    · exact absurd rfl (hold (.keyValue (.name span name) value) (by simp))
    · obtain ⟨k, rfl⟩ : ∃ k, i = before.length + (k + 1) := ⟨i - before.length - 1, by omega⟩
      rw [List.set_append_right _ _ (Nat.le_add_right _ _), List.set_append_right _ _ (Nat.le_add_right _ _),
        Nat.add_sub_cancel_left, List.set_cons_succ, List.set_cons_succ]
      exact .renamed h hbefore

/-- the same property is taken out of both objects -/
theorem KeyRenamed.eraseIdx (h : KeyRenamed name new happens props other patches) {i : Nat}
    (hold : ∀ old, props[i]? = some old → old.name? ≠ some name) :
    KeyRenamed name new happens (props.eraseIdx i) (other.eraseIdx i) patches := by
  cases h with
  | kept h => exact .kept h _
  | @renamed h before after span value hbefore =>
    rcases Nat.lt_trichotomy i before.length with hlt | rfl | hgt
    · rw [List.eraseIdx_append_of_lt_length hlt, List.eraseIdx_append_of_lt_length hlt]
      exact .renamed h fun p hp => hbefore p (List.mem_of_mem_eraseIdx hp)
    · exact absurd rfl (hold (.keyValue (.name span name) value) (by simp))
    · obtain ⟨k, rfl⟩ : ∃ k, i = before.length + (k + 1) := ⟨i - before.length - 1, by omega⟩
      rw [List.eraseIdx_append_of_length_le (Nat.le_add_right _ _), List.eraseIdx_append_of_length_le (Nat.le_add_right _ _),
        Nat.add_sub_cancel_left, List.eraseIdx_cons_succ, List.eraseIdx_cons_succ]
      exact .renamed h hbefore

end

/-! ## The two edits -/

/-- the edits of the template -/
theorem templateEdit_renamed (props : List Property) :
    ∃ patches, KeyRenamed templateUrl template (templateReady props = true) (templateEdit true props).result
        (templateEdit false props).result patches ∧
      (templateEdit false props).patches = (templateEdit true props).patches ++ patches := by
  cases hready : templateReady props with
  | false =>
    refine ⟨[], ?_, ?_⟩
    · rw [templateEdit_of_not_ready true hready, templateEdit_of_not_ready false hready]
      exact .kept Bool.false_ne_true props
    · rw [(templateEdit_patches_eq_nil_iff true props).2 hready, (templateEdit_patches_eq_nil_iff false props).2 hready]
      rfl
  | true =>
    obtain ⟨prop, hfirst, hstring⟩ := (Option.any_eq_true _ _).1 hready
    obtain ⟨key, span, value, raw, rfl⟩ := isTemplate_iff.1 hstring
    obtain ⟨t, ht, hprop⟩ := exists_indexOf?_of_head? hfirst
    obtain ⟨at_, rfl⟩ := key_of_indexOf? ht hprop
    rw [templateEdit_string true ht hprop, templateEdit_string false ht hprop]
    exact ⟨_, keyRenamed_keyEdit ht true at_ (requireNode value span), rfl⟩

/-- the patches of the second edit, with those for keys in their places -/
theorem patches_renamed (first sheets merged templateKey listKey : List Patch) :
    (first ++ (sheets ++ []) ++ merged).Sublist (first ++ templateKey ++ (sheets ++ listKey) ++ merged) ∧
      (first ++ templateKey ++ (sheets ++ listKey) ++ merged).Perm
        (first ++ (sheets ++ []) ++ merged ++ (templateKey ++ listKey)) := by
  constructor
  · refine List.Sublist.append (List.Sublist.append ?_ ?_) (List.Sublist.refl merged)
    · exact List.sublist_append_left first templateKey
    · exact (List.Sublist.refl sheets).append (List.nil_sublist listKey)
  · classical
    rw [List.perm_iff_count]
    intro patch
    simp only [List.count_append, List.count_nil]
    omega

/-- lists of style sheets that the two edits put in, and what came before them -/
theorem listEdit_renamed {props : List Property} {u : Nat} {key : Key} {span : Span} {sheets : List Sheet}
    {templateKey : List Patch} (hu : indexOf? props styleUrls = some u)
    (hlist : props[u]? = some (.keyValue key (.array span (sheets.map Sheet.literal)))) {happens : Prop}
    (htemplate : KeyRenamed templateUrl template happens (templateEdit true props).result
      (templateEdit false props).result templateKey) (rename : Bool) (value : Node) :
    KeyRenamed templateUrl template happens ((templateEdit true props).result.set u (.keyValue key value))
        ((templateEdit false props).result.set u (.keyValue key value)) templateKey ∧
      KeyRenamed styleUrls styles (rename = true) ((templateEdit false props).result.set u (.keyValue key value))
        ((templateEdit false props).result.set u (.keyValue (keyEdit rename styles key).1 value))
        (keyEdit rename styles key).2 := by
  obtain ⟨at_, rfl⟩ := key_of_indexOf? hu hlist
  have hnow : ∀ keepUrl, indexOf? (templateEdit keepUrl props).result styleUrls = some u := by
    intro keepUrl
    rw [indexOf?_templateEdit keepUrl (by decide) (by decide), hu]
  constructor
  · refine htemplate.set (name?_ne_of_indexOf? (hnow true) (by decide)) ?_
    simp [Property.name?, styleUrls, templateUrl]
  · exact keyRenamed_keyEdit (hnow false) rename at_ value

/-- the two edits side by side: what comes of the template and of the list of style sheets, and the patches for it -/
theorem keys_renamed (props : List Property) :
    ∃ between templateKey listKey,
      KeyRenamed templateUrl template (templateReady props = true) (inlineMetadata true props).result between
        templateKey ∧
      KeyRenamed styleUrls styles (listsSheets props = true ∧ isBlocked props = false) between
        (inlineMetadata false props).result listKey ∧
      (inlineMetadata true props).patches.Sublist (inlineMetadata false props).patches ∧
      (inlineMetadata false props).patches.Perm
        ((inlineMetadata true props).patches ++ (templateKey ++ listKey)) := by
  obtain ⟨templateKey, htemplate, htemplatePatches⟩ := templateEdit_renamed props
  have hedit := outcome true props
  generalize (inlineMetadata true props).result = result, (inlineMetadata true props).patches = patches at hedit ⊢
  cases hedit with
  | untouched h =>
    have hnone : ¬ (listsSheets props = true ∧ isBlocked props = false) := by
      rw [listsSheets_eq_false h]
      exact fun hsheets => Bool.false_ne_true hsheets.1
    obtain ⟨hresult, hpatches⟩ := inlineMetadata_untouched false h
    rw [hresult, hpatches, htemplatePatches]
    refine ⟨_, _, _, htemplate, .kept hnone _, List.sublist_append_left _ _, ?_⟩
    rw [List.append_nil]
  | @listed u key span sheets hu hlist hstyles =>
    obtain ⟨hresult, hpatches⟩ := inlineMetadata_listed false hu hlist hstyles
    obtain ⟨hbefore, hnow⟩ := listEdit_renamed hu hlist htemplate (!isBlocked props)
      (.array span (sheets.map Sheet.reference))
    rw [hresult, hpatches, htemplatePatches]
    have hhappens : (!isBlocked props) = true ↔ listsSheets props = true ∧ isBlocked props = false := by
      rw [listsSheets_of_list hu hlist, Bool.not_eq_true']
      exact (and_iff_right rfl).symm
    have hall := patches_renamed (templateEdit true props).patches (sheets.map Sheet.patch) [] templateKey
      (keyEdit (!isBlocked props) styles key).2
    rw [List.append_nil (_ ++ (_ ++ [])), List.append_nil (_ ++ (_ ++ (keyEdit _ _ _).2))] at hall
    exact ⟨_, _, _, hbefore, hnow.congr hhappens, hall⟩
  | @folded u s key span sheets gone value hu hlist hs hgone hvalue =>
    obtain ⟨hresult, hpatches⟩ := inlineMetadata_folded false hu hlist hs hgone hvalue
    obtain ⟨hbefore, hnow⟩ := listEdit_renamed hu hlist htemplate true
      (.array span (sheets.map Sheet.reference ++ mergedItems value))
    rw [hresult, hpatches, htemplatePatches]
    have hhappens : true = true ↔ listsSheets props = true ∧ isBlocked props = false :=
      iff_of_true rfl ⟨listsSheets_of_list hu hlist, isBlocked_of_value hs hgone hvalue⟩
    -- in both edits, the property that is taken out is the first `styles` of the object
    have hgoneNow : ∀ keepUrl list old, ((templateEdit keepUrl props).result.set u list)[s]? = some old →
        old.name? = some styles := by
      intro keepUrl list old hold
      rw [getElem?_set_templateEdit hu hs, hgone, Option.some.injEq] at hold
      rw [← hold]
      exact (first_of_indexOf? hs hgone).1
    refine ⟨_, _, _, hbefore.eraseIdx fun old hold => ?_, (hnow.eraseIdx fun old hold => ?_).congr hhappens,
      patches_renamed _ _ _ _ _⟩
    · rw [hgoneNow _ _ _ hold]
      decide
    · rw [hgoneNow _ _ _ hold]
      decide

/-! ## Inlined values -/

/-- what inlining makes of a template -/
inductive TemplateInlined : Node → Node → Prop where
  | intro (span : Span) (value raw : String) : TemplateInlined (.string span value raw) (required span value)

/-- what inlining makes of a list of style sheets; other entries may come behind them -/
inductive SheetsInlined : Node → Node → Prop where
  | intro {span : Span} {items references : List Item} (plain : List.Forall₂ Referenced items references)
    (moved : List Item) : SheetsInlined (.array span items) (.array span (references ++ moved))

/-- the first property of a name had a value, and has another one now that was made from it -/
def FirstBecomes (made : Node → Node → Prop) (name : String) (props result : List Property) : Prop :=
  ∃ key value new, (named name props).head? = some (.keyValue key value) ∧
    (named name result).head? = some (.keyValue key new) ∧ made value new

/-- the template is inlined exactly if it is a string literal -/
theorem templateInlined_iff (props : List Property) :
    FirstBecomes TemplateInlined templateUrl props (inlineMetadata true props).result ↔ templateReady props = true := by
  rw [FirstBecomes, named_templateUrl_result, templateReady, Option.any_eq_true]
  constructor
  · rintro ⟨key, value, new, hfirst, -, ⟨⟩⟩
    exact ⟨_, hfirst, rfl⟩
  · rintro ⟨prop, hfirst, hstring⟩
    obtain ⟨key, span, value, raw, rfl⟩ := isTemplate_iff.1 hstring
    obtain ⟨t, ht, hprop⟩ := exists_indexOf?_of_head? hfirst
    obtain ⟨at_, rfl⟩ := key_of_indexOf? ht hprop
    refine ⟨_, _, _, hfirst, ?_, .intro span value raw⟩
    rw [templateEdit_string true ht hprop, named_set_of_first ht]
    rfl

theorem sheetsInlined_of_list {props : List Property} {u : Nat} {key : Key} {span : Span} {sheets : List Sheet}
    {result : List Property} (hu : indexOf? props styleUrls = some u)
    (hlist : props[u]? = some (.keyValue key (.array span (sheets.map Sheet.literal)))) (moved : List Item)
    (hresult : named styleUrls result = named styleUrls
      ((templateEdit true props).result.set u (.keyValue key (.array span (sheets.map Sheet.reference ++ moved))))) :
    FirstBecomes SheetsInlined styleUrls props result := by
  obtain ⟨at_, rfl⟩ := key_of_indexOf? hu hlist
  refine ⟨_, _, _, (first_of_indexOf? hu hlist).2, ?_, .intro (forall₂_referenced.2 ⟨sheets, rfl, rfl⟩) moved⟩
  rw [← indexOf?_templateEdit true (by decide) (by decide) props] at hu
  rw [hresult, named_set_of_first hu]
  rfl

/-- the style sheets are inlined exactly if they are a list of string literals -/
theorem sheetsInlined_iff (props : List Property) :
    FirstBecomes SheetsInlined styleUrls props (inlineMetadata true props).result ↔ listsSheets props = true := by
  constructor
  · rintro ⟨key, value, new, hfirst, -, ⟨plain, moved⟩⟩
    obtain ⟨sheets, rfl, -⟩ := forall₂_referenced.1 plain
    rw [listsSheets, hfirst, Option.any_some, isInlinable_iff.2 ⟨_, _, _, rfl⟩]
  · intro hsheets
    have hedit := outcome true props
    generalize (inlineMetadata true props).result = result, (inlineMetadata true props).patches = patches at hedit ⊢
    cases hedit with
    | untouched h =>
      rw [listsSheets_eq_false h] at hsheets
      cases hsheets
    | listed hu hlist hstyles =>
      refine sheetsInlined_of_list hu hlist [] ?_
      rw [List.append_nil]
      rfl
    | folded hu hlist hs hgone hvalue =>
      refine sheetsInlined_of_list hu hlist _ (named_eraseIdx_of_ne fun old hold => ?_)
      rw [getElem?_set_templateEdit hu hs] at hold
      exact name?_ne_of_indexOf? hs (by decide) old hold

/-! ## Everything else -/

theorem notes_inlineTemplate (keepUrl : Bool) (prop : Property) :
    (inlineTemplate keepUrl prop).notes = (inlineTemplate true prop).notes := by
  unfold inlineTemplate
  split <;> rfl

theorem notes_inlineStyles (rename : Bool) (prop : Property) :
    (inlineStyles rename prop).notes = (inlineStyles false prop).notes := by
  unfold inlineStyles
  split
  · split <;> rfl
  · rfl
  · rfl

/-- both edits skip the same properties for the same reasons -/
theorem notes_inlineMetadata (keepUrl : Bool) (props : List Property) :
    (inlineMetadata keepUrl props).notes = (inlineMetadata true props).notes := by
  have htemplate : (templateEdit keepUrl props).notes = (templateEdit true props).notes := by
    rw [templateEdit, templateEdit]
    cases ht : indexOf? props templateUrl with
    | none => rfl
    | some t =>
      obtain ⟨prop, hprop, -, -⟩ := getElem?_of_indexOf? ht
      rw [editAt_of_some hprop, editAt_of_some hprop]
      exact notes_inlineTemplate keepUrl prop
  cases hu : indexOf? props styleUrls with
  | none =>
    simp only [inlineMetadata, inlineMetadataWith, hu]
    exact htemplate
  | some u =>
    obtain ⟨prop, hprop, -, -⟩ := getElem?_of_indexOf? hu
    have hlist : ∀ keep rename, (editAt (templateEdit keep props).result (some u) (inlineStyles rename)).notes =
        (inlineStyles false prop).notes := by
      intro keep rename
      have hnow : (templateEdit keep props).result[u]? = some prop := by rw [templateEdit_getElem? hu (by decide), hprop]
      rw [editAt_of_some hnow]
      exact notes_inlineStyles rename prop
    simp only [inlineMetadata, inlineMetadataWith, hu]
    exact congrArg₂ _ (congrArg (· ++ _) htemplate) ((hlist keepUrl _).trans (hlist true _).symm)

/-- a property without the name of its key -/
def unnamed : Property → Property
  | .keyValue (.name span _) value => .keyValue (.name span "") value
  | prop => prop

theorem value?_unnamed (prop : Property) : value? (unnamed prop) = value? prop := by
  cases prop with
  | keyValue key value => cases key <;> rfl
  | _ => rfl

theorem KeyRenamed.map_unnamed {name new : String} {happens : Prop} {props other : List Property} {patches : List Patch}
    (h : KeyRenamed name new happens props other patches) : other.map unnamed = props.map unnamed := by
  cases h with
  | kept => rfl
  | renamed =>
    rw [List.map_append, List.map_append]
    rfl

/-- more has become of the values of an object than that some are gone -/
def RewritesValues (props result : List Property) : Prop :=
  ¬ (result.map value?).Sublist (props.map value?)

/-- a property is gone; by `length_lt_iff`, the one whose entries have moved to the list of style sheets -/
def MergesLists (props result : List Property) : Prop :=
  result.length < props.length

/-- how the edit with new key names may differ from the one that keeps them: in the key of the first `templateUrl` if its
value is inlined, in that of the first `styleUrls` if its list is inlined and no method or accessor has the new name, and
in a patch for each of the two -/
structure OnlyKeysRenamed (props : List Property) (kept renamed : Edit (List Property)) : Prop where
  keys : ∃ between templateKey listKey,
    KeyRenamed templateUrl template (FirstBecomes TemplateInlined templateUrl props kept.result) kept.result between
      templateKey ∧
    KeyRenamed styleUrls styles
      (FirstBecomes SheetsInlined styleUrls props kept.result ∧ (firstStyles? props).any isMethod = false) between
      renamed.result listKey ∧
    renamed.patches.Perm (kept.patches ++ (templateKey ++ listKey))
  patches : kept.patches.Sublist renamed.patches
  notes : renamed.notes = kept.notes

/-- **Main result of the module.** They do not differ in any other way. -/
theorem onlyKeysRenamed (props : List Property) :
    OnlyKeysRenamed props (inlineMetadata true props) (inlineMetadata false props) := by
  obtain ⟨between, templateKey, listKey, htemplate, hlist, hpatches, hall⟩ := keys_renamed props
  refine ⟨⟨between, templateKey, listKey, htemplate.congr (templateInlined_iff props).symm, hlist.congr ?_, hall⟩,
    hpatches, notes_inlineMetadata false props⟩
  rw [sheetsInlined_iff, isBlocked_eq]

section

variable {props : List Property} {kept renamed : Edit (List Property)}

theorem OnlyKeysRenamed.map_unnamed (h : OnlyKeysRenamed props kept renamed) :
    renamed.result.map unnamed = kept.result.map unnamed := by
  obtain ⟨between, templateKey, listKey, htemplate, hlist, -⟩ := h.keys
  rw [hlist.map_unnamed, htemplate.map_unnamed]

theorem OnlyKeysRenamed.rewritesValues_iff (h : OnlyKeysRenamed props kept renamed) :
    RewritesValues props renamed.result ↔ RewritesValues props kept.result := by
  have hvalues : ∀ list : List Property, list.map value? = (list.map unnamed).map value? := by
    intro list
    rw [List.map_map]
    exact List.map_congr_left fun prop _ => (value?_unnamed prop).symm
  rw [RewritesValues, RewritesValues, hvalues renamed.result, hvalues kept.result, h.map_unnamed]

theorem OnlyKeysRenamed.mergesLists_iff (h : OnlyKeysRenamed props kept renamed) :
    MergesLists props renamed.result ↔ MergesLists props kept.result := by
  have hlength := congrArg List.length h.map_unnamed
  rw [List.length_map, List.length_map] at hlength
  rw [MergesLists, MergesLists, hlength]

end

end ResourceInliner.Metadata
