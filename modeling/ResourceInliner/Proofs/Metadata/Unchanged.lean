/-
The objects that an edit leaves as they are. An edit makes a patch for everything it changes in an object, and changes
something for every patch: the two ways to ask whether there was anything to do have the same answer.

- `templateEdit_unchanged_iff`: the edit of the template.
- `listEdit_unchanged_iff`: the list of style sheets, in its place.
- `unchanged_iff`: the edit of the whole object.
-/
import ResourceInliner.Proofs.Metadata.Outcome

namespace ResourceInliner.Metadata

/-- putting an element in the place of another one leaves a list as another list has it only if it is that element -/
theorem set_eq_iff {α : Type} {l other : List α} {i : Nat} {old new : α} (hl : l[i]? = some old)
    (hother : other[i]? = some old) : l.set i new = other ↔ l = other ∧ new = old := by
  constructor
  · intro h
    have hnew : other[i]? = some new := by
      rw [← h]
      exact List.getElem?_set_self (List.getElem?_eq_some_iff.1 hl).1
    have hsame : new = old := Option.some.inj (hnew.symm.trans hother)
    rw [hsame, set_eq_self hl] at h
    exact ⟨h, hsame⟩
  · rintro ⟨rfl, rfl⟩
    exact set_eq_self hl

/-- a key that gets another name gets a patch -/
theorem keyEdit_unchanged_iff (rename : Bool) {old new : String} (hne : new ≠ old) (span : Span) :
    (keyEdit rename new (.name span old)).2 = [] ↔ (keyEdit rename new (.name span old)).1 = .name span old := by
  cases rename with
  | false => exact iff_of_true rfl rfl
  | true =>
    refine iff_of_false (List.cons_ne_nil _ _) fun hkey => hne ?_
    cases hkey
    rfl

/-- the template is left alone exactly if there is no patch for it -/
theorem templateEdit_unchanged_iff (keepUrl : Bool) (props : List Property) :
    (templateEdit keepUrl props).patches = [] ↔ (templateEdit keepUrl props).result = props := by
  have hedit := template_outcome keepUrl props
  generalize (templateEdit keepUrl props).result = result, (templateEdit keepUrl props).patches = patches at hedit ⊢
  cases hedit with
  | untouched => exact iff_of_true rfl rfl
  | inlined ht hprop =>
    -- a string literal is no call
    refine iff_of_false (List.cons_ne_nil _ _) fun hresult => ?_
    have hvalue := (Property.keyValue.inj ((set_eq_iff hprop hprop).1 hresult).2).2
    cases hvalue

theorem sheets_unchanged_iff (sheets : List Sheet) :
    sheets.map Sheet.patch = [] ↔ sheets.map Sheet.reference = sheets.map Sheet.literal := by
  cases sheets with
  | nil => exact iff_of_true rfl rfl
  | cons sheet sheets =>
    refine iff_of_false (List.cons_ne_nil _ _) fun hitems => ?_
    cases (List.cons.inj hitems).1

/-- a list of style sheets is left alone exactly if there is no patch for it: if it is empty and keeps its name -/
theorem listEdit_unchanged_iff (rename : Bool) (keySpan span : Span) (sheets : List Sheet) :
    sheets.map Sheet.patch ++ (keyEdit rename styles (.name keySpan styleUrls)).2 = [] ↔
      Property.keyValue (keyEdit rename styles (.name keySpan styleUrls)).1 (.array span (sheets.map Sheet.reference)) =
        .keyValue (.name keySpan styleUrls) (.array span (sheets.map Sheet.literal)) := by
  rw [List.append_eq_nil_iff, sheets_unchanged_iff, keyEdit_unchanged_iff rename (by decide), Property.keyValue.injEq,
    Node.array.injEq, and_comm]
  simp only [true_and]

/-- an object is left alone exactly if there is no patch for it -/
theorem unchanged_iff (keepUrl : Bool) (props : List Property) :
    (inlineMetadata keepUrl props).patches = [] ↔ (inlineMetadata keepUrl props).result = props := by
  have hedit := outcome keepUrl props
  generalize (inlineMetadata keepUrl props).result = result, (inlineMetadata keepUrl props).patches = patches
    at hedit ⊢
  cases hedit with
  | untouched => exact templateEdit_unchanged_iff keepUrl props
  | @listed u key span sheets hu hlist hstyles =>
    obtain ⟨at_, rfl⟩ := key_of_indexOf? hu hlist
    have hlistNow : (templateEdit keepUrl props).result[u]? = _ :=
      (templateEdit_getElem? hu (by decide) keepUrl).trans hlist
    rw [List.append_eq_nil_iff, set_eq_iff hlistNow hlist, templateEdit_unchanged_iff, listEdit_unchanged_iff]
  | @folded u s key span sheets gone value hu hlist hs hgone hvalue =>
    -- a property is taken out, so the object is shorter
    refine iff_of_false (by simp) fun hresult => ?_
    have hs' : s < props.length := (List.getElem?_eq_some_iff.1 hgone).1
    have hlength := congrArg List.length hresult
    rw [List.length_eraseIdx_of_lt (by rwa [List.length_set, length_templateEdit]), List.length_set,
      length_templateEdit] at hlength
    omega

end ResourceInliner.Metadata
