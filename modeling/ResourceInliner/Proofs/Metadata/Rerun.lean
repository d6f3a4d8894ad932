/-
A second edit of one metadata object, with renamed keys. The first edit renames or leaves the first property of a name,
so the second one meets what stood behind it.

- `patches_eq_nil_iff`: the objects that an edit leaves alone.
- `templateReady_result`, `sheetsReady_result`: what a second edit finds, in terms of the object before the first.
-/
import ResourceInliner.Proofs.Metadata.Unchanged

namespace ResourceInliner.Metadata

/-! ## What an edit finds to do -/

/-- is there a template to inline? -/
def templateReady (props : List Property) : Bool :=
  (named templateUrl props).head?.any isTemplate

/-- is the list of style sheets empty? -/
def isEmptyList : Property → Bool
  | .keyValue _ (.array _ []) => true
  | _ => false

/-- are there style sheets to inline, or a list of them to rename? -/
def sheetsReady (props : List Property) : Bool :=
  (named styleUrls props).head?.any fun prop => isInlinable prop && !(isBlocked props && isEmptyList prop)

theorem isEmptyList_literals (key : Key) (span : Span) (sheets : List Sheet) :
    isEmptyList (.keyValue key (.array span (sheets.map Sheet.literal))) = sheets.isEmpty := by
  cases sheets <;> rfl

theorem templateReady_of_first {props : List Property} {t : Nat} {key : Key} {span : Span} {value raw : String}
    (ht : indexOf? props templateUrl = some t) (hprop : props[t]? = some (.keyValue key (.string span value raw))) :
    templateReady props = true := by
  rw [templateReady, (first_of_indexOf? ht hprop).2]
  rfl

theorem templateEdit_patches_eq_nil_iff (keepUrl : Bool) (props : List Property) :
    (templateEdit keepUrl props).patches = [] ↔ templateReady props = false := by
  have hedit := template_outcome keepUrl props
  generalize (templateEdit keepUrl props).result = result, (templateEdit keepUrl props).patches = patches at hedit ⊢
  cases hedit with
  | untouched h =>
    refine iff_of_true rfl ?_
    rw [templateReady, Option.any_eq_false]
    exact fun prop hprop => by rw [h prop hprop]
  | inlined ht hprop =>
    rw [templateReady_of_first ht hprop]
    simp

theorem templateEdit_of_not_ready (keepUrl : Bool) {props : List Property} (h : templateReady props = false) :
    (templateEdit keepUrl props).result = props :=
  (templateEdit_unchanged_iff keepUrl props).1 ((templateEdit_patches_eq_nil_iff keepUrl props).2 h)

theorem sheetsReady_of_first {props : List Property} {u : Nat} {key : Key} {span : Span} {sheets : List Sheet}
    (hu : indexOf? props styleUrls = some u)
    (hlist : props[u]? = some (.keyValue key (.array span (sheets.map Sheet.literal)))) :
    (∃ at_, key = .name at_ styleUrls) ∧ sheetsReady props = !(isBlocked props && sheets.isEmpty) := by
  refine ⟨key_of_indexOf? hu hlist, ?_⟩
  rw [sheetsReady, (first_of_indexOf? hu hlist).2, Option.any_some, isInlinable_iff.2 ⟨_, _, _, rfl⟩,
    isEmptyList_literals, Bool.true_and]

/-- the objects that an edit with renamed keys leaves alone -/
theorem patches_eq_nil_iff (props : List Property) :
    (inlineMetadata false props).patches = [] ↔ templateReady props = false ∧ sheetsReady props = false := by
  have hedit := outcome false props
  generalize (inlineMetadata false props).result = result, (inlineMetadata false props).patches = patches at hedit ⊢
  cases hedit with
  | untouched h =>
    have hsheets : sheetsReady props = false := by
      rw [sheetsReady, Option.any_eq_false]
      exact fun prop hprop => by rw [h prop hprop, Bool.false_and]
    rw [templateEdit_patches_eq_nil_iff, hsheets]
    simp
  | @listed u key span sheets hu hlist hstyles =>
    obtain ⟨⟨at_, rfl⟩, hready⟩ := sheetsReady_of_first hu hlist
    rw [hready, List.append_eq_nil_iff, templateEdit_patches_eq_nil_iff]
    cases hblocked : isBlocked props with
    | true => cases sheets <;> simp [keyEdit]
    | false => simp [keyEdit, renameKey]
  | @folded u s key span sheets gone value hu hlist hs hgone hvalue =>
    obtain ⟨⟨at_, rfl⟩, hready⟩ := sheetsReady_of_first hu hlist
    simp [hready, isBlocked_of_value hs hgone hvalue]

/-! ## What is left after an edit -/

section Names

variable {name : String} {props : List Property} {i : Nat} {old new : Property}

theorem named_set_of_ne (hold : ∀ prop, props[i]? = some prop → prop.name? ≠ some name) (hnew : new.name? ≠ some name) :
    named name (props.set i new) = named name props := by
  rw [List.set_eq_take_append_cons_drop]
  split
  · rename_i hi
    have hat := hold props[i] (List.getElem?_eq_getElem hi)
    conv_rhs => rw [← List.take_append_drop i props, List.drop_eq_getElem_cons hi]
    rw [named_append, named_append, named_cons_of_ne hnew, named_cons_of_ne hat]
  · rfl

theorem named_eraseIdx_of_ne (hold : ∀ prop, props[i]? = some prop → prop.name? ≠ some name) :
    named name (props.eraseIdx i) = named name props := by
  cases hi : props[i]? with
  | none => rw [List.eraseIdx_of_length_le (List.getElem?_eq_none_iff.1 hi)]
  | some old =>
    obtain ⟨hlt, rfl⟩ := List.getElem?_eq_some_iff.1 hi
    conv_rhs => rw [← List.take_append_drop i props, List.drop_eq_getElem_cons hlt]
    rw [List.eraseIdx_eq_take_drop_succ, named_append, named_append, named_cons_of_ne (hold _ hi)]

/-- putting in a property of the name -/
theorem named_set_of_eq (hi : i < props.length) (hnew : new.name? = some name) :
    named name (props.set i new) = named name (props.take i) ++ new :: named name (props.drop (i + 1)) := by
  rw [List.set_eq_take_append_cons_drop, if_pos hi, named_append, named_cons_of_eq hnew]

theorem indexOf?_set_of_ne (hold : ∀ prop, props[i]? = some prop → prop.name? ≠ some name)
    (hnew : new.name? ≠ some name) : indexOf? (props.set i new) name = indexOf? props name := by
  have hmap : (props.set i new).map (fun prop => prop.name? == some name) =
      props.map fun prop => prop.name? == some name := by
    rw [List.map_set]
    cases hi : props[i]? with
    | none => exact List.set_eq_of_length_le (by simpa using hi)
    | some prop =>
      refine set_eq_self ?_
      simp [hi, hold prop hi, hnew]
  have hindex := congrArg (List.findIdx? id) hmap
  rwa [List.findIdx?_map, List.findIdx?_map] at hindex

/-- taking the first property of a name out -/
theorem named_eraseIdx_of_first (h : indexOf? props name = some i) :
    named name (props.eraseIdx i) = (named name props).tail := by
  obtain ⟨before, prop, after, rfl, rfl, hname, hbefore⟩ := indexOf?_eq_some h
  rw [List.eraseIdx_append_of_length_le (Nat.le_refl _), Nat.sub_self, List.eraseIdx_cons_zero, named_append,
    named_append, hbefore, named_cons_of_eq hname]
  rfl

/-- putting another property in the place of the first one of a name -/
theorem named_set_of_first (h : indexOf? props name = some i) :
    named name (props.set i new) = named name [new] ++ (named name props).tail := by
  obtain ⟨before, prop, after, rfl, rfl, hname, hbefore⟩ := indexOf?_eq_some h
  rw [List.set_append_right _ _ (Nat.le_refl _), Nat.sub_self, List.set_cons_zero, named_append, named_append,
    hbefore, named_cons_of_eq hname, ← List.singleton_append, named_append]
  rfl

theorem indexOf?_lt (h : indexOf? props name = some i) : i < props.length := by
  obtain ⟨prop, hprop, -⟩ := getElem?_of_indexOf? h
  exact (List.getElem?_eq_some_iff.1 hprop).1

/-- putting in a property of the name, and taking the first one before that out -/
theorem named_eraseIdx_set {s : Nat} (hs : indexOf? props name = some s) (hi : i < props.length) (hne : s ≠ i)
    (hnew : new.name? = some name) :
    ∃ rest, named name ((props.set i new).eraseIdx s) = (named name (props.take i)).tail ++ new :: rest := by
  have htake : indexOf? (props.take i) name = if s < i then some s else none := by
    have hfound : List.findIdx? (fun prop => prop.name? == some name) props = some s := hs
    rw [indexOf?, List.findIdx?_take, hfound, Option.bind_some, Option.guard]
    simp only [decide_eq_true_eq]
  have hlength : (props.take i).length = i := by
    rw [List.length_take]
    omega
  rw [List.set_eq_take_append_cons_drop, if_pos hi]
  by_cases hlt : s < i
  · rw [if_pos hlt] at htake
    rw [List.eraseIdx_append_of_lt_length (by omega), named_append, named_eraseIdx_of_first htake,
      named_cons_of_eq hnew]
    exact ⟨_, rfl⟩
  · rw [if_neg hlt, indexOf?_eq_none] at htake
    obtain ⟨k, hk⟩ : ∃ k, s - i = k + 1 := ⟨s - i - 1, by omega⟩
    rw [List.eraseIdx_append_of_length_le (by omega), hlength, hk, List.eraseIdx_cons_succ, named_append, htake,
      named_cons_of_eq hnew]
    exact ⟨_, rfl⟩

theorem name?_ne_of_indexOf? {other : String} (h : indexOf? props other = some i) (hne : other ≠ name) :
    ∀ prop, props[i]? = some prop → prop.name? ≠ some name := by
  intro prop hprop
  rw [(first_of_indexOf? h hprop).1]
  simpa using hne

end Names

theorem templateEdit_result (keepUrl : Bool) (props : List Property) :
    (templateEdit keepUrl props).result = props ∨ ∃ t new, indexOf? props templateUrl = some t ∧
      (∀ name, name ≠ templateUrl → name ≠ template → new.name? ≠ some name) ∧
      (templateEdit keepUrl props).result = props.set t new := by
  have hedit := template_outcome keepUrl props
  generalize (templateEdit keepUrl props).result = result, (templateEdit keepUrl props).patches = patches at hedit ⊢
  cases hedit with
  | untouched => exact .inl rfl
  | inlined ht hprop =>
    obtain ⟨at_, rfl⟩ := key_of_indexOf? ht hprop
    refine .inr ⟨_, _, ht, fun name h h' => ?_, rfl⟩
    cases keepUrl
    · exact fun hname => h' (Option.some.inj hname).symm
    · exact fun hname => h (Option.some.inj hname).symm

section OtherNames

variable (keepUrl : Bool) {name : String} (h : name ≠ templateUrl) (h' : name ≠ template) (props : List Property)

include h h'

theorem named_templateEdit : named name (templateEdit keepUrl props).result = named name props := by
  rcases templateEdit_result keepUrl props with hsame | ⟨t, new, ht, hnew, hset⟩
  · rw [hsame]
  · rw [hset, named_set_of_ne (name?_ne_of_indexOf? ht h.symm) (hnew name h h')]

theorem indexOf?_templateEdit : indexOf? (templateEdit keepUrl props).result name = indexOf? props name := by
  rcases templateEdit_result keepUrl props with hsame | ⟨t, new, ht, hnew, hset⟩
  · rw [hsame]
  · rw [hset, indexOf?_set_of_ne (name?_ne_of_indexOf? ht h.symm) (hnew name h h')]

theorem named_take_templateEdit (i : Nat) :
    named name ((templateEdit keepUrl props).result.take i) = named name (props.take i) := by
  rcases templateEdit_result keepUrl props with hsame | ⟨t, new, ht, hnew, hset⟩
  · rw [hsame]
  · rw [hset, List.take_set, named_set_of_ne _ (hnew name h h')]
    intro prop hprop
    rw [List.getElem?_take] at hprop
    split at hprop
    · exact name?_ne_of_indexOf? ht h.symm prop hprop
    · cases hprop

end OtherNames

theorem named_templateUrl_templateEdit (props : List Property) :
    named templateUrl (templateEdit false props).result =
      if templateReady props then (named templateUrl props).tail else named templateUrl props := by
  cases hready : templateReady props with
  | false => rw [templateEdit_of_not_ready false hready]; rfl
  | true =>
    have hedit := template_outcome false props
    generalize (templateEdit false props).result = result, (templateEdit false props).patches = patches at hedit ⊢
    cases hedit with
    | untouched h =>
      obtain ⟨prop, hprop, hstring⟩ := (Option.any_eq_true _ _).1 hready
      rw [h prop hprop] at hstring
      cases hstring
    | inlined ht hprop =>
      obtain ⟨at_, rfl⟩ := key_of_indexOf? ht hprop
      rw [named_set_of_first ht]
      rfl

/-- is a template left for a second edit? -/
def templateBehind (props : List Property) : Bool :=
  templateReady props && (named templateUrl props)[1]?.any isTemplate

/-- the second `styles` before the first `styleUrls` -/
def stylesBehind? (props : List Property) : Option Property :=
  (named styles (props.takeWhile fun prop => prop.name? != some styleUrls))[1]?

/-- are style sheets left for a second edit? -/
def sheetsBehind (props : List Property) : Bool :=
  !isBlocked props && (named styleUrls props).head?.any isInlinable &&
    (named styleUrls props)[1]?.any fun second =>
      isInlinable second && !((stylesBehind? props).any (fun prop => (value? prop).isNone) && isEmptyList second)

/-- the name of the list after the edit -/
theorem name?_keyEdit {key : Key} {at_ : Span} (h : key = .name at_ styleUrls) (rename : Bool) (value : Node) :
    (Property.keyValue (keyEdit rename styles key).1 value).name? = some (if rename then styles else styleUrls) := by
  rw [h]
  cases rename <;> rfl

/-- the template is what the edit of it has made -/
theorem named_templateUrl_result (keepUrl : Bool) (props : List Property) :
    named templateUrl (inlineMetadata keepUrl props).result = named templateUrl (templateEdit keepUrl props).result := by
  have hedit := outcome keepUrl props
  generalize (inlineMetadata keepUrl props).result = result, (inlineMetadata keepUrl props).patches = patches at hedit ⊢
  cases hedit with
  | untouched => rfl
  | @listed u key span sheets hu hlist hstyles =>
    obtain ⟨at_, hkey⟩ := key_of_indexOf? hu hlist
    rw [← indexOf?_templateEdit keepUrl (by decide) (by decide) props] at hu
    refine named_set_of_ne (name?_ne_of_indexOf? hu (by decide)) ?_
    rw [name?_keyEdit hkey]
    split <;> decide
  | @folded u s key span sheets gone value hu hlist hs hgone hvalue =>
    obtain ⟨at_, hkey⟩ := key_of_indexOf? hu hlist
    rw [named_eraseIdx_of_ne, named_set_of_ne]
    · rw [← indexOf?_templateEdit keepUrl (by decide) (by decide) props] at hu
      exact name?_ne_of_indexOf? hu (by decide)
    · rw [name?_keyEdit hkey]
      split <;> decide
    · intro old hold
      rw [getElem?_set_templateEdit hu hs] at hold
      exact name?_ne_of_indexOf? hs (by decide) old hold

/-- a second edit finds a template exactly if the first two of that name are both string literals -/
theorem templateReady_result (props : List Property) :
    templateReady (inlineMetadata false props).result = templateBehind props := by
  rw [templateReady, named_templateUrl_result false, named_templateUrl_templateEdit, templateBehind]
  cases hready : templateReady props with
  | false => exact hready
  | true => rw [if_pos rfl, List.head?_tail, Bool.true_and]

/-- the properties before the first of a name -/
theorem takeWhile_of_indexOf? {props : List Property} {name : String} {i : Nat} (h : indexOf? props name = some i) :
    props.takeWhile (fun prop => prop.name? != some name) = props.take i := by
  obtain ⟨before, prop, after, rfl, rfl, hname, hbefore⟩ := indexOf?_eq_some h
  have hothers : ∀ p ∈ before, (p.name? != some name) = true := by
    intro p hp
    have := List.filter_eq_nil_iff.1 hbefore p hp
    simpa using this
  rw [List.takeWhile_append_of_pos hothers, List.takeWhile_cons_of_neg (by simp [hname]), List.append_nil,
    List.take_left]

/-- once the first list is renamed, a second edit meets the second list, and the `styles` before the first one -/
theorem sheetsReady_of_renamed {props result : List Property} {u : Nat} {list : Property}
    (hu : indexOf? props styleUrls = some u) (hlist : props[u]? = some list) (hinlinable : isInlinable list = true)
    (hfree : isBlocked props = false) (hurls : named styleUrls result = (named styleUrls props).tail)
    (hstyles : ∃ key value rest,
      named styles result = (named styles (props.take u)).tail ++ .keyValue key value :: rest) :
    sheetsReady result = sheetsBehind props := by
  obtain ⟨key, value, rest, hstyles⟩ := hstyles
  have hblocked : isBlocked result = (stylesBehind? props).any fun prop => (value? prop).isNone := by
    rw [isBlocked, hstyles, stylesBehind?, takeWhile_of_indexOf? hu]
    cases named styles (props.take u) with
    | nil => rfl
    | cons first others => cases others <;> rfl
  rw [sheetsReady, hurls, hblocked, sheetsBehind, hfree, (first_of_indexOf? hu hlist).2, Option.any_some, hinlinable,
    List.head?_tail]
  rfl

section

variable {props : List Property} {u : Nat} {key : Key} {span : Span} {sheets : List Sheet}

/-- a list that keeps its key has references now, and nothing to inline -/
theorem sheetsReady_of_kept (hu : indexOf? props styleUrls = some u)
    (hlist : props[u]? = some (.keyValue key (.array span (sheets.map Sheet.literal))))
    (hblocked : isBlocked props = true) :
    sheetsReady ((templateEdit false props).result.set u
      (.keyValue (keyEdit false styles key).1 (.array span (sheets.map Sheet.reference)))) = sheetsBehind props := by
  obtain ⟨at_, hkey⟩ := key_of_indexOf? hu hlist
  rw [← indexOf?_templateEdit false (by decide) (by decide) props] at hu
  have hname : Property.name? _ = some styleUrls := name?_keyEdit hkey false (.array span (sheets.map Sheet.reference))
  have hstill : isBlocked ((templateEdit false props).result.set u
      (.keyValue (keyEdit false styles key).1 (.array span (sheets.map Sheet.reference)))) = true := by
    rw [isBlocked, named_set_of_ne (name?_ne_of_indexOf? hu (by decide)) (by rw [hname]; decide),
      named_templateEdit false (by decide) (by decide), ← hblocked, isBlocked]
  rw [sheetsReady, named_set_of_first hu, named_cons_of_eq hname, hstill, sheetsBehind, hblocked]
  cases sheets <;> rfl

/-- a list that becomes the only `styles` -/
theorem sheetsReady_of_listed (hu : indexOf? props styleUrls = some u)
    (hlist : props[u]? = some (.keyValue key (.array span (sheets.map Sheet.literal))))
    (hfree : isBlocked props = false) (hnone : named styles props = []) :
    sheetsReady ((templateEdit false props).result.set u
      (.keyValue (keyEdit true styles key).1 (.array span (sheets.map Sheet.reference)))) = sheetsBehind props := by
  obtain ⟨at_, hkey⟩ := key_of_indexOf? hu hlist
  have hmid := hu
  rw [← indexOf?_templateEdit false (by decide) (by decide) props] at hmid
  have hname : Property.name? _ = some styles := name?_keyEdit hkey true (.array span (sheets.map Sheet.reference))
  refine sheetsReady_of_renamed hu hlist (isInlinable_iff.2 ⟨_, _, _, rfl⟩) hfree ?_ ?_
  · rw [named_set_of_first hmid, named_cons_of_ne (by rw [hname]; decide), named_templateEdit false (by decide) (by decide)]
    rfl
  · have htake : named styles (props.take u) = [] :=
      List.eq_nil_of_sublist_nil (hnone ▸ (List.take_sublist u props).filter _)
    have hsplit := named_set_of_eq (indexOf?_lt hmid) hname
    rw [named_take_templateEdit false (by decide) (by decide), htake] at hsplit
    rw [htake]
    exact ⟨_, _, _, hsplit⟩

/-- a list that takes the place of the `styles` whose entries it has -/
theorem sheetsReady_of_folded {s : Nat} {gone : Property} {value : Node} (hu : indexOf? props styleUrls = some u)
    (hlist : props[u]? = some (.keyValue key (.array span (sheets.map Sheet.literal))))
    (hs : indexOf? props styles = some s) (hgone : props[s]? = some gone) (hvalue : value? gone = some value) :
    sheetsReady (((templateEdit false props).result.set u (.keyValue (keyEdit true styles key).1
      (.array span (sheets.map Sheet.reference ++ mergedItems value)))).eraseIdx s) = sheetsBehind props := by
  obtain ⟨at_, hkey⟩ := key_of_indexOf? hu hlist
  have hmid := hu
  rw [← indexOf?_templateEdit false (by decide) (by decide) props] at hmid
  have hsmid := hs
  rw [← indexOf?_templateEdit false (by decide) (by decide) props] at hsmid
  have hfree := isBlocked_of_value hs hgone hvalue
  have hname : Property.name? _ = some styles :=
    name?_keyEdit hkey true (.array span (sheets.map Sheet.reference ++ mergedItems value))
  refine sheetsReady_of_renamed hu hlist (isInlinable_iff.2 ⟨_, _, _, rfl⟩) hfree ?_ ?_
  · rw [named_eraseIdx_of_ne, named_set_of_first hmid, named_cons_of_ne (by rw [hname]; decide),
      named_templateEdit false (by decide) (by decide)]
    · rfl
    · intro old hold
      rw [List.getElem?_set_ne (indexOf?_ne (by decide) hu hs)] at hold
      exact name?_ne_of_indexOf? hsmid (by decide) old hold
  · rw [← named_take_templateEdit false (by decide) (by decide)]
    exact ⟨_, _, named_eraseIdx_set hsmid (indexOf?_lt hmid) (indexOf?_ne (by decide) hs hu) hname⟩

end

/-- what a second edit finds of the style sheets -/
theorem sheetsReady_result (props : List Property) :
    sheetsReady (inlineMetadata false props).result = sheetsBehind props := by
  have hedit := outcome false props
  generalize (inlineMetadata false props).result = result, (inlineMetadata false props).patches = patches at hedit ⊢
  cases hedit with
  | untouched h =>
    have hhead : (named styleUrls props).head?.any isInlinable = false := by
      rw [Option.any_eq_false]
      exact fun prop hprop => by rw [h prop hprop]
    rw [sheetsBehind, hhead, Bool.and_false, Bool.false_and, sheetsReady, named_templateEdit false (by decide) (by decide)]
    rw [Option.any_eq_false]
    exact fun prop hprop => by rw [h prop hprop, Bool.false_and]
  | listed hu hlist hstyles =>
    cases hblocked : isBlocked props with
    | true =>
      rw [Bool.not_true, Bool.and_false]
      exact sheetsReady_of_kept hu hlist hblocked
    | false =>
      rw [Bool.not_false, Bool.and_true]
      exact sheetsReady_of_listed hu hlist hblocked (by simpa [hblocked] using hstyles)
  | folded hu hlist hs hgone hvalue => exact sheetsReady_of_folded hu hlist hs hgone hvalue

end ResourceInliner.Metadata
