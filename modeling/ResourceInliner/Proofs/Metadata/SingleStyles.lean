/-
How many `styles` an object has, as its text shows them: with the key as a name or in quotes. An edit that gives the list
of style sheets the name `styles` takes a `styles` with a value out, and leaves the name to a method or an accessor; but
it looks for keys that are names, so it overlooks one in quotes.

- `shows`: the name that a property shows. `shown_result`: what an edit does to the number of `styles`.
- `single_styles_iff`: an object with one `styles` at most comes to have two exactly if its `styles` is in quotes and its
  style sheets are inlined under a new key.
- `second_styles`: such an object.
-/
import ResourceInliner.Proofs.Metadata.Provenance

namespace ResourceInliner.Metadata

/-! ## Names that a text shows -/

/-- the name of a property with a quoted key -/
def quotedName? : Property → Option String
  | .keyValue (.quoted _ name) _ | .method _ _ (.quoted _ name) _ => some name
  | _ => none

/-- does the property show this name, as a name or in quotes? -/
def shows (name : String) (prop : Property) : Bool :=
  prop.name? == some name || quotedName? prop == some name

theorem quotedName?_of_name? {prop : Property} {name : String} (h : prop.name? = some name) : quotedName? prop = none := by
  cases prop with
  | keyValue key | method _ _ key =>
    cases key with
    | quoted => cases h
    | _ => rfl
  | _ => rfl

theorem shows_of_name? {prop : Property} {name other : String} (h : prop.name? = some other) :
    shows name prop = (other == name) := by
  rw [shows, h, quotedName?_of_name? h, Option.some_beq_some]
  exact Bool.or_false _

/-- a key is a name or in quotes, not both -/
theorem countP_shows (name : String) (props : List Property) :
    props.countP (shows name) = (named name props).length + props.countP fun prop => quotedName? prop == some name := by
  induction props with
  | nil => rfl
  | cons prop props ih =>
    rw [List.countP_cons, List.countP_cons, ih]
    by_cases hname : prop.name? = some name
    · rw [named_cons_of_eq hname, shows_of_name? hname, quotedName?_of_name? hname, List.length_cons,
        if_pos (beq_self_eq_true name), if_neg (by rw [Option.none_beq_some]; exact Bool.false_ne_true)]
      omega
    · rw [named_cons_of_ne hname, shows, beq_eq_false_iff_ne.2 hname, Bool.false_or]
      omega

theorem countP_set_add {α : Type} (p : α → Bool) {l : List α} {i : Nat} {a : α} (h : l[i]? = some a) (b : α) :
    l.countP p + (p b).toNat = (l.set i b).countP p + (p a).toNat := by
  have hcount := (flatMap_set_perm (fun x => [x]) h b).countP_eq p
  simp only [List.flatMap_singleton', List.countP_append, List.countP_singleton] at hcount
  cases hb : p b <;> cases ha : p a <;> simpa [ha, hb] using hcount

theorem countP_eraseIdx_add {α : Type} (p : α → Bool) {l : List α} {i : Nat} {a : α} (h : l[i]? = some a) :
    l.countP p = (l.eraseIdx i).countP p + (p a).toNat := by
  have hcount := (flatMap_eraseIdx_perm (fun x => [x]) h).countP_eq p
  simp only [List.flatMap_singleton', List.countP_append, List.countP_singleton] at hcount
  cases ha : p a <;> simpa [ha] using hcount

/-! ## What an edit does to the number of `styles` -/

/-- are there style sheets to inline? -/
def listsSheets (props : List Property) : Bool :=
  (named styleUrls props).head?.any isInlinable

theorem listsSheets_eq_false {props : List Property}
    (h : ∀ prop, (named styleUrls props).head? = some prop → isInlinable prop = false) : listsSheets props = false := by
  rw [listsSheets, Option.any_eq_false]
  intro prop hprop
  rw [h prop hprop]

/-- does the first `styles` have a value to move? -/
def hasValue (props : List Property) : Bool :=
  (named styles props).head?.any fun prop => (value? prop).isSome

theorem hasValue_eq (props : List Property) : hasValue props = (!(named styles props).isEmpty && !isBlocked props) := by
  rw [hasValue, isBlocked]
  cases named styles props with
  | nil => rfl
  | cons prop rest => cases hvalue : value? prop <;> simp [hvalue]

theorem countP_templateEdit (keepUrl : Bool) (props : List Property) :
    (templateEdit keepUrl props).result.countP (shows styles) = props.countP (shows styles) := by
  have hedit := template_outcome keepUrl props
  generalize (templateEdit keepUrl props).result = result, (templateEdit keepUrl props).patches = patches at hedit ⊢
  cases hedit with
  | untouched => rfl
  | @inlined t key span value raw ht hprop =>
    obtain ⟨at_, rfl⟩ := key_of_indexOf? ht hprop
    have hcount := countP_set_add (shows styles) hprop
      (.keyValue (keyEdit (!keepUrl) template (.name at_ templateUrl)).1 (requireNode value span))
    cases keepUrl <;> exact hcount.symm

section

variable {keepUrl : Bool} {props : List Property} {u : Nat} {key : Key} {span : Span} {sheets : List Sheet}

theorem listsSheets_of_list (hu : indexOf? props styleUrls = some u)
    (hlist : props[u]? = some (.keyValue key (.array span (sheets.map Sheet.literal)))) : listsSheets props = true := by
  rw [listsSheets, (first_of_indexOf? hu hlist).2, Option.any_some, isInlinable_iff.2 ⟨_, _, _, rfl⟩]

/-- the list of style sheets is one more `styles` if its key is renamed -/
theorem countP_set_list (hu : indexOf? props styleUrls = some u)
    (hlist : props[u]? = some (.keyValue key (.array span (sheets.map Sheet.literal)))) (rename : Bool) (items : List Item) :
    ((templateEdit keepUrl props).result.set u (.keyValue (keyEdit rename styles key).1 (.array span items))).countP
      (shows styles) = props.countP (shows styles) + rename.toNat := by
  obtain ⟨at_, hkey⟩ := key_of_indexOf? hu hlist
  have hnow := hlist
  rw [← templateEdit_getElem? hu (by decide) keepUrl] at hnow
  have hset := countP_set_add (shows styles) hnow (.keyValue (keyEdit rename styles key).1 (.array span items))
  rw [countP_templateEdit, shows_of_name? (first_of_indexOf? hu hlist).1, shows_of_name? (name?_keyEdit hkey _ _)] at hset
  cases rename <;> exact hset.symm

end

/-- the key of the list adds a `styles` if it is new, and the property that is taken out was one -/
theorem shown_result (keepUrl : Bool) (props : List Property) :
    props.countP (shows styles) + (!keepUrl && !isBlocked props && listsSheets props).toNat =
      (inlineMetadata keepUrl props).result.countP (shows styles) + (hasValue props && listsSheets props).toNat := by
  have hedit := outcome keepUrl props
  generalize (inlineMetadata keepUrl props).result = result, (inlineMetadata keepUrl props).patches = patches at hedit ⊢
  cases hedit with
  | untouched h =>
    rw [listsSheets_eq_false h, Bool.and_false, Bool.and_false, countP_templateEdit]
  | @listed u key span sheets hu hlist hstyles =>
    have hno : hasValue props = false := by
      rw [hasValue_eq]
      rcases hstyles with hnone | hblocked
      · rw [hnone]
        rfl
      · rw [hblocked, Bool.not_true, Bool.and_false]
    rw [listsSheets_of_list hu hlist, hno, Bool.and_true, Bool.false_and, countP_set_list hu hlist]
    rfl
  | @folded u s key span sheets gone value hu hlist hs hgone hvalue =>
    obtain ⟨hname, hfirst⟩ := first_of_indexOf? hs hgone
    have hsome : hasValue props = true := by
      rw [hasValue, hfirst, Option.any_some, hvalue]
      rfl
    have hgoneNow : ∀ list, ((templateEdit keepUrl props).result.set u list)[s]? = some gone := by
      intro list
      rw [getElem?_set_templateEdit hu hs, hgone]
    rw [listsSheets_of_list hu hlist, hsome, isBlocked_of_value hs hgone hvalue, Bool.and_true, Bool.not_false,
      Bool.and_true, ← countP_set_list hu hlist (!keepUrl), countP_eraseIdx_add (shows styles) (hgoneNow _),
      shows_of_name? hname]
    rfl

/-- **Main result.** An object that shows one `styles` at most still does so after an edit, unless the key of its `styles`
is in quotes and its style sheets are inlined under a new key. -/
theorem single_styles_iff (keepUrl : Bool) {props : List Property} (h : props.countP (shows styles) ≤ 1) :
    (inlineMetadata keepUrl props).result.countP (shows styles) ≤ 1 ↔
      keepUrl = true ∨ listsSheets props = false ∨ ∀ prop ∈ props, quotedName? prop ≠ some styles := by
  have hcount := shown_result keepUrl props
  have hsplit := countP_shows styles props
  have hquoted : (∀ prop ∈ props, quotedName? prop ≠ some styles) ↔
      props.countP (fun prop => quotedName? prop == some styles) = 0 := by
    rw [List.countP_eq_zero]
    simp only [beq_iff_eq, ne_eq]
  rw [hquoted]
  cases keepUrl with
  | true =>
    rw [Bool.not_true, Bool.false_and, Bool.false_and, Bool.toNat_false] at hcount
    exact iff_of_true (by omega) (.inl rfl)
  | false =>
    cases hlists : listsSheets props with
    | false =>
      rw [hlists, Bool.and_false, Bool.and_false] at hcount
      exact iff_of_true (by omega) (.inr (.inl rfl))
    | true =>
      rw [hlists, hasValue_eq, Bool.and_true, Bool.and_true, Bool.not_false, Bool.true_and] at hcount
      suffices (inlineMetadata false props).result.countP (shows styles) ≤ 1 ↔
          props.countP (fun prop => quotedName? prop == some styles) = 0 by simpa only [reduceCtorEq, false_or] using this
      cases hnamed : named styles props with
      | nil =>
        -- nothing takes the new `styles` back out
        rw [hnamed, isBlocked_of_none hnamed, List.isEmpty_nil, Bool.not_true, Bool.false_and, Bool.not_false, Bool.toNat_true,
          Bool.toNat_false] at hcount
        rw [hnamed, List.length_nil] at hsplit
        omega
      | cons first rest =>
        -- the new `styles` comes exactly if the old one goes
        rw [hnamed, List.isEmpty_cons, Bool.not_false, Bool.true_and] at hcount
        rw [hnamed, List.length_cons] at hsplit
        omega

/-- the object `{styleUrls: ['a'], 'styles': ['b']}` -/
def quotedStyles : List Property :=
  [sampleSheets, .keyValue (.quoted ⟨20, 28⟩ styles) (.array ⟨30, 35⟩ [.element (.string ⟨31, 34⟩ "b" "'b'")])]

theorem single_styles_iff_sample :
    quotedStyles.countP (shows styles) ≤ 1 ∧ ¬ (inlineMetadata false quotedStyles).result.countP (shows styles) ≤ 1 ∧
      (inlineMetadata true quotedStyles).result.countP (shows styles) ≤ 1 := by
  have hone : quotedStyles.countP (shows styles) ≤ 1 := by decide
  refine ⟨hone, fun htwo => ?_, (single_styles_iff true hone).2 (.inl rfl)⟩
  have hquoted := (single_styles_iff false hone).1 htwo
  revert hquoted
  decide

/-- An object that shows one `styles` can come to show two. -/
theorem second_styles : ¬ ∀ (keepUrl : Bool) (props : List Property), props.countP (shows styles) ≤ 1 →
    (inlineMetadata keepUrl props).result.countP (shows styles) ≤ 1 := by
  intro h
  have htwo := h false quotedStyles (by decide)
  revert htwo
  decide

end ResourceInliner.Metadata
