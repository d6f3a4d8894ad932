/-
What editing one metadata object has to come to, said property by property and without the edit itself: what the first
`templateUrl` becomes, what the first `styleUrls` becomes, that a first `styles` with a value is taken out, and that
nothing else happens.

- `TemplateRule`, `SheetsRule`: what the two rules make of a property. `TakenOut`: the property that goes.
- `Specified`: the objects that meet all of it.
- `specified_iff`: there is exactly one such object, the one that the edit makes.
-/
import Mathlib.Data.List.Forall2
import ResourceInliner.Proofs.Metadata.Rerun

namespace ResourceInliner.Metadata

/-! ## The specification -/

/-- the property at an index is the first of a name -/
structure IsFirst (name : String) (props : List Property) (i : Nat) (prop : Property) : Prop where
  found : props[i]? = some prop
  name_eq : prop.name? = some name
  before : ∀ other ∈ props.take i, other.name? ≠ some name

/-- a call of `require` with the module that a path names -/
def required (span : Span) (path : String) : Node :=
  .call span (.name .dummy "require") [.string span (Path.specifier path) (Path.quoted path)] []

/-- a plain string literal in a list, and the call that takes its place -/
inductive Referenced : Item → Item → Prop where
  | literal (span : Span) (value raw : String) :
    Referenced (.element (.string span value raw)) (.element (required span value))

/-- is it a hole? -/
def isHole : Item → Bool
  | .hole => true
  | _ => false

/-- is it a method or an accessor? -/
def isMethod : Property → Bool
  | .method .. => true
  | _ => false

/-- the entries that a property gives away: those of an array without its holes, or any other value spread -/
def givenItems? : Property → Option (List Item)
  | .keyValue _ (.array _ items) => some (items.filter fun item => !isHole item)
  | .keyValue _ value => some [.spread .dummy value]
  | .shorthand span name => some [.spread .dummy (.name span name)]
  | _ => none

/-- the first property named `styles` -/
def firstStyles? (props : List Property) : Option Property :=
  (named styles props).head?

/-- the name of the list of style sheets -/
def listName (keepUrl : Bool) (props : List Property) : String :=
  if keepUrl || (firstStyles? props).any isMethod then styleUrls else styles

/-- the entries that move behind the style sheets -/
def givenItems (props : List Property) : List Item :=
  ((firstStyles? props).bind givenItems?).getD []

/-- what becomes of the first `templateUrl` if it is a string literal: a call, under the name of the template -/
inductive TemplateRule (keepUrl : Bool) (props : List Property) (i : Nat) : Property → Property → Prop where
  | inlined {at_ span : Span} {value raw : String}
    (first : IsFirst templateUrl props i (.keyValue (.name at_ templateUrl) (.string span value raw))) :
    TemplateRule keepUrl props i (.keyValue (.name at_ templateUrl) (.string span value raw))
      (.keyValue (.name at_ (if keepUrl then templateUrl else template)) (required span value))

/-- what becomes of the first `styleUrls` if it is a list of plain string literals: a call for each of them, and then the
entries of `styles` -/
inductive SheetsRule (keepUrl : Bool) (props : List Property) (i : Nat) : Property → Property → Prop where
  | inlined {at_ span : Span} {items references : List Item}
    (first : IsFirst styleUrls props i (.keyValue (.name at_ styleUrls) (.array span items)))
    (plain : List.Forall₂ Referenced items references) :
    SheetsRule keepUrl props i (.keyValue (.name at_ styleUrls) (.array span items))
      (.keyValue (.name at_ (listName keepUrl props)) (.array span (references ++ givenItems props)))

/-- what becomes of the property at an index; without a rule for it, it stays as it is -/
inductive Becomes (keepUrl : Bool) (props : List Property) (i : Nat) (prop : Property) : Property → Prop where
  | template {new : Property} (h : TemplateRule keepUrl props i prop new) : Becomes keepUrl props i prop new
  | sheets {new : Property} (h : SheetsRule keepUrl props i prop new) : Becomes keepUrl props i prop new
  | kept (htemplate : ∀ new, ¬ TemplateRule keepUrl props i prop new)
    (hsheets : ∀ new, ¬ SheetsRule keepUrl props i prop new) : Becomes keepUrl props i prop prop

/-- every property has become what it has to -/
structure EachBecomes (keepUrl : Bool) (props edited : List Property) : Prop where
  length_eq : edited.length = props.length
  becomes : ∀ i prop new, props[i]? = some prop → edited[i]? = some new → Becomes keepUrl props i prop new

/-- the property at an index is the first `styles`, and its entries move behind the style sheets -/
def TakenOut (keepUrl : Bool) (props : List Property) (s : Nat) : Prop :=
  (∃ i prop new, SheetsRule keepUrl props i prop new) ∧
    ∃ gone, IsFirst styles props s gone ∧ (givenItems? gone).isSome = true

/-- the objects that an edit may come to -/
inductive Specified (keepUrl : Bool) (props : List Property) : List Property → Prop where
  | kept {edited : List Property} (h : EachBecomes keepUrl props edited) (hnone : ∀ s, ¬ TakenOut keepUrl props s) :
    Specified keepUrl props edited
  | folded {edited : List Property} {s : Nat} (h : EachBecomes keepUrl props edited) (hs : TakenOut keepUrl props s) :
    Specified keepUrl props (edited.eraseIdx s)

/-! ## There is one such object at most -/

theorem isFirst_iff {name : String} {props : List Property} {i : Nat} {prop : Property} :
    IsFirst name props i prop ↔ indexOf? props name = some i ∧ props[i]? = some prop := by
  constructor
  · rintro ⟨hfound, hname, hbefore⟩
    refine ⟨?_, hfound⟩
    obtain ⟨hi, rfl⟩ := List.getElem?_eq_some_iff.1 hfound
    refine List.findIdx?_eq_some_iff_getElem.2 ⟨hi, by simpa using hname, fun j hj => ?_⟩
    have hother := hbefore props[j] (List.mem_take_iff_getElem.2 ⟨j, by omega, rfl⟩)
    simpa using hother
  · rintro ⟨hindex, hfound⟩
    obtain ⟨before, first, after, rfl, rfl, hname, hbefore⟩ := indexOf?_eq_some hindex
    obtain rfl : first = prop := by simpa using hfound
    refine ⟨hfound, hname, fun other hother => ?_⟩
    rw [List.take_left] at hother
    have hnot := List.filter_eq_nil_iff.1 hbefore other hother
    simpa using hnot

section

variable {keepUrl : Bool} {props : List Property}

theorem IsFirst.unique {name : String} {i j : Nat} {a b : Property} (ha : IsFirst name props i a)
    (hb : IsFirst name props j b) : i = j ∧ a = b := by
  obtain ⟨hi, hat⟩ := isFirst_iff.1 ha
  obtain ⟨hj, hbt⟩ := isFirst_iff.1 hb
  obtain rfl := Option.some.inj (hi.symm.trans hj)
  exact ⟨rfl, Option.some.inj (hat.symm.trans hbt)⟩

theorem Referenced.unique {item a b : Item} (ha : Referenced item a) (hb : Referenced item b) : a = b := by
  cases ha
  cases hb
  rfl

theorem TemplateRule.unique {i : Nat} {prop a b : Property} (ha : TemplateRule keepUrl props i prop a)
    (hb : TemplateRule keepUrl props i prop b) : a = b := by
  cases ha
  cases hb
  rfl

theorem references_unique {items a b : List Item} (ha : List.Forall₂ Referenced items a)
    (hb : List.Forall₂ Referenced items b) : a = b := by
  induction ha generalizing b with
  | nil =>
    cases hb
    rfl
  | cons hitem _ ih =>
    cases hb with
    | cons hitem' hrest => rw [hitem.unique hitem', ih hrest]

theorem SheetsRule.unique {i : Nat} {prop a b : Property} (ha : SheetsRule keepUrl props i prop a)
    (hb : SheetsRule keepUrl props i prop b) : a = b := by
  cases ha with
  | inlined _ plain =>
    cases hb with
    | inlined _ plain' => rw [references_unique plain plain']

theorem TemplateRule.first {i : Nat} {prop new : Property} (h : TemplateRule keepUrl props i prop new) :
    IsFirst templateUrl props i prop := by
  cases h
  assumption

theorem SheetsRule.first {i : Nat} {prop new : Property} (h : SheetsRule keepUrl props i prop new) :
    IsFirst styleUrls props i prop := by
  cases h
  assumption

/-- the two rules are about properties of different names -/
theorem TemplateRule.not_sheets {i : Nat} {prop a b : Property} (ha : TemplateRule keepUrl props i prop a) :
    ¬ SheetsRule keepUrl props i prop b := by
  intro hb
  have hname := ha.first.name_eq.symm.trans hb.first.name_eq
  revert hname
  decide

theorem Becomes.unique {i : Nat} {prop a b : Property} (ha : Becomes keepUrl props i prop a)
    (hb : Becomes keepUrl props i prop b) : a = b := by
  cases ha with
  | template ha =>
    cases hb with
    | template hb => exact ha.unique hb
    | sheets hb => exact absurd hb ha.not_sheets
    | kept htemplate => exact absurd ha (htemplate _)
  | sheets ha =>
    cases hb with
    | template hb => exact absurd ha hb.not_sheets
    | sheets hb => exact ha.unique hb
    | kept _ hsheets => exact absurd ha (hsheets _)
  | kept htemplate hsheets =>
    cases hb with
    | template hb => exact absurd hb (htemplate _)
    | sheets hb => exact absurd hb (hsheets _)
    | kept => rfl

theorem EachBecomes.unique {a b : List Property} (ha : EachBecomes keepUrl props a) (hb : EachBecomes keepUrl props b) :
    a = b := by
  refine List.ext_getElem (ha.length_eq.trans hb.length_eq.symm) fun i hia hib => ?_
  have hi : i < props.length := ha.length_eq ▸ hia
  exact (ha.becomes i _ _ (List.getElem?_eq_getElem hi) (List.getElem?_eq_getElem hia)).unique
    (hb.becomes i _ _ (List.getElem?_eq_getElem hi) (List.getElem?_eq_getElem hib))

theorem Specified.unique {a b : List Property} (ha : Specified keepUrl props a) (hb : Specified keepUrl props b) :
    a = b := by
  cases ha with
  | kept ha hnone =>
    cases hb with
    | kept hb => exact ha.unique hb
    | folded hb hs => exact absurd hs (hnone _)
  | folded ha hs =>
    cases hb with
    | kept hb hnone => exact absurd hs (hnone _)
    | folded hb hs' =>
      obtain ⟨-, gone, hfirst, -⟩ := hs
      obtain ⟨-, gone', hfirst', -⟩ := hs'
      rw [(hfirst.unique hfirst').1, ha.unique hb]

end

/-! ## The edit meets the specification -/

theorem forall₂_referenced {items references : List Item} :
    List.Forall₂ Referenced items references ↔
      ∃ sheets : List Sheet, items = sheets.map Sheet.literal ∧ references = sheets.map Sheet.reference := by
  constructor
  · intro h
    induction h with
    | nil => exact ⟨[], rfl, rfl⟩
    | cons hitem _ ih =>
      obtain ⟨sheets, rfl, rfl⟩ := ih
      cases hitem with
      | literal span value raw => exact ⟨⟨span, value, raw⟩ :: sheets, rfl, rfl⟩
  · rintro ⟨sheets, rfl, rfl⟩
    induction sheets with
    | nil => exact .nil
    | cons sheet sheets ih => exact .cons (.literal sheet.span sheet.value sheet.raw) ih

theorem givenItems?_eq (prop : Property) : givenItems? prop = (value? prop).map mergedItems := by
  have hholes : ∀ items : List Item, (items.filter fun item => !isHole item) = items.filter fun item => item.span?.isSome := by
    intro items
    congr 1
    funext item
    cases item <;> rfl
  cases prop with
  | keyValue key value =>
    cases value with
    | array span items => exact congrArg some (hholes items)
    | _ => rfl
  | _ => rfl

/-- a name whose property has no value is that of a method or an accessor -/
theorem isBlocked_eq (props : List Property) : isBlocked props = (firstStyles? props).any isMethod := by
  rw [isBlocked, firstStyles?]
  cases hfirst : (named styles props).head? with
  | none => rfl
  | some prop =>
    have hname : prop.name? = some styles := by
      simpa using (List.mem_filter.1 (List.mem_of_head? hfirst)).2
    cases prop with
    | withDefault => cases hname
    | spread => cases hname
    | _ => rfl

theorem keyEdit_listName (keepUrl : Bool) (props : List Property) (at_ : Span) :
    (keyEdit (!keepUrl && !isBlocked props) styles (.name at_ styleUrls)).1 = .name at_ (listName keepUrl props) := by
  rw [listName, ← isBlocked_eq]
  cases keepUrl <;> cases isBlocked props <;> rfl

section

variable {keepUrl : Bool} {props : List Property}

theorem SheetsRule.inlinable {i : Nat} {prop new : Property} (h : SheetsRule keepUrl props i prop new) :
    isInlinable prop = true := by
  cases h with
  | inlined first plain =>
    obtain ⟨sheets, rfl, -⟩ := forall₂_referenced.1 plain
    exact isInlinable_iff.2 ⟨_, _, _, rfl⟩

/-- the rule for a list of style sheets that the edit inlines -/
theorem sheetsRule_of_list (keepUrl : Bool) {u : Nat} {key : Key} {span : Span} {sheets : List Sheet}
    (hu : indexOf? props styleUrls = some u)
    (hlist : props[u]? = some (.keyValue key (.array span (sheets.map Sheet.literal)))) :
    SheetsRule keepUrl props u (.keyValue key (.array span (sheets.map Sheet.literal)))
      (.keyValue (keyEdit (!keepUrl && !isBlocked props) styles key).1
        (.array span (sheets.map Sheet.reference ++ givenItems props))) := by
  obtain ⟨at_, rfl⟩ := key_of_indexOf? hu hlist
  rw [keyEdit_listName]
  exact .inlined (isFirst_iff.2 ⟨hu, hlist⟩) (forall₂_referenced.2 ⟨sheets, rfl, rfl⟩)

/-- the edit of the template follows the rule for it -/
theorem templateEdit_rule {i : Nat} {prop new : Property} (hprop : props[i]? = some prop)
    (hnew : (templateEdit keepUrl props).result[i]? = some new) :
    TemplateRule keepUrl props i prop new ∨ (∀ other, ¬ TemplateRule keepUrl props i prop other) ∧ new = prop := by
  have hedit := template_outcome keepUrl props
  generalize (templateEdit keepUrl props).result = result, (templateEdit keepUrl props).patches = patches at hedit hnew
  cases hedit with
  | untouched h =>
    refine .inr ⟨fun other hrule => ?_, Option.some.inj (hnew.symm.trans hprop)⟩
    obtain ⟨hindex, hfound⟩ := isFirst_iff.1 hrule.first
    have hstring := h prop (first_of_indexOf? hindex hfound).2
    cases hrule
    cases hstring
  | @inlined t key span value raw ht hstring =>
    obtain ⟨at_, rfl⟩ := key_of_indexOf? ht hstring
    by_cases hi : t = i
    · subst hi
      obtain rfl := Option.some.inj (hstring.symm.trans hprop)
      rw [List.getElem?_set_self (indexOf?_lt ht), Option.some.injEq] at hnew
      refine .inl ?_
      rw [← hnew]
      cases keepUrl <;> exact .inlined (isFirst_iff.2 ⟨ht, hstring⟩)
    · rw [List.getElem?_set_ne hi, hprop, Option.some.injEq] at hnew
      exact .inr ⟨fun other hrule => hi ((isFirst_iff.2 ⟨ht, hstring⟩).unique hrule.first).1, hnew.symm⟩

theorem becomes_of_not_sheets {i : Nat} {prop new : Property} (hprop : props[i]? = some prop)
    (hnew : (templateEdit keepUrl props).result[i]? = some new) (hsheets : ∀ other, ¬ SheetsRule keepUrl props i prop other) :
    Becomes keepUrl props i prop new := by
  rcases templateEdit_rule hprop hnew with hrule | ⟨htemplate, rfl⟩
  · exact .template hrule
  · exact .kept htemplate hsheets

/-- the two rules, each in its place -/
theorem eachBecomes_set {u : Nat} {list new : Property} (hrule : SheetsRule keepUrl props u list new) :
    EachBecomes keepUrl props ((templateEdit keepUrl props).result.set u new) where
  length_eq := by rw [List.length_set, length_templateEdit]
  becomes i prop other hprop hother := by
    by_cases hi : u = i
    · subst hi
      obtain rfl := Option.some.inj (hrule.first.found.symm.trans hprop)
      have hu : u < (templateEdit keepUrl props).result.length := by
        rw [length_templateEdit]
        exact (List.getElem?_eq_some_iff.1 hprop).1
      rw [List.getElem?_set_self hu, Option.some.injEq] at hother
      exact .sheets (hother ▸ hrule)
    · rw [List.getElem?_set_ne hi] at hother
      exact becomes_of_not_sheets hprop hother fun _ hsheets => hi (hrule.first.unique hsheets.first).1

theorem specified_result (keepUrl : Bool) (props : List Property) :
    Specified keepUrl props (inlineMetadata keepUrl props).result := by
  have hedit := outcome keepUrl props
  generalize (inlineMetadata keepUrl props).result = result, (inlineMetadata keepUrl props).patches = patches at hedit ⊢
  cases hedit with
  | untouched h =>
    have hnone : ∀ i prop new, ¬ SheetsRule keepUrl props i prop new := by
      intro i prop new hrule
      obtain ⟨hindex, hfound⟩ := isFirst_iff.1 hrule.first
      have hnot := h prop (first_of_indexOf? hindex hfound).2
      rw [hrule.inlinable] at hnot
      cases hnot
    refine .kept ⟨length_templateEdit keepUrl props, fun i prop new hprop hnew => ?_⟩ ?_
    · exact becomes_of_not_sheets hprop hnew (hnone i prop)
    · rintro s ⟨⟨i, prop, new, hrule⟩, -⟩
      exact hnone i prop new hrule
  | @listed u key span sheets hu hlist hstyles =>
    have hgiven : (firstStyles? props).bind givenItems? = none := by
      rw [firstStyles?]
      rcases hstyles with hnone | hblocked
      · rw [hnone]
        rfl
      · obtain ⟨prop, hfirst, hvalue⟩ := (Option.any_eq_true _ _).1 hblocked
        rw [hfirst, Option.bind_some, givenItems?_eq, Option.isNone_iff_eq_none.1 hvalue]
        rfl
    have hrule := sheetsRule_of_list keepUrl hu hlist
    rw [givenItems, hgiven, Option.getD_none, List.append_nil] at hrule
    refine .kept (eachBecomes_set hrule) ?_
    rintro s ⟨-, gone, hfirst, hsome⟩
    obtain ⟨hindex, hfound⟩ := isFirst_iff.1 hfirst
    rw [firstStyles?, (first_of_indexOf? hindex hfound).2, Option.bind_some] at hgiven
    rw [hgiven] at hsome
    cases hsome
  | @folded u s key span sheets gone value hu hlist hs hgone hvalue =>
    have hitems : givenItems? gone = some (mergedItems value) := by rw [givenItems?_eq, hvalue, Option.map_some]
    have hfirst : firstStyles? props = some gone := (first_of_indexOf? hs hgone).2
    have hrule := sheetsRule_of_list keepUrl hu hlist
    rw [givenItems, hfirst, Option.bind_some, hitems, Option.getD_some, isBlocked_of_value hs hgone hvalue, Bool.not_false,
      Bool.and_true] at hrule
    refine .folded (eachBecomes_set hrule) ⟨⟨u, _, _, hrule⟩, gone, isFirst_iff.2 ⟨hs, hgone⟩, ?_⟩
    rw [hitems]
    rfl

end

/-- **Main result.** The specification leaves one object for every object and setting, and that is what the edit makes. -/
theorem specified_iff (keepUrl : Bool) (props result : List Property) :
    Specified keepUrl props result ↔ (inlineMetadata keepUrl props).result = result :=
  ⟨fun h => (specified_result keepUrl props).unique h, fun h => h ▸ specified_result keepUrl props⟩

end ResourceInliner.Metadata
