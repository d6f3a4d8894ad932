/-
What editing one metadata object can do. `outcome` lists the three ends it can come to: the list of style sheets is left
alone, or its entries are inlined, or they are inlined and the entries of a sibling `styles` move behind them. Every
later fact about the edit is read off this list, and no other module opens the edit itself.

- `named`: the properties of a name, in order. `indexOf?_eq_some`: what the place of the first one says.
- `takeOut`: the patch that takes a property out, in terms of its neighbours. `removal_between`: it is the one made.
- `template_outcome`: what becomes of the template. `outcome`: what becomes of the object.
- `inlineMetadata_untouched`, `inlineMetadata_listed`, `inlineMetadata_folded`: each end is the same one with and without
  new key names.
-/
import Mathlib.Data.List.Basic
import ResourceInliner.Metadata

namespace ResourceInliner.Metadata

/-! ## The properties of a name -/

/-- the properties of a name, in order -/
def named (name : String) (props : List Property) : List Property :=
  props.filter fun prop => prop.name? == some name

theorem named_append (name : String) (a b : List Property) : named name (a ++ b) = named name a ++ named name b :=
  List.filter_append ..

theorem named_cons_of_eq {name : String} {prop : Property} (h : prop.name? = some name) (props : List Property) :
    named name (prop :: props) = prop :: named name props :=
  List.filter_cons_of_pos (by simp [h])

theorem named_cons_of_ne {name : String} {prop : Property} (h : prop.name? ≠ some name) (props : List Property) :
    named name (prop :: props) = named name props :=
  List.filter_cons_of_neg (by simp [h])

/-- the place of the first property of a name -/
theorem indexOf?_eq_some {props : List Property} {name : String} {i : Nat} (h : indexOf? props name = some i) :
    ∃ before prop after, props = before ++ prop :: after ∧ before.length = i ∧ prop.name? = some name ∧
      named name before = [] := by
  obtain ⟨hi, hname, hbefore⟩ := List.findIdx?_eq_some_iff_getElem.1 h
  refine ⟨props.take i, props[i], props.drop (i + 1), ?_, by simp; omega, by simpa using hname, ?_⟩
  · rw [← List.drop_eq_getElem_cons hi, List.take_append_drop]
  · rw [named, List.filter_eq_nil_iff]
    intro prop hprop
    obtain ⟨j, hj, rfl⟩ := List.mem_take_iff_getElem.1 hprop
    simpa using hbefore j (by omega)

theorem first_of_indexOf? {props : List Property} {name : String} {i : Nat} {prop : Property}
    (h : indexOf? props name = some i) (hprop : props[i]? = some prop) :
    prop.name? = some name ∧ (named name props).head? = some prop := by
  obtain ⟨before, first, after, rfl, rfl, hname, hbefore⟩ := indexOf?_eq_some h
  have hsame : first = prop := by simpa using hprop
  rw [← hsame, named_append, hbefore, named_cons_of_eq hname]
  exact ⟨hname, rfl⟩

theorem getElem?_of_indexOf? {props : List Property} {name : String} {i : Nat} (h : indexOf? props name = some i) :
    ∃ prop, props[i]? = some prop ∧ prop.name? = some name ∧ (named name props).head? = some prop := by
  obtain ⟨before, prop, after, rfl, rfl, -, -⟩ := indexOf?_eq_some h
  exact ⟨prop, by simp, first_of_indexOf? h (by simp)⟩

theorem indexOf?_eq_none {props : List Property} {name : String} :
    indexOf? props name = none ↔ named name props = [] := by
  rw [indexOf?, List.findIdx?_eq_none_iff, named, List.filter_eq_nil_iff]
  simp

/-- the first property of a name is at the place of the name -/
theorem exists_indexOf?_of_head? {props : List Property} {name : String} {prop : Property}
    (h : (named name props).head? = some prop) : ∃ i, indexOf? props name = some i ∧ props[i]? = some prop := by
  cases hi : indexOf? props name with
  | none =>
    rw [indexOf?_eq_none.1 hi] at h
    cases h
  | some i =>
    obtain ⟨other, hother, -, hfirst⟩ := getElem?_of_indexOf? hi
    rw [hfirst] at h
    exact ⟨i, rfl, hother.trans h⟩

theorem set_eq_self {α : Type} {l : List α} {i : Nat} {a : α} (h : l[i]? = some a) : l.set i a = l := by
  obtain ⟨hi, rfl⟩ := List.getElem?_eq_some_iff.1 h
  exact List.set_getElem_self hi

theorem indexOf?_ne {props : List Property} {a b : String} (hab : a ≠ b) {i j : Nat} (hi : indexOf? props a = some i)
    (hj : indexOf? props b = some j) : i ≠ j := by
  rintro rfl
  obtain ⟨p, hp, hpa, -⟩ := getElem?_of_indexOf? hi
  obtain ⟨q, hq, hqb, -⟩ := getElem?_of_indexOf? hj
  rw [hp, Option.some.injEq] at hq
  rw [hq, hqb, Option.some.injEq] at hpa
  exact hab hpa.symm

theorem key_of_name? {key : Key} {value : Node} {name : String}
    (h : (Property.keyValue key value).name? = some name) : ∃ span, key = .name span name := by
  cases key with
  | name span other =>
    simp only [Property.name?, Option.some.injEq] at h
    exact ⟨span, by rw [h]⟩
  | _ => simp [Property.name?] at h

theorem key_of_indexOf? {props : List Property} {name : String} {i : Nat} {key : Key} {value : Node}
    (h : indexOf? props name = some i) (hprop : props[i]? = some (.keyValue key value)) :
    ∃ span, key = .name span name :=
  key_of_name? (first_of_indexOf? h hprop).1

/-! ## The parts of an edit -/

/-- is the value a string literal? -/
def isTemplate : Property → Bool
  | .keyValue _ (.string _ _ _) => true
  | _ => false

/-- an entry of a list of style sheets: a string literal, where it stands and what it says -/
structure Sheet where
  span : Span
  value : String
  raw : String

/-- the entry as it is written -/
def Sheet.literal (sheet : Sheet) : Item := .element (.string sheet.span sheet.value sheet.raw)

/-- the module reference in its place -/
def Sheet.reference (sheet : Sheet) : Item := .element (requireNode sheet.value sheet.span)

/-- the patch that puts the reference in -/
def Sheet.patch (sheet : Sheet) : Patch := .replace sheet.span (Path.requireCall sheet.value)

/-- the key, renamed or not, with the patch for it -/
def keyEdit (rename : Bool) (name : String) (key : Key) : Key × List Patch :=
  if rename then renameKey name key else (key, [])

/-- the patch that puts the entries of a value at the end of a list, if it has entries -/
def insertion (span : Span) (items : List Item) (value : Node) : List Patch :=
  if (mergedChunks value).isEmpty then []
  else [Patch.insert (insertionPoint span items) (joinGroups (!items.isEmpty) (mergedChunks value))]

theorem span_keyEdit (rename : Bool) (name : String) (key : Key) : (keyEdit rename name key).1.span = key.span := by
  cases rename <;> cases key <;> rfl

/-- the paths of a list are those of its string literals -/
theorem stylePaths_eq_ok {items : List Item} {paths : List (String × Span)} (h : stylePaths items = .ok paths) :
    ∃ sheets : List Sheet, items = sheets.map Sheet.literal ∧
      paths = sheets.map fun sheet => (sheet.value, sheet.span) := by
  induction items generalizing paths with
  | nil =>
    simp only [stylePaths, Except.ok.injEq] at h
    subst h
    exact ⟨[], rfl, rfl⟩
  | cons item rest ih =>
    cases item with
    | element value =>
      cases value with
      | string span value raw =>
        rw [stylePaths] at h
        cases hrest : stylePaths rest with
        | error reason => rw [hrest] at h; cases h
        | ok found =>
          rw [hrest] at h
          simp only [Except.map, Except.ok.injEq] at h
          obtain ⟨sheets, hitems, hpaths⟩ := ih hrest
          exact ⟨⟨span, value, raw⟩ :: sheets, by rw [hitems]; rfl, by rw [← h, hpaths]; rfl⟩
      | _ => simp [stylePaths] at h
    | _ => simp [stylePaths] at h

theorem stylePaths_literals (sheets : List Sheet) :
    stylePaths (sheets.map Sheet.literal) = .ok (sheets.map fun sheet => (sheet.value, sheet.span)) := by
  induction sheets with
  | nil => rfl
  | cons sheet rest ih => rw [List.map_cons, Sheet.literal, stylePaths, ih]; rfl

theorem isInlinable_iff {prop : Property} :
    isInlinable prop = true ↔ ∃ key span, ∃ sheets : List Sheet,
      prop = .keyValue key (.array span (sheets.map Sheet.literal)) := by
  constructor
  · intro h
    unfold isInlinable at h
    split at h
    · rename_i key span items
      cases hpaths : stylePaths items with
      | error reason => rw [hpaths] at h; cases h
      | ok paths =>
        obtain ⟨sheets, rfl, -⟩ := stylePaths_eq_ok hpaths
        exact ⟨key, span, sheets, rfl⟩
    · cases h
  · rintro ⟨key, span, sheets, rfl⟩
    rw [isInlinable, stylePaths_literals]
    rfl

theorem inlineStyles_literals (rename : Bool) (key : Key) (span : Span) (sheets : List Sheet) :
    inlineStyles rename (.keyValue key (.array span (sheets.map Sheet.literal))) =
      ⟨.keyValue (keyEdit rename styles key).1 (.array span (sheets.map Sheet.reference)),
        sheets.map Sheet.patch ++ (keyEdit rename styles key).2, []⟩ := by
  rw [inlineStyles, stylePaths_literals]
  simp only [List.map_map]
  rfl

theorem inlineStyles_of_not {prop : Property} (h : isInlinable prop = false) (rename : Bool) :
    (inlineStyles rename prop).result = prop ∧ (inlineStyles rename prop).patches = [] := by
  unfold inlineStyles
  split
  · rename_i key span items
    split
    · exact ⟨rfl, rfl⟩
    · rename_i paths hpaths
      rw [isInlinable, hpaths] at h
      cases h
  · exact ⟨rfl, rfl⟩
  · exact ⟨rfl, rfl⟩

theorem isTemplate_iff {prop : Property} :
    isTemplate prop = true ↔ ∃ key span value raw, prop = .keyValue key (.string span value raw) := by
  constructor
  · intro h
    unfold isTemplate at h
    split at h
    · exact ⟨_, _, _, _, rfl⟩
    · cases h
  · rintro ⟨key, span, value, raw, rfl⟩
    rfl

theorem inlineTemplate_string (keepUrl : Bool) (key : Key) (span : Span) (value raw : String) :
    inlineTemplate keepUrl (.keyValue key (.string span value raw)) =
      ⟨.keyValue (keyEdit (!keepUrl) template key).1 (requireNode value span),
        .replace span (Path.requireCall value) :: (keyEdit (!keepUrl) template key).2, []⟩ := by
  cases keepUrl <;> rfl

theorem inlineTemplate_of_not {prop : Property} (h : isTemplate prop = false) (keepUrl : Bool) :
    (inlineTemplate keepUrl prop).result = prop ∧ (inlineTemplate keepUrl prop).patches = [] := by
  unfold inlineTemplate
  split
  · cases h
  · exact ⟨rfl, rfl⟩
  · exact ⟨rfl, rfl⟩

/-! ## The edit of the template -/

/-- the edit of the first `templateUrl` of an object -/
def templateEdit (keepUrl : Bool) (props : List Property) : Edit (List Property) :=
  editAt props (indexOf? props templateUrl) (inlineTemplate keepUrl)

theorem editAt_of_some {props : List Property} {i : Nat} {prop : Property} (h : props[i]? = some prop)
    (f : Property → Edit Property) :
    editAt props (some i) f = ⟨props.set i (f prop).result, (f prop).patches, (f prop).notes⟩ := by
  simp only [editAt, h]

/-- the edit of a string literal -/
theorem templateEdit_string (keepUrl : Bool) {props : List Property} {t : Nat} {key : Key} {span : Span}
    {value raw : String} (ht : indexOf? props templateUrl = some t)
    (hprop : props[t]? = some (.keyValue key (.string span value raw))) :
    templateEdit keepUrl props =
      ⟨props.set t (.keyValue (keyEdit (!keepUrl) template key).1 (requireNode value span)),
        .replace span (Path.requireCall value) :: (keyEdit (!keepUrl) template key).2, []⟩ := by
  rw [templateEdit, ht, editAt_of_some hprop, inlineTemplate_string]

/-- what the edit of the template can do -/
inductive TemplateOutcome (keepUrl : Bool) (props : List Property) : List Property → List Patch → Prop where
  | untouched (h : ∀ prop, (named templateUrl props).head? = some prop → isTemplate prop = false) :
    TemplateOutcome keepUrl props props []
  | inlined {t : Nat} {key : Key} {span : Span} {value raw : String} (ht : indexOf? props templateUrl = some t)
    (hprop : props[t]? = some (.keyValue key (.string span value raw))) :
    TemplateOutcome keepUrl props
      (props.set t (.keyValue (keyEdit (!keepUrl) template key).1 (requireNode value span)))
      (.replace span (Path.requireCall value) :: (keyEdit (!keepUrl) template key).2)

theorem template_outcome (keepUrl : Bool) (props : List Property) :
    TemplateOutcome keepUrl props (templateEdit keepUrl props).result (templateEdit keepUrl props).patches := by
  cases ht : indexOf? props templateUrl with
  | none =>
    rw [templateEdit, ht]
    refine .untouched fun prop hprop => ?_
    rw [indexOf?_eq_none.1 ht] at hprop
    cases hprop
  | some t =>
    obtain ⟨prop, hprop, -, hfirst⟩ := getElem?_of_indexOf? ht
    cases hstring : isTemplate prop with
    | false =>
      obtain ⟨hresult, hpatches⟩ := inlineTemplate_of_not hstring keepUrl
      rw [templateEdit, ht, editAt_of_some hprop, hresult, hpatches, set_eq_self hprop]
      refine .untouched fun other hother => ?_
      rw [hfirst, Option.some.injEq] at hother
      rw [← hother, hstring]
    | true =>
      obtain ⟨key, span, value, raw, rfl⟩ := isTemplate_iff.1 hstring
      rw [templateEdit_string keepUrl ht hprop]
      exact .inlined ht hprop

/-- the edit of the template moves nothing -/
theorem map_span_templateEdit (keepUrl : Bool) (props : List Property) :
    (templateEdit keepUrl props).result.map Property.span = props.map Property.span := by
  have hedit := template_outcome keepUrl props
  generalize (templateEdit keepUrl props).result = result, (templateEdit keepUrl props).patches = patches at hedit
  cases hedit with
  | untouched => rfl
  | inlined ht hprop =>
    rw [List.map_set]
    refine set_eq_self ?_
    rw [List.getElem?_map, hprop]
    simp [Property.span, span_keyEdit]
    rfl

theorem length_templateEdit (keepUrl : Bool) (props : List Property) :
    (templateEdit keepUrl props).result.length = props.length := by
  simpa using congrArg List.length (map_span_templateEdit keepUrl props)

/-- the edit of the template leaves the other properties alone -/
theorem templateEdit_getElem? {props : List Property} {name : String} {i : Nat} (h : indexOf? props name = some i)
    (hname : name ≠ templateUrl) (keepUrl : Bool) : (templateEdit keepUrl props).result[i]? = props[i]? := by
  have hedit := template_outcome keepUrl props
  generalize (templateEdit keepUrl props).result = result, (templateEdit keepUrl props).patches = patches at hedit
  cases hedit with
  | untouched => rfl
  | inlined ht hprop => exact List.getElem?_set_ne (indexOf?_ne hname h ht).symm

/-! ## The edit of the object -/

/-- is there a first `styles` that has no value to move? -/
def isBlocked (props : List Property) : Bool :=
  (named styles props).head?.any fun prop => (value? prop).isNone

theorem isBlocked_of_none {props : List Property} (h : named styles props = []) : isBlocked props = false := by
  rw [isBlocked, h]
  rfl

theorem isBlocked_of_value {props : List Property} {s : Nat} {gone : Property} {value : Node}
    (hs : indexOf? props styles = some s) (hgone : props[s]? = some gone) (hvalue : value? gone = some value) :
    isBlocked props = false := by
  rw [isBlocked, (first_of_indexOf? hs hgone).2, Option.any_some, hvalue]
  rfl

/-- a first `styles` that is there and is not left alone has a value -/
theorem exists_value {props : List Property} (h : ¬ (named styles props = [] ∨ isBlocked props = true)) :
    ∃ s gone value, indexOf? props styles = some s ∧ props[s]? = some gone ∧ value? gone = some value := by
  rw [not_or] at h
  obtain ⟨gone, hfirst⟩ : ∃ gone, (named styles props).head? = some gone := ⟨_, List.head?_eq_some_head h.1⟩
  obtain ⟨s, hs, hgone⟩ := exists_indexOf?_of_head? hfirst
  rw [isBlocked, hfirst, Option.any_some, Option.isNone_iff_eq_none] at h
  obtain ⟨value, hvalue⟩ := Option.ne_none_iff_exists'.1 h.2
  exact ⟨s, gone, value, hs, hgone, hvalue⟩

/-- a new list of style sheets leaves the first `styles` alone, and so does the edit of the template -/
theorem getElem?_set_templateEdit {props : List Property} {u s : Nat} (hu : indexOf? props styleUrls = some u)
    (hs : indexOf? props styles = some s) (keepUrl : Bool) (list : Property) :
    ((templateEdit keepUrl props).result.set u list)[s]? = props[s]? := by
  rw [List.getElem?_set_ne (indexOf?_ne (by decide) hu hs), templateEdit_getElem? hs (by decide)]

/-- what the edit of an object can do -/
inductive Outcome (keepUrl : Bool) (props : List Property) : List Property → List Patch → Prop where
  /-- there are no style sheets to inline -/
  | untouched (h : ∀ prop, (named styleUrls props).head? = some prop → isInlinable prop = false) :
    Outcome keepUrl props (templateEdit keepUrl props).result (templateEdit keepUrl props).patches
  /-- the style sheets are inlined, and there is no `styles` to take entries from -/
  | listed {u : Nat} {key : Key} {span : Span} {sheets : List Sheet} (hu : indexOf? props styleUrls = some u)
    (hlist : props[u]? = some (.keyValue key (.array span (sheets.map Sheet.literal))))
    (hstyles : named styles props = [] ∨ isBlocked props = true) :
    Outcome keepUrl props
      ((templateEdit keepUrl props).result.set u
        (.keyValue (keyEdit (!keepUrl && !isBlocked props) styles key).1 (.array span (sheets.map Sheet.reference))))
      ((templateEdit keepUrl props).patches ++
        (sheets.map Sheet.patch ++ (keyEdit (!keepUrl && !isBlocked props) styles key).2))
  /-- the style sheets are inlined, and the entries of `styles` move behind them -/
  | folded {u s : Nat} {key : Key} {span : Span} {sheets : List Sheet} {gone : Property} {value : Node}
    (hu : indexOf? props styleUrls = some u)
    (hlist : props[u]? = some (.keyValue key (.array span (sheets.map Sheet.literal))))
    (hs : indexOf? props styles = some s) (hgone : props[s]? = some gone) (hvalue : value? gone = some value) :
    Outcome keepUrl props
      (((templateEdit keepUrl props).result.set u (.keyValue (keyEdit (!keepUrl) styles key).1
        (.array span (sheets.map Sheet.reference ++ mergedItems value)))).eraseIdx s)
      ((templateEdit keepUrl props).patches ++ (sheets.map Sheet.patch ++ (keyEdit (!keepUrl) styles key).2) ++
        (insertion span (sheets.map Sheet.literal) value ++ [removal props s gone]))

/-- the patch that takes a property out from between its neighbours -/
def takeOut (before : Option Span) (span : Span) : Option Span → Patch
  | some next => .remove span.lo next.lo
  | none =>
    match before with
    | some last => .remove last.hi span.hi
    | none => .remove span.lo span.hi

theorem takeOut_chunks (before : Option Span) (span : Span) (after : Option Span) :
    (takeOut before span after).chunks = [] := by
  cases after <;> cases before <;> rfl

theorem removal_eq (props : List Property) (i : Nat) (prop : Property) :
    removal props i prop = takeOut ((if i = 0 then none else props[i - 1]?).map Property.span) prop.span
      (props[i + 1]?.map Property.span) := by
  rw [removal]
  cases props[i + 1]? with
  | some next => rfl
  | none =>
    cases if i = 0 then none else props[i - 1]? with
    | some last => rfl
    | none => rfl

theorem removal_between (before : List Property) (prop : Property) (after : List Property) :
    removal (before ++ prop :: after) before.length prop =
      takeOut (before.getLast?.map Property.span) prop.span (after.head?.map Property.span) := by
  have hnext : (before ++ prop :: after)[before.length + 1]? = after.head? := by
    rw [List.getElem?_append_right (by omega), Nat.add_sub_cancel_left, List.getElem?_cons_succ, List.head?_eq_getElem?]
  have hlast :
      (if before.length = 0 then none else (before ++ prop :: after)[before.length - 1]?) = before.getLast? := by
    split
    · rename_i hlength
      rw [List.length_eq_zero_iff.1 hlength]
      rfl
    · rw [List.getElem?_append_left (by omega), List.getLast?_eq_getElem?]
  rw [removal_eq, hnext, hlast]

/-- the patch that takes a property out depends on the places of the properties only -/
theorem removal_congr {a b : List Property} (h : a.map Property.span = b.map Property.span) (i : Nat)
    (prop : Property) : removal a i prop = removal b i prop := by
  have hspan : ∀ j : Nat, a[j]?.map Property.span = b[j]?.map Property.span := by
    intro j
    rw [← List.getElem?_map, ← List.getElem?_map, h]
  have hbefore : (if i = 0 then none else a[i - 1]?).map Property.span =
      (if i = 0 then none else b[i - 1]?).map Property.span := by
    split
    · rfl
    · exact hspan (i - 1)
  rw [removal_eq, removal_eq, hspan, hbefore]

/-- putting entries at the end of a list, where `insertionPoint` says -/
def merge (props : List Property) (target source : Nat) : Edit (List Property) :=
  Id.run (mergeWith (fun span items => pure (insertionPoint span items)) props target source)

theorem merge_eq {props : List Property} {u s : Nat} {key : Key} {span : Span} {items : List Item} {gone : Property}
    {value : Node} (hgone : props[s]? = some gone) (hlist : props[u]? = some (.keyValue key (.array span items)))
    (hvalue : value? gone = some value) :
    merge props u s = ⟨(props.set u (.keyValue key (.array span (items ++ mergedItems value)))).eraseIdx s,
      insertion span items value ++ [removal props s gone], []⟩ := by
  simp only [merge, mergeWith, hgone, hlist, hvalue, insertion]
  rfl

theorem insertion_references (span : Span) (sheets : List Sheet) (value : Node) :
    insertion span (sheets.map Sheet.reference) value = insertion span (sheets.map Sheet.literal) value := by
  have hpoint : insertionPoint span (sheets.map Sheet.reference) = insertionPoint span (sheets.map Sheet.literal) := by
    rw [insertionPoint, insertionPoint, List.getLast?_map, List.getLast?_map]
    cases sheets.getLast? <;> rfl
  rw [insertion, insertion, hpoint, List.isEmpty_map, List.isEmpty_map]

/-- moving the entries of `styles` behind style sheets that are inlined already -/
theorem merge_listed (keepUrl : Bool) {props : List Property} {u s : Nat} {key : Key} {span : Span}
    {sheets : List Sheet} {gone : Property} {value : Node} (hu : indexOf? props styleUrls = some u)
    (hlist : props[u]? = some (.keyValue key (.array span (sheets.map Sheet.literal))))
    (hs : indexOf? props styles = some s) (hgone : props[s]? = some gone) (hvalue : value? gone = some value) :
    let renamed := (keyEdit (!keepUrl) styles key).1
    let listed := (templateEdit keepUrl props).result.set u (.keyValue renamed (.array span (sheets.map Sheet.reference)))
    merge listed u s = ⟨((templateEdit keepUrl props).result.set u (.keyValue renamed
      (.array span (sheets.map Sheet.reference ++ mergedItems value)))).eraseIdx s,
      insertion span (sheets.map Sheet.literal) value ++ [removal props s gone], []⟩ := by
  intro renamed listed
  have hgoneNow : listed[s]? = some gone := by rw [getElem?_set_templateEdit hu hs, hgone]
  have hlistNow : listed[u]? = some (.keyValue renamed (.array span (sheets.map Sheet.reference))) := by
    refine List.getElem?_set_self ?_
    rw [← templateEdit_getElem? hu (by decide)] at hlist
    exact (List.getElem?_eq_some_iff.1 hlist).1
  have hspans : listed.map Property.span = props.map Property.span := by
    rw [List.map_set, map_span_templateEdit]
    refine set_eq_self ?_
    rw [List.getElem?_map, hlist, Option.map_some, Property.span, Property.span, span_keyEdit]
    rfl
  rw [merge_eq hgoneNow hlistNow hvalue, List.set_set, insertion_references, removal_congr hspans]

/-- the edit of an object whose first `styleUrls` is at `u` -/
theorem inlineMetadata_of_some (keepUrl : Bool) {props : List Property} {u : Nat} {prop : Property}
    (hu : indexOf? props styleUrls = some u) (hprop : props[u]? = some prop) :
    let list := inlineStyles (!keepUrl && !isBlocked props) prop
    let second := (templateEdit keepUrl props).result.set u list.result
    let third := match if isInlinable prop && !isBlocked props then indexOf? props styles else none with
      | some s => merge second u s
      | none => ⟨second, [], []⟩
    (inlineMetadata keepUrl props).result = third.result ∧
      (inlineMetadata keepUrl props).patches =
        (templateEdit keepUrl props).patches ++ list.patches ++ third.patches := by
  have hsecond : (templateEdit keepUrl props).result[u]? = some prop := by
    rw [templateEdit_getElem? hu (by decide), hprop]
  have htemplate : editAt props (indexOf? props templateUrl) (inlineTemplate keepUrl) =
      templateEdit keepUrl props := rfl
  have hedit := fun f => editAt_of_some hsecond f
  cases hs : indexOf? props styles with
  | none =>
    have hfree := isBlocked_of_none (indexOf?_eq_none.1 hs)
    have hrename : ((none : Option Bool) != some false) = true := rfl
    simp [inlineMetadata, inlineMetadataWith, htemplate, hu, hs, hprop, hedit, hfree, hrename]
  | some s =>
    obtain ⟨gone, hgone, -, hfirst⟩ := getElem?_of_indexOf? hs
    have hblocked : isBlocked props = (value? gone).isNone := by rw [isBlocked, hfirst]; rfl
    have hrename : (some true != some false) = true := rfl
    cases hvalue : value? gone <;> cases hlist : isInlinable prop <;>
      simp [inlineMetadata, inlineMetadataWith, merge, htemplate, hu, hs, hprop, hedit, hblocked, hgone, hvalue, hlist,
        hrename]

section

variable (keepUrl : Bool) {props : List Property}

theorem inlineMetadata_untouched (h : ∀ prop, (named styleUrls props).head? = some prop → isInlinable prop = false) :
    (inlineMetadata keepUrl props).result = (templateEdit keepUrl props).result ∧
      (inlineMetadata keepUrl props).patches = (templateEdit keepUrl props).patches := by
  cases hu : indexOf? props styleUrls with
  | none =>
    simp only [inlineMetadata, inlineMetadataWith, hu]
    exact ⟨rfl, rfl⟩
  | some u =>
    obtain ⟨prop, hprop, -, hfirst⟩ := getElem?_of_indexOf? hu
    have hsecond : (templateEdit keepUrl props).result[u]? = some prop := by
      rw [templateEdit_getElem? hu (by decide), hprop]
    obtain ⟨hresult, hpatches⟩ := inlineMetadata_of_some keepUrl hu hprop
    obtain ⟨hsame, hnone⟩ := inlineStyles_of_not (h prop hfirst) (!keepUrl && !isBlocked props)
    rw [hresult, hpatches]
    simp [h prop hfirst, hsame, hnone, set_eq_self hsecond]

variable {u s : Nat} {key : Key} {span : Span} {sheets : List Sheet} (hu : indexOf? props styleUrls = some u)
  (hlist : props[u]? = some (.keyValue key (.array span (sheets.map Sheet.literal))))

include hu hlist

theorem inlineMetadata_listed (hstyles : named styles props = [] ∨ isBlocked props = true) :
    (inlineMetadata keepUrl props).result = (templateEdit keepUrl props).result.set u
        (.keyValue (keyEdit (!keepUrl && !isBlocked props) styles key).1 (.array span (sheets.map Sheet.reference))) ∧
      (inlineMetadata keepUrl props).patches = (templateEdit keepUrl props).patches ++
        (sheets.map Sheet.patch ++ (keyEdit (!keepUrl && !isBlocked props) styles key).2) := by
  have hnothing : (if !isBlocked props then indexOf? props styles else none) = none := by
    rcases hstyles with hnone | hblocked
    · rw [indexOf?_eq_none.2 hnone, ite_self]
    · rw [hblocked]
      rfl
  obtain ⟨hresult, hpatches⟩ := inlineMetadata_of_some keepUrl hu hlist
  rw [hresult, hpatches, inlineStyles_literals, isInlinable_iff.2 ⟨_, _, _, rfl⟩, Bool.true_and, hnothing]
  exact ⟨rfl, List.append_nil _⟩

theorem inlineMetadata_folded {gone : Property} {value : Node} (hs : indexOf? props styles = some s)
    (hgone : props[s]? = some gone) (hvalue : value? gone = some value) :
    (inlineMetadata keepUrl props).result = ((templateEdit keepUrl props).result.set u
        (.keyValue (keyEdit (!keepUrl) styles key).1
          (.array span (sheets.map Sheet.reference ++ mergedItems value)))).eraseIdx s ∧
      (inlineMetadata keepUrl props).patches = (templateEdit keepUrl props).patches ++
        (sheets.map Sheet.patch ++ (keyEdit (!keepUrl) styles key).2) ++
        (insertion span (sheets.map Sheet.literal) value ++ [removal props s gone]) := by
  obtain ⟨hresult, hpatches⟩ := inlineMetadata_of_some keepUrl hu hlist
  rw [hresult, hpatches, inlineStyles_literals, isInlinable_iff.2 ⟨_, _, _, rfl⟩, isBlocked_of_value hs hgone hvalue,
    Bool.true_and, Bool.not_false, if_pos rfl, hs, Bool.and_true]
  have hmerge := merge_listed keepUrl hu hlist hs hgone hvalue
  exact ⟨congrArg Edit.result hmerge, congrArg (_ ++ ·) (congrArg Edit.patches hmerge)⟩

end

/-- the edit can do nothing else -/
theorem outcome (keepUrl : Bool) (props : List Property) :
    Outcome keepUrl props (inlineMetadata keepUrl props).result (inlineMetadata keepUrl props).patches := by
  by_cases hsheets : ∀ prop, (named styleUrls props).head? = some prop → isInlinable prop = false
  · obtain ⟨hresult, hpatches⟩ := inlineMetadata_untouched keepUrl hsheets
    rw [hresult, hpatches]
    exact .untouched hsheets
  · simp only [not_forall, Bool.not_eq_false] at hsheets
    obtain ⟨prop, hfirst, hinlinable⟩ := hsheets
    obtain ⟨key, span, sheets, rfl⟩ := isInlinable_iff.1 hinlinable
    obtain ⟨u, hu, hlist⟩ := exists_indexOf?_of_head? hfirst
    by_cases hstyles : named styles props = [] ∨ isBlocked props = true
    · obtain ⟨hresult, hpatches⟩ := inlineMetadata_listed keepUrl hu hlist hstyles
      rw [hresult, hpatches]
      exact .listed hu hlist hstyles
    · obtain ⟨s, gone, value, hs, hgone, hvalue⟩ := exists_value hstyles
      obtain ⟨hresult, hpatches⟩ := inlineMetadata_folded keepUrl hu hlist hs hgone hvalue
      rw [hresult, hpatches]
      exact .folded hu hlist hs hgone hvalue

end ResourceInliner.Metadata
