/-
Where module references come from, over any number of edits of one object. Every edit may keep the keys or rename them.

- `expressions`: what stands in an object, list literals entry by entry. `inlined`: the string literals that an edit puts
  references in the place of. `expressions_result`: an edit changes no other expression.
- `takesTexts`: an edit that leaves texts of `styles`, and nothing else, under `styleUrls`. `inlined_after_texts`: the
  next edit takes them for paths.
- `references_exact`: without such an edit before the last one, references come from paths only; with one, a text of
  `styles` becomes a reference.
-/
import Mathlib.Data.List.Perm.Subperm
import ResourceInliner.Proofs.Metadata.Meaning
import ResourceInliner.Proofs.Metadata.Plan

namespace ResourceInliner.Metadata

/-! ## The expressions of an object -/

/-- the expressions of a list literal, entry by entry -/
def itemExpressions (items : List Item) : List Node :=
  items.filterMap fun
    | .hole => none
    | .element node | .spread _ node => some node

/-- the expressions of a value: the entries of a list literal, or the value itself -/
def valueExpressions : Node → List Node
  | .array _ items => itemExpressions items
  | node => [node]

/-- the expressions of a property -/
def propertyExpressions : Property → List Node
  | .keyValue _ value => valueExpressions value
  | .shorthand span name => [.name span name]
  | .withDefault _ _ _ value => [value]
  | .method _ _ _ parts => parts
  | .spread _ operand => [operand]

/-- the expressions of an object -/
def expressions (props : List Property) : List Node :=
  props.flatMap propertyExpressions

/-- is the expression a string literal? -/
def isText : Node → Bool
  | .string _ _ _ => true
  | _ => false

/-- the module reference in the place of a string literal -/
def reference : Node → Node
  | .string span value _ => requireNode value span
  | node => node

theorem propertyExpressions_of_value? {prop : Property} {value : Node} (h : value? prop = some value) :
    propertyExpressions prop = valueExpressions value := by
  cases prop with
  | keyValue key value => rw [← Option.some.inj h, propertyExpressions]
  | shorthand span name => rw [← Option.some.inj h, propertyExpressions, valueExpressions]; nofun
  | _ => cases h

/-- a value adds its expressions to a list -/
theorem itemExpressions_mergedItems (value : Node) : itemExpressions (mergedItems value) = valueExpressions value := by
  cases value with
  | array span items =>
    rw [mergedItems, valueExpressions, itemExpressions, itemExpressions, List.filterMap_filter]
    refine List.filterMap_congr fun item _ => ?_
    cases item <;> rfl
  | _ => rfl

theorem itemExpressions_append (a b : List Item) : itemExpressions (a ++ b) = itemExpressions a ++ itemExpressions b :=
  List.filterMap_append

theorem isText_of_literal {sheets : List Sheet} {node : Node} (h : node ∈ itemExpressions (sheets.map Sheet.literal)) :
    isText node = true := by
  obtain ⟨item, hitem, hnode⟩ := List.mem_filterMap.1 h
  obtain ⟨sheet, -, rfl⟩ := List.mem_map.1 hitem
  obtain rfl := Option.some.inj hnode
  rfl

theorem itemExpressions_references (sheets : List Sheet) : itemExpressions (sheets.map Sheet.reference) =
    (itemExpressions (sheets.map Sheet.literal)).map reference := by
  rw [itemExpressions, itemExpressions, List.filterMap_map, List.filterMap_map, List.map_filterMap]
  rfl

/-! ## What an edit inlines -/

/-- the expressions of the first property of a name, if it is ready to be inlined -/
def firstPaths (name : String) (ready : Property → Bool) (props : List Property) : List Node :=
  (((named name props).head?.filter ready).map propertyExpressions).getD []

/-- the string literals that an edit puts references in the place of -/
def inlined (props : List Property) : List Node :=
  firstPaths templateUrl isTemplate props ++ firstPaths styleUrls isInlinable props

theorem firstPaths_of_not {name : String} {ready : Property → Bool} {props : List Property}
    (h : ∀ prop, (named name props).head? = some prop → ready prop = false) : firstPaths name ready props = [] := by
  rw [firstPaths]
  cases hfirst : (named name props).head? with
  | none => rfl
  | some prop => rw [Option.filter_some, h prop hfirst]; rfl

theorem firstPaths_of_head? {name : String} {ready : Property → Bool} {props : List Property} {prop : Property}
    (h : (named name props).head? = some prop) (hready : ready prop = true) :
    firstPaths name ready props = propertyExpressions prop := by
  rw [firstPaths, h, Option.filter_some, hready]
  rfl

theorem firstPaths_of_first {name : String} {ready : Property → Bool} {props : List Property} {i : Nat}
    {prop : Property} (hi : indexOf? props name = some i) (hprop : props[i]? = some prop) (hready : ready prop = true) :
    firstPaths name ready props = propertyExpressions prop :=
  firstPaths_of_head? (first_of_indexOf? hi hprop).2 hready

theorem isText_of_inlined {props : List Property} {node : Node} (h : node ∈ inlined props) : isText node = true := by
  have hfirst : ∀ name ready, node ∈ firstPaths name ready props →
      ∃ prop, ready prop = true ∧ node ∈ propertyExpressions prop := by
    intro name ready hmem
    rw [firstPaths] at hmem
    cases hprop : (named name props).head?.filter ready with
    | none => rw [hprop] at hmem; cases hmem
    | some prop => exact ⟨prop, (Option.filter_eq_some_iff.1 hprop).2, by rwa [hprop] at hmem⟩
  rcases List.mem_append.1 h with htemplate | hsheets
  · obtain ⟨prop, hready, hnode⟩ := hfirst _ _ htemplate
    obtain ⟨key, span, value, raw, rfl⟩ := isTemplate_iff.1 hready
    rw [List.mem_singleton.1 hnode]
    rfl
  · obtain ⟨prop, hready, hnode⟩ := hfirst _ _ hsheets
    obtain ⟨key, span, sheets, rfl⟩ := isInlinable_iff.1 hready
    exact isText_of_literal hnode

theorem flatMap_eraseIdx_perm {α β : Type} (f : α → List β) {l : List α} {i : Nat} {a : α} (h : l[i]? = some a) :
    (l.flatMap f).Perm ((l.eraseIdx i).flatMap f ++ f a) := by
  rw [flatMap_split f h, List.eraseIdx_eq_take_drop_succ, List.flatMap_append, List.append_assoc]
  exact List.perm_append_comm.append_left _

/-! ## What an edit leaves -/

/-- two exchanges, one after the other -/
theorem exchange_trans {a b c put₁ taken₁ put₂ taken₂ : List Node} (h₁ : (a ++ put₁).Perm (b ++ taken₁))
    (h₂ : (b ++ put₂).Perm (c ++ taken₂)) : (a ++ (put₁ ++ put₂)).Perm (c ++ (taken₁ ++ taken₂)) := by
  classical
  rw [List.perm_iff_count] at h₁ h₂ ⊢
  intro node
  have hcount₁ := h₁ node
  have hcount₂ := h₂ node
  simp only [List.count_append] at hcount₁ hcount₂ ⊢
  omega

/-- does the property hold paths that an edit inlines, if it is the first of its name? -/
def holdsPaths (prop : Property) : Bool :=
  prop.name? == some templateUrl && isTemplate prop || prop.name? == some styleUrls && isInlinable prop

section

variable (f : Property → List Node) (g : Node → List Node) (keepUrl : Bool) (props : List Property)
  (hpaths : ∀ prop, holdsPaths prop = true → f prop = propertyExpressions prop)
  (htemplate : ∀ key path span, f (.keyValue key (requireNode path span)) = g (requireNode path span))

include hpaths htemplate

theorem flatMap_templateEdit :
    (props.flatMap f ++ (firstPaths templateUrl isTemplate props).flatMap fun node => g (reference node)).Perm
      ((templateEdit keepUrl props).result.flatMap f ++ firstPaths templateUrl isTemplate props) := by
  have hedit := template_outcome keepUrl props
  generalize (templateEdit keepUrl props).result = result, (templateEdit keepUrl props).patches = patches at hedit ⊢
  cases hedit with
  | untouched h => rw [firstPaths_of_not h]; exact .refl _
  | @inlined t key span value raw ht hprop =>
    have hset := flatMap_set_perm f hprop (.keyValue (keyEdit (!keepUrl) template key).1 (requireNode value span))
    have hholds : holdsPaths (.keyValue key (.string span value raw)) = true := by
      simp [holdsPaths, (first_of_indexOf? ht hprop).1, isTemplate]
    rw [htemplate, hpaths _ hholds] at hset
    rw [firstPaths_of_first ht hprop rfl, propertyExpressions, valueExpressions, List.flatMap_singleton]
    · exact hset
    · nofun

/-- What an edit leaves of the properties, for any way `f` to list expressions of a property: it takes the paths that are
inlined out, and puts what counts of the references in. -/
theorem flatMap_result
    (hlisted : ∀ key span (sheets : List Sheet), f (.keyValue key (.array span (sheets.map Sheet.reference))) =
      (itemExpressions (sheets.map Sheet.reference)).flatMap g)
    (hfolded : ∀ {u s : Nat} {key : Key} {span : Span} {sheets : List Sheet} {gone : Property} {value : Node},
      indexOf? props styleUrls = some u → props[u]? = some (.keyValue key (.array span (sheets.map Sheet.literal))) →
      indexOf? props styles = some s → props[s]? = some gone → value? gone = some value →
      f (.keyValue (keyEdit (!keepUrl) styles key).1 (.array span (sheets.map Sheet.reference ++ mergedItems value))) =
        (itemExpressions (sheets.map Sheet.reference)).flatMap g ++ f gone) :
    (props.flatMap f ++ (inlined props).flatMap fun node => g (reference node)).Perm
      ((inlineMetadata keepUrl props).result.flatMap f ++ inlined props) := by
  have hfirst := flatMap_templateEdit f g keepUrl props hpaths htemplate
  have hedit := outcome keepUrl props
  rw [inlined, List.flatMap_append]
  generalize (inlineMetadata keepUrl props).result = result, (inlineMetadata keepUrl props).patches = patches at hedit ⊢
  have hold : ∀ {u : Nat} {key : Key} {span : Span} {sheets : List Sheet}, indexOf? props styleUrls = some u →
      props[u]? = some (.keyValue key (.array span (sheets.map Sheet.literal))) →
      f (.keyValue key (.array span (sheets.map Sheet.literal))) = itemExpressions (sheets.map Sheet.literal) ∧
      firstPaths styleUrls isInlinable props = itemExpressions (sheets.map Sheet.literal) := by
    intro u key span sheets hu hlist
    have hready := isInlinable_iff.2 ⟨key, span, sheets, rfl⟩
    rw [firstPaths_of_first hu hlist hready, hpaths _ (by simp [holdsPaths, (first_of_indexOf? hu hlist).1, hready])]
    exact ⟨rfl, rfl⟩
  cases hedit with
  | untouched h =>
    rw [firstPaths_of_not h, List.flatMap_nil, List.append_nil, List.append_nil]
    exact hfirst
  | @listed u key span sheets hu hlist hstyles =>
    obtain ⟨hlisted', hpaths'⟩ := hold hu hlist
    rw [← templateEdit_getElem? hu (by decide) keepUrl] at hlist
    have hset := flatMap_set_perm f hlist
      (.keyValue (keyEdit (!keepUrl && !isBlocked props) styles key).1 (.array span (sheets.map Sheet.reference)))
    rw [hlisted, hlisted', itemExpressions_references, List.flatMap_map] at hset
    rw [hpaths']
    exact exchange_trans hfirst hset
  | @folded u s key span sheets gone value hu hlist hs hgone hvalue =>
    obtain ⟨hlisted', hpaths'⟩ := hold hu hlist
    have hnew := hfolded hu hlist hs hgone hvalue
    generalize Property.keyValue (keyEdit (!keepUrl) styles key).1 _ = new at hnew ⊢
    rw [← templateEdit_getElem? hu (by decide) keepUrl] at hlist
    have hgoneNow : ((templateEdit keepUrl props).result.set u new)[s]? = some gone := by
      rw [getElem?_set_templateEdit hu hs, hgone]
    have hset := flatMap_set_perm f hlist new
    have herase := flatMap_eraseIdx_perm f hgoneNow
    rw [hnew, hlisted', itemExpressions_references, List.flatMap_map, ← List.append_assoc] at hset
    rw [hpaths']
    -- what the property that is taken out had is in the list now
    refine exchange_trans hfirst ((List.perm_append_right_iff (f gone)).1 ?_)
    refine hset.trans ((herase.append_right _).trans ?_)
    rw [List.append_assoc, List.append_assoc]
    exact List.perm_append_comm.append_left _

end

/-- an edit changes no expression other than the paths it inlines -/
theorem expressions_result (keepUrl : Bool) (props : List Property) :
    (expressions props ++ (inlined props).map reference).Perm
      (expressions (inlineMetadata keepUrl props).result ++ inlined props) := by
  rw [List.map_eq_flatMap]
  refine flatMap_result propertyExpressions (fun node => [node]) keepUrl props (fun _ _ => rfl) (fun _ _ _ => rfl)
    (fun key span sheets => (List.flatMap_singleton' _).symm) fun {u s key span sheets gone value} _ _ _ _ hvalue => ?_
  rw [propertyExpressions_of_value? hvalue, propertyExpressions, valueExpressions, itemExpressions_append,
    itemExpressions_mergedItems, List.flatMap_singleton']

/-- the paths of a property -/
def pathsOf (prop : Property) : List Node :=
  if holdsPaths prop then propertyExpressions prop else []

/-- does an edit leave texts of `styles`, and nothing else, under `styleUrls`? -/
def takesTexts (keepUrl : Bool) (props : List Property) : Bool :=
  keepUrl && (named styleUrls props).head?.any isEmptyList && ((named styles props).head?.bind value?).any fun value =>
    !(mergedItems value).isEmpty && (stylePaths (mergedItems value)).isOk

theorem pathsOf_of_ne {prop : Property} {name : String} (h : prop.name? = some name) (htemplate : name ≠ templateUrl)
    (hurls : name ≠ styleUrls) : pathsOf prop = [] := by
  simp [pathsOf, holdsPaths, h, htemplate, hurls]

theorem pathsOf_list {key : Key} {span : Span} {items : List Item} (h : (stylePaths items).isOk = false) :
    pathsOf (.keyValue key (.array span items)) = [] := by
  simp [pathsOf, holdsPaths, isTemplate, isInlinable, h]

theorem pathsOf_emptyList (key : Key) (span : Span) : pathsOf (.keyValue key (.array span [])) = [] :=
  ite_self []

/-- unless it takes texts, an edit leaves the paths that it does not inline, and no others -/
theorem paths_result {keepUrl : Bool} {props : List Property} (h : takesTexts keepUrl props = false) :
    (props.flatMap pathsOf).Perm ((inlineMetadata keepUrl props).result.flatMap pathsOf ++ inlined props) := by
  have hnone : ∀ nodes : List Node, nodes.flatMap (fun _ => ([] : List Node)) = [] := fun _ => by simp
  have hreferences : ∀ key span (sheet : Sheet) rest,
      pathsOf (.keyValue key (.array span (sheet.reference :: rest))) = [] := fun _ _ _ _ => pathsOf_list rfl
  have hperm := flatMap_result pathsOf (fun _ => []) keepUrl props (fun prop hprop => if_pos hprop)
    (fun key path span => by simp [pathsOf, holdsPaths, isTemplate, isInlinable, requireNode]) ?_ ?_
  · rwa [hnone, List.append_nil] at hperm
  · intro key span sheets
    rw [hnone]
    cases sheets with
    | nil => exact pathsOf_emptyList key span
    | cons sheet sheets => exact hreferences key span sheet _
  · intro u s key span sheets gone value hu hlist hs hgone hvalue
    obtain ⟨at_, hkey⟩ := key_of_indexOf? hu hlist
    rw [hnone, pathsOf_of_ne (first_of_indexOf? hs hgone).1 (by decide) (by decide), List.append_nil]
    cases keepUrl with
    | false => exact pathsOf_of_ne (name?_keyEdit hkey true _) (by decide) (by decide)
    | true =>
      cases sheets with
      | cons sheet sheets => exact hreferences _ span sheet _
      | nil =>
        rw [takesTexts, (first_of_indexOf? hu hlist).2, (first_of_indexOf? hs hgone).2] at h
        simp only [Option.any_some, Option.bind_some, hvalue, Bool.true_and, List.map_nil, isEmptyList] at h
        rw [List.map_nil, List.nil_append]
        cases hitems : mergedItems value with
        | nil => exact pathsOf_emptyList _ span
        | cons item items =>
          rw [hitems] at h
          exact pathsOf_list h

/-- the paths that an edit inlines stand under the two names of paths -/
theorem inlined_subperm (props : List Property) : (inlined props).Subperm (props.flatMap pathsOf) :=
  (List.sublist_append_right _ _).subperm.trans (paths_result (show takesTexts false props = false from rfl)).symm.subperm

/-! ## Texts of `styles` -/

/-- no edit puts a text into a `styles` that had it not -/
theorem texts_result (keepUrl : Bool) {props : List Property} {node : Node} (htext : isText node = true)
    (h : node ∈ expressions (named styles (inlineMetadata keepUrl props).result)) :
    node ∈ expressions (named styles props) := by
  obtain ⟨prop, hprop, hnode⟩ := List.mem_flatMap.1 h
  have hmem := (List.mem_filter.1 hprop).1
  have hfirst : prop ∈ (templateEdit keepUrl props).result → node ∈ expressions (named styles props) := by
    intro hmem
    have hnamed : prop ∈ named styles (templateEdit keepUrl props).result :=
      List.mem_filter.2 ⟨hmem, (List.mem_filter.1 hprop).2⟩
    rw [named_templateEdit keepUrl (by decide) (by decide)] at hnamed
    exact List.mem_flatMap.2 ⟨prop, hnamed, hnode⟩
  have hlist : ∀ key span (sheets : List Sheet) (items : List Item),
      prop = .keyValue key (.array span (sheets.map Sheet.reference ++ items)) → node ∈ itemExpressions items := by
    rintro key span sheets items rfl
    rw [propertyExpressions, valueExpressions, itemExpressions_append, itemExpressions_references] at hnode
    refine (List.mem_append.1 hnode).resolve_left fun hreference => ?_
    obtain ⟨literal, hliteral, rfl⟩ := List.mem_map.1 hreference
    cases literal with
    | string => cases htext
    | _ => cases isText_of_literal hliteral
  have hedit := outcome keepUrl props
  generalize (inlineMetadata keepUrl props).result = result, (inlineMetadata keepUrl props).patches = patches at hedit hmem
  cases hedit with
  | untouched => exact hfirst hmem
  | @listed u key span sheets hu hlist' hstyles =>
    rcases List.mem_or_eq_of_mem_set hmem with hold | hnew
    · exact hfirst hold
    · cases hlist _ span sheets [] (by rw [hnew, List.append_nil])
  | @folded u s key span sheets gone value hu hlist' hs hgone hvalue =>
    rcases List.mem_or_eq_of_mem_set (List.mem_of_mem_eraseIdx hmem) with hold | hnew
    · exact hfirst hold
    · have hmoved := hlist _ span sheets _ hnew
      rw [itemExpressions_mergedItems, ← propertyExpressions_of_value? hvalue] at hmoved
      have hfirst := (first_of_indexOf? hs hgone).2
      exact List.mem_flatMap.2 ⟨gone, List.mem_of_head? hfirst, hmoved⟩

/-- after an edit that takes texts, the next edit inlines one of them -/
theorem inlined_after_texts {keepUrl : Bool} {props : List Property} (h : takesTexts keepUrl props = true) :
    ∃ node ∈ inlined (inlineMetadata keepUrl props).result, node ∈ expressions (named styles props) := by
  rw [takesTexts, Bool.and_eq_true, Bool.and_eq_true, Option.any_eq_true, Option.any_eq_true] at h
  obtain ⟨⟨rfl, list, hlist, hempty⟩, value, hvalue, htexts⟩ := h
  obtain ⟨gone, hgone, hvalue⟩ := Option.bind_eq_some_iff.1 hvalue
  obtain ⟨u, hu, hlistAt⟩ := exists_indexOf?_of_head? hlist
  obtain ⟨s, hs, hgoneAt⟩ := exists_indexOf?_of_head? hgone
  obtain ⟨key, span, rfl⟩ : ∃ key span, list = .keyValue key (.array span []) := by
    unfold isEmptyList at hempty
    split at hempty
    · exact ⟨_, _, rfl⟩
    · cases hempty
  obtain ⟨hsome, hsheets⟩ := Bool.and_eq_true_iff.1 htexts
  obtain ⟨paths, hpaths⟩ : ∃ paths, stylePaths (mergedItems value) = .ok paths := by
    cases hpaths : stylePaths (mergedItems value) with
    | error reason => rw [hpaths] at hsheets; cases hsheets
    | ok paths => exact ⟨paths, rfl⟩
  obtain ⟨sheets, hitems, -⟩ := stylePaths_eq_ok hpaths
  let fold : Folding props := ⟨u, s, key, span, [], gone, value, hu, hlistAt, hs, hgoneAt, hvalue⟩
  have hlist' : fold.list true = .keyValue key (.array span (sheets.map Sheet.literal)) := by
    rw [← hitems]
    rfl
  have hname : (fold.list true).name? = some styleUrls := by
    obtain ⟨at_, rfl⟩ := key_of_indexOf? hu hlistAt
    rfl
  have hfirst : (named styleUrls (inlineMetadata true props).result).head? = some (fold.list true) := by
    have hmid := hu
    rw [← indexOf?_templateEdit true (by decide) (by decide)] at hmid
    rw [fold.result, named_eraseIdx_of_ne, named_set_of_first hmid, named_cons_of_eq hname]
    · rfl
    · intro old hold
      rw [getElem?_set_templateEdit hu hs] at hold
      exact name?_ne_of_indexOf? hs (by decide) old hold
  have hready : isInlinable (fold.list true) = true := isInlinable_iff.2 ⟨key, span, sheets, hlist'⟩
  have hpathsNow := firstPaths_of_head? hfirst hready
  rw [hlist', propertyExpressions, valueExpressions, ← hitems, itemExpressions_mergedItems,
    ← propertyExpressions_of_value? hvalue] at hpathsNow
  obtain ⟨node, hnode⟩ : ∃ node, node ∈ propertyExpressions gone := by
    rw [propertyExpressions_of_value? hvalue, ← itemExpressions_mergedItems, hitems]
    cases sheets with
    | nil => rw [hitems] at hsome; cases hsome
    | cons sheet sheets => exact ⟨_, List.mem_cons_self⟩
  refine ⟨node, List.mem_append_right _ (hpathsNow ▸ hnode), ?_⟩
  exact List.mem_flatMap.2 ⟨gone, List.mem_of_head? hgone, hnode⟩

/-! ## Edits one after the other -/

/-- the object after a number of edits -/
def editAll : List Bool → List Property → List Property
  | [], props => props
  | keepUrl :: rest, props => editAll rest (inlineMetadata keepUrl props).result

/-- the string literals that the edits put references in the place of -/
def inlinedAll : List Bool → List Property → List Node
  | [], _ => []
  | keepUrl :: rest, props => inlined props ++ inlinedAll rest (inlineMetadata keepUrl props).result

/-- does no edit before the last one take texts? -/
def spares : List Bool → List Property → Bool
  | [], _ => true
  | keepUrl :: rest, props =>
    (rest.isEmpty || !takesTexts keepUrl props) && spares rest (inlineMetadata keepUrl props).result

theorem isText_of_inlinedAll (keeps : List Bool) {props : List Property} {node : Node}
    (h : node ∈ inlinedAll keeps props) : isText node = true := by
  induction keeps generalizing props with
  | nil => cases h
  | cons keepUrl rest ih =>
    rcases List.mem_append.1 h with hfirst | hrest
    · exact isText_of_inlined hfirst
    · exact ih hrest

/-- edits change no expression other than the literals they inline -/
theorem expressions_editAll (keeps : List Bool) (props : List Property) :
    (expressions props ++ (inlinedAll keeps props).map reference).Perm
      (expressions (editAll keeps props) ++ inlinedAll keeps props) := by
  induction keeps generalizing props with
  | nil => exact .refl _
  | cons keepUrl rest ih =>
    rw [inlinedAll, List.map_append, editAll]
    exact exchange_trans (expressions_result keepUrl props) (ih (inlineMetadata keepUrl props).result)

theorem inlinedAll_subperm {keeps : List Bool} {props : List Property} (h : spares keeps props = true) :
    (inlinedAll keeps props).Subperm (props.flatMap pathsOf) := by
  induction keeps generalizing props with
  | nil => exact List.nil_subperm
  | cons keepUrl rest ih =>
    obtain ⟨hlast, hrest⟩ := Bool.and_eq_true_iff.1 h
    cases rest with
    | nil =>
      rw [inlinedAll, inlinedAll, List.append_nil]
      exact inlined_subperm props
    | cons next rest =>
      have htakes : takesTexts keepUrl props = false := by simpa using hlast
      refine ((List.subperm_append_left _).2 (ih hrest)).trans ?_
      exact (List.perm_append_comm.trans (paths_result htakes).symm).subperm

/-- once texts are taken before the last edit, one of them is inlined -/
theorem text_inlined {keeps : List Bool} {props : List Property} (h : spares keeps props = false) :
    ∃ node ∈ inlinedAll keeps props, node ∈ expressions (named styles props) := by
  induction keeps generalizing props with
  | nil => cases h
  | cons keepUrl rest ih =>
    cases hrest : spares rest (inlineMetadata keepUrl props).result with
    | false =>
      obtain ⟨node, hnode, hstyles⟩ := ih hrest
      exact ⟨node, List.mem_append_right _ hnode, texts_result keepUrl (isText_of_inlinedAll rest hnode) hstyles⟩
    | true =>
      rw [spares, hrest, Bool.and_true, Bool.or_eq_false_iff] at h
      obtain ⟨hmore, htakes⟩ := h
      cases rest with
      | nil => cases hmore
      | cons next rest =>
        obtain ⟨node, hnode, hstyles⟩ := inlined_after_texts (by simpa using htakes)
        exact ⟨node, List.mem_append_right _ (List.mem_append_left _ hnode), hstyles⟩

/-! ## Where references come from -/

/-- is the property named as one with paths? -/
def isUrl (prop : Property) : Bool :=
  prop.name? == some templateUrl || prop.name? == some styleUrls

theorem paths_sublist (props : List Property) :
    (props.flatMap pathsOf).Sublist (expressions (props.filter isUrl)) := by
  induction props with
  | nil => exact .refl _
  | cons prop props ih =>
    rw [List.flatMap_cons]
    cases hurl : isUrl prop with
    | true =>
      rw [List.filter_cons_of_pos hurl, expressions, List.flatMap_cons]
      refine List.Sublist.append ?_ ih
      rw [pathsOf]
      split
      · exact .refl _
      · exact List.nil_sublist _
    | false =>
      obtain ⟨htemplate, hsheets⟩ := Bool.or_eq_false_iff.1 hurl
      rw [List.filter_cons_of_neg (by rw [hurl]; decide), pathsOf, if_neg (by simp [holdsPaths, htemplate, hsheets])]
      exact ih

/-- **Main result.** The literals that any number of edits inline are string literals, and no other expression changes.
If no edit before the last one takes texts, they all stood under `templateUrl` or `styleUrls`, and every expression of the
other properties is still there. Otherwise one of them stood in `styles`. -/
theorem references_exact (keeps : List Bool) (props : List Property) :
    (∀ node ∈ inlinedAll keeps props, isText node = true) ∧
    (expressions props ++ (inlinedAll keeps props).map reference).Perm
      (expressions (editAll keeps props) ++ inlinedAll keeps props) ∧
    (spares keeps props = true → ∃ left,
      (expressions (props.filter isUrl)).Perm (inlinedAll keeps props ++ left) ∧
      (expressions (editAll keeps props)).Perm
        ((inlinedAll keeps props).map reference ++ left ++ expressions (props.filter fun prop => !isUrl prop))) ∧
    (spares keeps props = false → ∃ node ∈ inlinedAll keeps props, node ∈ expressions (named styles props)) := by
  refine ⟨fun node hnode => isText_of_inlinedAll keeps hnode, expressions_editAll keeps props, fun h => ?_, text_inlined⟩
  obtain ⟨paths, hpaths, hsublist⟩ := (inlinedAll_subperm h).trans (paths_sublist props).subperm
  obtain ⟨left, hleft⟩ := hsublist.exists_perm_append
  replace hleft := hleft.trans (hpaths.append_right left)
  have hsplit : (expressions (props.filter isUrl) ++ expressions (props.filter fun prop => !isUrl prop)).Perm
      (expressions props) := by
    rw [expressions, expressions, ← List.flatMap_append]
    exact (List.filter_append_perm isUrl props).flatMap_right _
  have hall := expressions_editAll keeps props
  refine ⟨left, hleft, ?_⟩
  classical
  rw [List.perm_iff_count] at hleft hsplit hall ⊢
  intro node
  have h₁ := hleft node
  have h₂ := hsplit node
  have h₃ := hall node
  simp only [List.count_append] at h₁ h₂ h₃ ⊢
  omega

/-- the object `{styleUrls: ['a'], styles: ['b']}` keeps its text in three edits -/
theorem references_exact_sample :
    let props : List Property := [sampleSheets, sampleStyles]
    spares [true, false, true] props = true ∧
      ∃ left, (expressions (props.filter isUrl)).Perm (inlinedAll [true, false, true] props ++ left) := by
  intro props
  have hspares : spares [true, false, true] props = true := by decide
  obtain ⟨left, hleft, -⟩ := (references_exact [true, false, true] props).2.2.1 hspares
  exact ⟨hspares, left, hleft⟩

/-- the text `'.x{}'` -/
def rule : Node := .string ⟨26, 32⟩ ".x{}" "'.x{}'"

/-- the object `{styleUrls: [], styles: ['.x{}']}` -/
def emptySheets : List Property :=
  [.keyValue (.name ⟨1, 10⟩ "styleUrls") (.array ⟨12, 14⟩ []),
    .keyValue (.name ⟨16, 22⟩ "styles") (.array ⟨24, 33⟩ [.element rule])]

/-- Two edits that keep the keys make a module reference of a style text. -/
theorem text_becomes_reference :
    (¬ ∀ keeps, ∀ node ∈ inlinedAll keeps emptySheets, node ∈ expressions (emptySheets.filter isUrl)) ∧
      rule ∈ expressions (named styles emptySheets) ∧
      editAll [true, true] emptySheets =
        [.keyValue (.name ⟨1, 10⟩ "styleUrls") (.array ⟨12, 14⟩ [.element (requireNode ".x{}" ⟨26, 32⟩)])] := by
  refine ⟨fun h => ?_, List.mem_singleton.2 rfl, rfl⟩
  cases h [true, true] rule (List.mem_singleton.2 rfl)

end ResourceInliner.Metadata
