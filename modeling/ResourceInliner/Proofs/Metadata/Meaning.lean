/-
What an object literal means. Its properties take effect one after the other: each writes a value to a name, a spread
writes all entries of its operand, and the last value written to a name is the one that counts. Lists are known entry by
entry; all other values are open.

- `Values`: a domain of values. `evaluate`: the object that properties make.
- `get?_evaluate`: the value of a name is the last one written to it.
- `Folding`: an edit moves the entries of `styles` behind the style sheets. `styles_of_folding`: what that does to the
  meaning of the object.
- `folding_changes_meaning`: where the list takes effect before something that writes `styles`, and where a list with
  holes is spread, the meaning changes.
-/
import ResourceInliner.Json.Value
import ResourceInliner.Proofs.Metadata.Rerun

namespace ResourceInliner.Metadata

/-- a domain of values -/
structure Values (α : Type) where
  /-- the list with these entries; `none` is a hole -/
  list : List (Option α) → α
  /-- what a hole reads as -/
  undefined : α
  /-- the entries that a value adds to a list it is spread into -/
  spread : α → List α
  /-- what a value writes to an object it is spread into, in order -/
  entries : α → List (String × α)
  /-- the value of a module reference -/
  reference : String → α
  /-- the value of any other expression -/
  expression : Node → α
  /-- the value of a method or an accessor -/
  function : Property → α
  /-- the name that a computed key or a number stands for -/
  keyName : Key → String
  list_injective : ∀ items items', list items = list items' → items = items'
  spread_list : ∀ items, spread (list items) = items.map fun item => item.getD undefined

section

variable {α : Type} (values : Values α)

mutual

/-- the value of an expression -/
def nodeValue : Node → α
  | .array _ items => values.list (itemsValue items)
  | .call span callee args types =>
    match callee, args with
    | .name _ "require", [.string _ path _] => values.reference path
    | _, _ => values.expression (.call span callee args types)
  | node => values.expression node

/-- the entries of a list literal -/
def itemsValue : List Item → List (Option α)
  | [] => []
  | item :: rest => itemValue item ++ itemsValue rest

/-- what an entry of a list literal adds to the list -/
def itemValue : Item → List (Option α)
  | .hole => [none]
  | .element node => [some (nodeValue node)]
  | .spread _ node => (values.spread (nodeValue node)).map some

end

/-- the name that a key stands for -/
def keyText : Key → String
  | .name _ name | .quoted _ name => name
  | key => values.keyName key

/-- what a property writes, in order -/
def writes : Property → List (String × α)
  | .keyValue key value => [(keyText values key, nodeValue values value)]
  | .shorthand span name => [(name, values.expression (.name span name))]
  | .withDefault _ _ name value => [(name, nodeValue values value)]
  | .method form span key parts => [(keyText values key, values.function (.method form span key parts))]
  | .spread _ operand => values.entries (nodeValue values operand)

/-- the object that properties make -/
def evaluate (props : List Property) : Entries α :=
  (props.flatMap (writes values)).foldl (fun object write => object.set write.1 write.2) []

/-- the values that a property writes to a name -/
def writtenTo (name : String) (prop : Property) : List α :=
  (writes values prop).filterMap fun write => if write.1 = name then some write.2 else none

/-- does nothing behind the property at an index write to the name? -/
def IsLast (name : String) (props : List Property) (i : Nat) : Prop :=
  ∀ prop ∈ props.drop (i + 1), writtenTo values name prop = []

/-! ## The last value written -/

theorem get?_foldl_set (written : List (String × α)) (object : Entries α) (name : String) :
    Entries.get? (written.foldl (fun object write => Entries.set object write.1 write.2) object) name =
      ((written.filterMap fun write => if write.1 = name then some write.2 else none).getLast?).or
        (Entries.get? object name) := by
  induction written generalizing object with
  | nil => rfl
  | cons write written ih =>
    rw [List.foldl_cons, ih, Entries.get?_set]
    by_cases h : write.1 = name
    · rw [if_pos h, List.filterMap_cons_some (by rw [if_pos h]), List.getLast?_cons]
      cases List.getLast? _ <;> rfl
    · rw [if_neg h, List.filterMap_cons_none (by rw [if_neg h])]

/-- the value of a name is the last one written to it -/
theorem get?_evaluate (props : List Property) (name : String) :
    (evaluate values props).get? name = (props.flatMap (writtenTo values name)).getLast? := by
  rw [evaluate, get?_foldl_set, List.filterMap_flatMap]
  exact Option.or_none

end

/-! ## Folding -/

/-- an edit inlines the first `styleUrls`, and moves the entries of the first `styles` behind its style sheets -/
structure Folding (props : List Property) where
  listAt : Nat
  stylesAt : Nat
  key : Key
  span : Span
  sheets : List Sheet
  gone : Property
  value : Node
  list_first : indexOf? props styleUrls = some listAt
  list_eq : props[listAt]? = some (.keyValue key (.array span (sheets.map Sheet.literal)))
  styles_first : indexOf? props styles = some stylesAt
  styles_eq : props[stylesAt]? = some gone
  styles_value : value? gone = some value

/-- the list that an edit makes of the two -/
def Folding.list {props : List Property} (fold : Folding props) (keepUrl : Bool) : Property :=
  .keyValue (keyEdit (!keepUrl) styles fold.key).1
    (.array fold.span (fold.sheets.map Sheet.reference ++ mergedItems fold.value))

theorem Sheet.literal_injective : Function.Injective Sheet.literal := by
  rintro ⟨span, value, raw⟩ ⟨span', value', raw'⟩ h
  simpa [Sheet.literal] using h

theorem Folding.result {props : List Property} (fold : Folding props) (keepUrl : Bool) :
    (inlineMetadata keepUrl props).result =
      ((templateEdit keepUrl props).result.set fold.listAt (fold.list keepUrl)).eraseIdx fold.stylesAt := by
  obtain ⟨u, s, key, span, sheets, gone, value, hu, hlist, hs, hgone, hvalue⟩ := fold
  have hedit := outcome keepUrl props
  generalize (inlineMetadata keepUrl props).result = result, (inlineMetadata keepUrl props).patches = patches at hedit ⊢
  cases hedit with
  | untouched h =>
    have hinlinable := h _ (first_of_indexOf? hu hlist).2
    rw [isInlinable_iff.2 ⟨_, _, _, rfl⟩] at hinlinable
    cases hinlinable
  | listed hu' hlist' hstyles =>
    have hfirst := (first_of_indexOf? hs hgone).2
    rcases hstyles with hnone | hblocked
    · rw [hnone] at hfirst
      cases hfirst
    · rw [isBlocked, hfirst, Option.any_some, hvalue] at hblocked
      cases hblocked
  | folded hu' hlist' hs' hgone' hvalue' =>
    obtain rfl := Option.some.inj (hu.symm.trans hu')
    obtain rfl := Option.some.inj (hs.symm.trans hs')
    obtain rfl := Option.some.inj (hgone.symm.trans hgone')
    obtain rfl := Option.some.inj (hvalue.symm.trans hvalue')
    have hsame := Option.some.inj (hlist.symm.trans hlist')
    simp only [Property.keyValue.injEq, Node.array.injEq] at hsame
    obtain ⟨rfl, rfl, hsheets⟩ := hsame
    obtain rfl := List.map_injective_iff.2 Sheet.literal_injective hsheets
    rfl

/-- an edit takes a property out exactly if it folds -/
theorem length_lt_iff (keepUrl : Bool) (props : List Property) :
    (inlineMetadata keepUrl props).result.length < props.length ↔ Nonempty (Folding props) := by
  have hlength := length_templateEdit keepUrl props
  constructor
  · intro hshorter
    have hedit := outcome keepUrl props
    generalize (inlineMetadata keepUrl props).result = result, (inlineMetadata keepUrl props).patches = patches
      at hedit hshorter
    cases hedit with
    | untouched => omega
    | listed =>
      rw [List.length_set] at hshorter
      omega
    | folded hu hlist hs hgone hvalue => exact ⟨⟨_, _, _, _, _, _, _, hu, hlist, hs, hgone, hvalue⟩⟩
  · rintro ⟨fold⟩
    have hstyles := indexOf?_lt fold.styles_first
    rw [fold.result, List.length_eraseIdx_of_lt (by rw [List.length_set]; omega), List.length_set]
    omega

/-- taking a property out is writing nothing in its place -/
theorem flatMap_eraseIdx {β γ : Type} (f : β → List γ) (l : List β) (i : Nat) :
    (l.eraseIdx i).flatMap f = ((l.map f).set i []).flatten := by
  rw [List.eraseIdx_eq_take_drop_succ, List.set_eq_take_append_cons_drop, List.length_map]
  split
  · simp [List.flatMap_def]
  · rename_i h
    rw [List.drop_of_length_le (by omega), List.take_of_length_le (by omega), List.append_nil, List.flatMap_def]

theorem getLast?_flatten_of_last {β : Type} {written : List (List β)} {i : Nat} {value : β}
    (h : written[i]? = some [value]) (hafter : ∀ j l, i < j → written[j]? = some l → l = []) :
    written.flatten.getLast? = some value := by
  obtain ⟨hi, hat⟩ := List.getElem?_eq_some_iff.1 h
  have hrest : (written.drop (i + 1)).flatten = [] := by
    rw [List.flatten_eq_nil_iff]
    intro l hl
    obtain ⟨k, hk⟩ := List.getElem?_of_mem hl
    rw [List.getElem?_drop] at hk
    exact hafter (i + 1 + k) l (by omega) hk
  have hsplit : written.flatten = (written.take i).flatten ++ [value] := by
    conv_lhs => rw [← List.take_append_drop i written, List.drop_eq_getElem_cons hi, hat]
    rw [List.flatten_append, List.flatten_cons, hrest, List.append_nil]
  rw [hsplit, List.getLast?_concat]

section

variable {α : Type} (values : Values α)

theorem writtenTo_of_writes {prop : Property} {other : String} {value : α}
    (h : writes values prop = [(other, value)]) (name : String) :
    writtenTo values name prop = if other = name then [value] else [] := by
  rw [writtenTo, h]
  by_cases hname : other = name <;> simp [hname]

theorem writtenTo_keyValue (name : String) (key : Key) (value : Node) :
    writtenTo values name (.keyValue key value) = if keyText values key = name then [nodeValue values value] else [] :=
  writtenTo_of_writes values rfl name

/-- the edit of the template changes nothing but what is written to the two names of the template -/
theorem map_writtenTo_templateEdit (keepUrl : Bool) (props : List Property) {name : String}
    (htemplateUrl : name ≠ templateUrl) (htemplate : name ≠ template) :
    (templateEdit keepUrl props).result.map (writtenTo values name) = props.map (writtenTo values name) := by
  have hedit := template_outcome keepUrl props
  generalize (templateEdit keepUrl props).result = result, (templateEdit keepUrl props).patches = patches at hedit ⊢
  cases hedit with
  | untouched => rfl
  | inlined ht hprop =>
    obtain ⟨at_, rfl⟩ := key_of_indexOf? ht hprop
    rw [List.map_set]
    refine set_eq_self ?_
    rw [List.getElem?_map, hprop, Option.map_some, writtenTo_keyValue, writtenTo_keyValue, Option.some.injEq,
      if_neg (show keyText values (.name at_ templateUrl) ≠ name from htemplateUrl.symm), if_neg]
    cases keepUrl
    · exact htemplate.symm
    · exact htemplateUrl.symm

variable {props : List Property}

/-- what an edit leaves of what is written to a name: it writes the list, and no longer what `styles` wrote -/
theorem Folding.written (fold : Folding props) (keepUrl : Bool) {name : String} (htemplateUrl : name ≠ templateUrl)
    (htemplate : name ≠ template) :
    (inlineMetadata keepUrl props).result.flatMap (writtenTo values name) =
      (((props.map (writtenTo values name)).set fold.listAt (writtenTo values name (fold.list keepUrl))).set
        fold.stylesAt []).flatten := by
  rw [fold.result, flatMap_eraseIdx, List.map_set, map_writtenTo_templateEdit values keepUrl props htemplateUrl htemplate]

theorem writes_of_name? {prop : Property} {name : String} (h : prop.name? = some name) :
    ∃ value, writes values prop = [(name, value)] ∧ ∀ node, value? prop = some node → value = nodeValue values node := by
  cases prop with
  | keyValue key value =>
    obtain ⟨at_, rfl⟩ := key_of_name? h
    exact ⟨_, rfl, fun node hnode => by rw [Option.some.inj hnode]⟩
  | shorthand span short =>
    obtain rfl := Option.some.inj h
    exact ⟨_, rfl, fun node hnode => by rw [← Option.some.inj hnode, nodeValue] <;> nofun⟩
  | method form span key parts =>
    cases key with
    | name at_ short =>
      obtain rfl := Option.some.inj h
      exact ⟨_, rfl, fun node hnode => by cases hnode⟩
    | _ => cases h
  | _ => cases h

theorem writtenTo_of_ne {prop : Property} {name other : String} (h : prop.name? = some other) (hne : other ≠ name) :
    writtenTo values name prop = [] := by
  obtain ⟨value, hwrites, -⟩ := writes_of_name? values h
  rw [writtenTo_of_writes values hwrites, if_neg hne]

/-- a property with a value writes it to its name -/
theorem writtenTo_of_value? {prop : Property} {name : String} {node : Node} (h : prop.name? = some name)
    (hvalue : value? prop = some node) : writtenTo values name prop = [nodeValue values node] := by
  obtain ⟨value, hwrites, hsame⟩ := writes_of_name? values h
  rw [writtenTo_of_writes values hwrites, if_pos rfl, hsame node hvalue]

/-- a name that neither of the two writes to keeps its value -/
theorem Folding.get?_other (fold : Folding props) (keepUrl : Bool) {name : String}
    (hname : name ∉ [templateUrl, template, styleUrls, styles]) :
    (evaluate values (inlineMetadata keepUrl props).result).get? name = (evaluate values props).get? name := by
  simp only [List.mem_cons, List.not_mem_nil, or_false, not_or] at hname
  obtain ⟨htemplateUrl, htemplate, hurls, hstyles⟩ := hname
  obtain ⟨at_, hkey⟩ := key_of_indexOf? fold.list_first fold.list_eq
  have hold : writtenTo values name _ = [] :=
    writtenTo_of_ne values (first_of_indexOf? fold.list_first fold.list_eq).1 (Ne.symm hurls)
  have hnew : writtenTo values name (fold.list keepUrl) = [] := by
    refine writtenTo_of_ne values (name?_keyEdit hkey _ _) ?_
    split
    · exact Ne.symm hstyles
    · exact Ne.symm hurls
  have hgone : writtenTo values name _ = [] :=
    writtenTo_of_ne values (first_of_indexOf? fold.styles_first fold.styles_eq).1 (Ne.symm hstyles)
  have hlistAt : (props.map (writtenTo values name))[fold.listAt]? = some [] := by
    rw [List.getElem?_map, fold.list_eq, Option.map_some, hold]
  have hstylesAt : (props.map (writtenTo values name))[fold.stylesAt]? = some [] := by
    rw [List.getElem?_map, fold.styles_eq, Option.map_some, hgone]
  rw [get?_evaluate, get?_evaluate, fold.written values keepUrl htemplateUrl htemplate, hnew, set_eq_self hlistAt,
    set_eq_self hstylesAt, List.flatMap_def]

/-! ## The folded list -/

theorem itemsValue_append (a b : List Item) : itemsValue values (a ++ b) = itemsValue values a ++ itemsValue values b := by
  induction a with
  | nil => rfl
  | cons item a ih => rw [List.cons_append, itemsValue, itemsValue, ih, List.append_assoc]

theorem itemsValue_references (sheets : List Sheet) : itemsValue values (sheets.map Sheet.reference) =
    sheets.map fun sheet => some (values.reference (Path.specifier sheet.value)) := by
  induction sheets with
  | nil => rfl
  | cons sheet sheets ih =>
    rw [List.map_cons, itemsValue, ih, Sheet.reference, itemValue, requireNode, nodeValue]
    rfl

/-- the entries of a list that moves: those of a list literal without its holes, those of any other list as they read -/
def foldedEntries (value : Node) (items : List (Option α)) : List (Option α) :=
  match value with
  | .array _ _ => items.filter Option.isSome
  | _ => items.map fun item => some (item.getD values.undefined)

theorem itemsValue_without_holes (items : List Item) :
    itemsValue values (items.filter fun item => item.span?.isSome) = (itemsValue values items).filter Option.isSome := by
  induction items with
  | nil => rfl
  | cons item items ih =>
    rw [itemsValue, List.filter_append, ← ih]
    cases item with
    | hole => rfl
    | element node => rfl
    | spread dots node =>
      rw [List.filter_cons_of_pos rfl, itemsValue, itemValue]
      congr 1
      rw [List.filter_eq_self.2]
      intro entry hentry
      obtain ⟨value, -, rfl⟩ := List.mem_map.1 hentry
      rfl

theorem itemsValue_mergedItems {value : Node} {items : List (Option α)}
    (h : nodeValue values value = values.list items) :
    itemsValue values (mergedItems value) = foldedEntries values value items := by
  cases value with
  | array span entries => rw [mergedItems, itemsValue_without_holes, values.list_injective _ _ h, foldedEntries]
  | _ =>
    rw [mergedItems, itemsValue, itemValue, h, values.spread_list, itemsValue, List.append_nil, List.map_map]
    · rfl
    · intro span entries hvalue
      cases hvalue

/-- what the folded list writes to `styles` -/
theorem Folding.writtenTo_list (fold : Folding props) {items : List (Option α)}
    (hitems : nodeValue values fold.value = values.list items) :
    writtenTo values styles (fold.list false) = [values.list
      (fold.sheets.map (fun sheet => some (values.reference (Path.specifier sheet.value))) ++
        foldedEntries values fold.value items)] := by
  obtain ⟨at_, hkey⟩ := key_of_indexOf? fold.list_first fold.list_eq
  rw [Folding.list, hkey, writtenTo_keyValue, nodeValue, itemsValue_append, itemsValue_references,
    itemsValue_mergedItems values hitems]
  rfl

/-- **Main result.** Folding leaves the other names alone, wherever the two properties stand. Where nothing behind them
writes `styles`, the folded list has a module reference for each style sheet, and then the entries that `styles` had. -/
theorem styles_of_folding (fold : Folding props) :
    (∀ name ∉ [templateUrl, template, styleUrls, styles],
      (evaluate values (inlineMetadata false props).result).get? name = (evaluate values props).get? name) ∧
    ∀ items : List (Option α), nodeValue values fold.value = values.list items →
      IsLast values styles props fold.stylesAt →
      (evaluate values props).get? styles = some (values.list items) ∧
      ((∀ (j : Nat) prop, fold.listAt < j → j ≠ fold.stylesAt → props[j]? = some prop →
          writtenTo values styles prop = []) →
        (evaluate values (inlineMetadata false props).result).get? styles = some (values.list
          (fold.sheets.map (fun sheet => some (values.reference (Path.specifier sheet.value))) ++
            foldedEntries values fold.value items))) := by
  refine ⟨fun name hname => fold.get?_other values false hname, fun items hitems hown => ⟨?_, fun hbehind => ?_⟩⟩
  · have hgone : writtenTo values styles fold.gone = [values.list items] := by
      rw [writtenTo_of_value? values (first_of_indexOf? fold.styles_first fold.styles_eq).1 fold.styles_value, hitems]
    rw [get?_evaluate, List.flatMap_def]
    refine getLast?_flatten_of_last (by rw [List.getElem?_map, fold.styles_eq, Option.map_some, hgone]) fun j l hj hl => ?_
    obtain ⟨prop, hprop, rfl⟩ := by rwa [List.getElem?_map, Option.map_eq_some_iff] at hl
    refine hown prop (List.mem_of_getElem? (i := j - (fold.stylesAt + 1)) ?_)
    rw [List.getElem?_drop, Nat.add_sub_cancel' hj, hprop]
  · have hne := indexOf?_ne (by decide) fold.list_first fold.styles_first
    rw [get?_evaluate, fold.written values false (by decide) (by decide), fold.writtenTo_list values hitems]
    refine getLast?_flatten_of_last (i := fold.listAt) ?_ fun j l hj hl => ?_
    · rw [List.getElem?_set_ne hne.symm]
      refine List.getElem?_set_self ?_
      rw [List.length_map]
      exact indexOf?_lt fold.list_first
    · by_cases hgap : fold.stylesAt = j
      · rw [List.getElem?_set, if_pos hgap] at hl
        split at hl
        · exact (Option.some.inj hl).symm
        · cases hl
      · rw [List.getElem?_set_ne hgap, List.getElem?_set_ne (by omega), List.getElem?_map, Option.map_eq_some_iff] at hl
        obtain ⟨prop, hprop, rfl⟩ := hl
        exact hbehind j prop hj (Ne.symm hgap) hprop

end

/-! ## Some objects -/

/-- a small domain of values -/
inductive Constant where
  | undefined
  | word (text : String)
  | reference (path : String)
  | list (items : List (Option Constant))

/-- names and strings stand for words; `theme` writes `styles`, and `sparse` is a list with a hole -/
def constants : Values Constant where
  list := .list
  undefined := .undefined
  spread
    | .list items => items.map fun item => item.getD .undefined
    | _ => []
  entries
    | .word "theme" => [("styles", .word "red")]
    | _ => [("selector", .word "s")]
  reference := .reference
  expression
    | .string _ value _ => .word value
    | .name _ "sparse" => .list [none]
    | .name _ name => .word name
    | _ => .undefined
  function _ := .undefined
  keyName _ := ""
  list_injective _ _ h := Constant.list.inj h
  spread_list _ := rfl

/-- the property `styleUrls: ['a']` -/
def sampleSheets : Property :=
  .keyValue (.name ⟨1, 10⟩ "styleUrls") (.array ⟨12, 17⟩ [.element (.string ⟨13, 16⟩ "a" "'a'")])

/-- the property `styles: ['b', , ]` -/
def sampleStyles : Property :=
  .keyValue (.name ⟨30, 36⟩ "styles") (.array ⟨38, 47⟩ [.element (.string ⟨39, 42⟩ "b" "'b'"), .hole])

/-- the object `{styleUrls: ['a'], ...other, styles: ['b', , ]}` -/
def sampleObject : List Property :=
  [sampleSheets, .spread ⟨20, 23⟩ (.name ⟨23, 28⟩ "other"), sampleStyles]

/-- where its two properties stand -/
def sampleFolding : Folding sampleObject where
  listAt := 0
  stylesAt := 2
  key := .name ⟨1, 10⟩ "styleUrls"
  span := ⟨12, 17⟩
  sheets := [⟨⟨13, 16⟩, "a", "'a'"⟩]
  gone := sampleStyles
  value := .array ⟨38, 47⟩ [.element (.string ⟨39, 42⟩ "b" "'b'"), .hole]
  list_first := by decide
  list_eq := rfl
  styles_first := by decide
  styles_eq := rfl
  styles_value := rfl

/-- `other` stands between the two properties and writes another name, which keeps its value -/
theorem styles_of_folding_sample :
    (evaluate constants sampleObject).get? styles = some (.list [some (.word "b"), none]) ∧
      (evaluate constants (inlineMetadata false sampleObject).result).get? styles =
        some (.list [some (.reference "./a"), some (.word "b")]) ∧
      (evaluate constants (inlineMetadata false sampleObject).result).get? "selector" = some (.word "s") := by
  obtain ⟨hother, hstyles⟩ := styles_of_folding constants sampleFolding
  have hown : IsLast constants styles sampleObject 2 := List.forall_mem_nil _
  obtain ⟨hbefore, hafter⟩ := hstyles [some (.word "b"), none] rfl hown
  have hbehind : ∀ (j : Nat) prop, 0 < j → j ≠ 2 → sampleObject[j]? = some prop → writtenTo constants styles prop = []
    | 1, _, _, _, hprop => by
      obtain rfl := Option.some.inj hprop
      rfl
    | 2, _, _, hne, _ => absurd rfl hne
    | _ + 3, _, _, _, hprop => by cases hprop
  refine ⟨hbefore, hafter hbehind, ?_⟩
  rw [hother "selector" (by decide)]
  rfl

/-! ## Where the meaning changes -/

/-- the name of a property that can be read off its text -/
def staticName? : Property → Option String
  | .keyValue (.name _ name) _ | .keyValue (.quoted _ name) _ => some name
  | .method _ _ (.name _ name) _ | .method _ _ (.quoted _ name) _ => some name
  | .shorthand _ name | .withDefault _ _ name _ => some name
  | _ => none

/-- Whatever stands between the two properties, folding puts the references before the entries of `styles`, drops holes,
and leaves other names alone. Only the names that can be read off are known to differ, and nothing behind either property
writes its name. -/
def KeepsMeaning {α : Type} (values : Values α) (props : List Property) : Prop :=
  ∀ (fold : Folding props) (items : List (Option α)),
    (props.filterMap staticName?).Nodup →
    nodeValue values fold.value = values.list items →
    IsLast values styleUrls props fold.listAt →
    IsLast values styles props fold.stylesAt →
    (evaluate values (inlineMetadata false props).result).get? styles = some (values.list
        (fold.sheets.map (fun sheet => some (values.reference (Path.specifier sheet.value))) ++
          items.filter Option.isSome)) ∧
      ∀ name ∉ [templateUrl, template, styleUrls, styles],
        (evaluate values (inlineMetadata false props).result).get? name = (evaluate values props).get? name

/-- the object `{styleUrls: ['a'], ...theme, styles: ['b']}` -/
def overwritten : List Property :=
  [sampleSheets, .spread ⟨20, 23⟩ (.name ⟨23, 28⟩ "theme"),
    .keyValue (.name ⟨30, 36⟩ "styles") (.array ⟨38, 43⟩ [.element (.string ⟨39, 42⟩ "b" "'b'")])]

/-- the object `{styleUrls: ['a'], styles: sparse}` -/
def withSparse : List Property :=
  [sampleSheets, .keyValue (.name ⟨20, 26⟩ "styles") (.name ⟨28, 34⟩ "sparse")]

/-- Folding changes the meaning of both: in the first, what `theme` writes to `styles` wins over the folded list; in the
second, the hole of the list that is spread reads as an entry. -/
theorem folding_changes_meaning : ¬ KeepsMeaning constants overwritten ∧ ¬ KeepsMeaning constants withSparse := by
  constructor
  · intro h
    let fold : Folding overwritten :=
      ⟨0, 2, _, _, [⟨⟨13, 16⟩, "a", "'a'"⟩], _, _, by decide, rfl, by decide, rfl, rfl⟩
    have hurls : IsLast constants styleUrls overwritten 0 :=
      List.forall_mem_cons.2 ⟨rfl, List.forall_mem_cons.2 ⟨rfl, List.forall_mem_nil _⟩⟩
    obtain ⟨hlist, -⟩ := h fold [some (.word "b")] (by decide) rfl hurls (List.forall_mem_nil _)
    cases hlist
  · intro h
    let fold : Folding withSparse :=
      ⟨0, 1, _, _, [⟨⟨13, 16⟩, "a", "'a'"⟩], _, _, by decide, rfl, by decide, rfl, rfl⟩
    have hurls : IsLast constants styleUrls withSparse 0 := List.forall_mem_cons.2 ⟨rfl, List.forall_mem_nil _⟩
    obtain ⟨hlist, -⟩ := h fold [none] (by decide) rfl hurls (List.forall_mem_nil _)
    cases hlist

end ResourceInliner.Metadata
