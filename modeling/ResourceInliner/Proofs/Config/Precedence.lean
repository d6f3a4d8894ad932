/-
Which source of options decides. A field is what the last layer that sets it says. A host has up to two layers on top of
the built-in one: that of its option bag and that of its query; the bag is refused before the query, and both before a
dialect that is not known.

- `Layer.field_foldl`: a field of many layers merged, by induction on them.
- `Chosen`, `BagLayer`: the option bag that counts, and its layer. `QueryLayer`: the layer of a query.
- `Merged`: the configuration of two layers. `Resolved`: that of a host.
- `options_by_precedence`: merging, and what a host comes to.
-/
import Mathlib.Data.List.Induction
import ResourceInliner.Proofs.Config.Surfaces

namespace ResourceInliner

/-! ## Layers -/

namespace Layer

theorem empty_merge (layer : Layer) : empty.merge layer = layer := by
  rw [merge, empty, Option.or_none, Option.or_none]

theorem merge_assoc (a b c : Layer) : (a.merge b).merge c = a.merge (b.merge c) := by
  rw [merge, merge, merge, merge, Option.or_assoc, Option.or_assoc]

/-- a field of layers merged in order is what the last of them sets it to that sets it -/
theorem field_foldl {α : Type} {field : Layer → Option α} (hfield : ∀ a b, field (a.merge b) = (field b).or (field a))
    (base : Layer) (layers : List Layer) :
    field (layers.foldl merge base) = ((base :: layers).filterMap field).getLast? := by
  induction layers using List.reverseRecOn with
  | nil => cases h : field base <;> simp [h]
  | append_singleton layers last ih =>
    have hlast : ([last].filterMap field).getLast? = field last := by cases h : field last <;> simp [h]
    rw [List.foldl_append, List.foldl_cons, List.foldl_nil, hfield, ih, ← List.cons_append, List.filterMap_append,
      List.getLast?_append, hlast]

theorem keepUrl_foldl (layers : List Layer) :
    (layers.foldl merge builtin).keepUrl = (layers.filterMap keepUrl).getLast? :=
  field_foldl (fun _ _ => rfl) builtin layers

theorem parseModule_foldl (layers : List Layer) :
    (layers.foldl merge builtin).parseModule = some ((layers.filterMap parseModule).getLastD "typescript") := by
  have hfield : (layers.foldl merge builtin).parseModule = ((builtin :: layers).filterMap parseModule).getLast? :=
    field_foldl (fun _ _ => rfl) builtin layers
  have hbuiltin : builtin.parseModule = some "typescript" := rfl
  rw [hfield, List.filterMap_cons_some hbuiltin, List.getLast?_cons, List.getLastD_eq_getLast?]

end Layer

/-! ## The option bag -/

/-- there is this value under a name in the options of a host, and it is not null -/
def Offers (options : Option Json) (name : String) (bag : Json) : Prop :=
  ∃ entries : Entries Json, options = some (.object entries) ∧ entries.get? name = some bag ∧ bag ≠ .null

/-- the option bag that counts: that of the first of the two names that has one -/
inductive Chosen (options : Option Json) : Option Json → Prop where
  | first {bag : Json} (h : Offers options "ng2TemplateLoader" bag) : Chosen options (some bag)
  | second {bag : Json} (hfirst : ∀ other, ¬ Offers options "ng2TemplateLoader" other)
    (h : Offers options "angular2TemplateLoader" bag) : Chosen options (some bag)
  | neither (hfirst : ∀ bag, ¬ Offers options "ng2TemplateLoader" bag)
    (hsecond : ∀ bag, ¬ Offers options "angular2TemplateLoader" bag) : Chosen options none

/-- the layer of the options of a host, or why they are refused; without a bag it sets nothing -/
inductive BagLayer (options : Option Json) : Except OptionFault Layer → Prop where
  | bag {bag : Json} (h : Chosen options (some bag)) : BagLayer options (Layer.ofJson bag)
  | noBag (h : Chosen options none) : BagLayer options (.ok .empty)

section

variable {options : Option Json}

theorem bag?_eq_some_iff {name : String} {bag : Json} :
    (options.bind fun object => Layer.bag? object name) = some bag ↔ Offers options name bag := by
  rw [Offers]
  rcases options with - | object
  · simp
  · cases object with
    | object entries =>
      simp only [Option.bind_some, Layer.bag?, Option.filter_eq_some_iff]
      cases bag <;> simp
    | _ => simp [Layer.bag?]

theorem bag?_eq_none_iff {name : String} :
    (options.bind fun object => Layer.bag? object name) = none ↔ ∀ bag, ¬ Offers options name bag := by
  simp only [← bag?_eq_some_iff, Option.eq_none_iff_forall_ne_some]

theorem chosen_iff {found : Option Json} :
    (options.bind fun object => Layer.bagNames.findSome? (Layer.bag? object)) = found ↔ Chosen options found := by
  have hor : (options.bind fun object => Layer.bagNames.findSome? (Layer.bag? object)) =
      (options.bind fun object => Layer.bag? object "ng2TemplateLoader").or
        (options.bind fun object => Layer.bag? object "angular2TemplateLoader") := by
    cases options with
    | none => rfl
    | some object =>
      rw [Option.bind_some, Option.bind_some, Option.bind_some, Layer.bagNames, List.findSome?_cons]
      cases Layer.bag? object "ng2TemplateLoader" with
      | some bag => rfl
      | none =>
        rw [List.findSome?_cons]
        cases Layer.bag? object "angular2TemplateLoader" <;> rfl
  rw [hor]
  constructor
  · rintro rfl
    cases hfirst : options.bind fun object => Layer.bag? object "ng2TemplateLoader" with
    | some bag => exact .first (bag?_eq_some_iff.1 hfirst)
    | none =>
      rw [Option.none_or]
      cases hsecond : options.bind fun object => Layer.bag? object "angular2TemplateLoader" with
      | some bag => exact .second (bag?_eq_none_iff.1 hfirst) (bag?_eq_some_iff.1 hsecond)
      | none => exact .neither (bag?_eq_none_iff.1 hfirst) (bag?_eq_none_iff.1 hsecond)
  · intro hchosen
    cases hchosen with
    | first h => rw [bag?_eq_some_iff.2 h, Option.some_or]
    | second hfirst h => rw [bag?_eq_none_iff.2 hfirst, Option.none_or, bag?_eq_some_iff.2 h]
    | neither hfirst hsecond => rw [bag?_eq_none_iff.2 hfirst, bag?_eq_none_iff.2 hsecond, Option.none_or]

theorem ofOptions_iff {result : Except OptionFault Layer} :
    Layer.ofOptions options = result ↔ BagLayer options result := by
  rw [Layer.ofOptions]
  constructor
  · rintro rfl
    cases hchosen : options.bind fun object => Layer.bagNames.findSome? (Layer.bag? object) with
    | some bag => exact .bag (chosen_iff.1 hchosen)
    | none => exact .noBag (chosen_iff.1 hchosen)
  · intro hlayer
    cases hlayer with
    | bag h => rw [chosen_iff.2 h]
    | noBag h => rw [chosen_iff.2 h]

end

/-! ## The query -/

/-- the layer of a query, or why it is refused: because it is not read, or because what it is read as is no layer -/
inductive QueryLayer (query : String) : Except ConfigError Layer → Prop where
  | unreadable {error : ConfigError} (h : Query.parse query = .error error) : QueryLayer query (.error error)
  | noLayer {entries : Entries Json} {fault : OptionFault} (h : Query.parse query = .ok entries)
    (hfault : Layer.ofJson (.object entries) = .error fault) : QueryLayer query (.error (.invalidOption fault))
  | layer {entries : Entries Json} {found : Layer} (h : Query.parse query = .ok entries)
    (hfound : Layer.ofJson (.object entries) = .ok found) : QueryLayer query (.ok found)

theorem query_layer_iff {query : String} {result : Except ConfigError Layer} :
    Query.layer query = result ↔ QueryLayer query result := by
  rw [Query.layer]
  constructor
  · rintro rfl
    cases hparse : Query.parse query with
    | error error => exact .unreadable hparse
    | ok entries =>
      change QueryLayer query ((Layer.ofJson (.object entries)).mapError .invalidOption)
      cases hlayer : Layer.ofJson (.object entries) with
      | error fault => exact .noLayer hparse hlayer
      | ok found => exact .layer hparse hlayer
  · intro hlayer
    cases hlayer with
    | unreadable h =>
      rw [h]
      rfl
    | noLayer h hfault =>
      rw [h]
      change (Layer.ofJson _).mapError _ = _
      rw [hfault]
      rfl
    | layer h hfound =>
      rw [h]
      change (Layer.ofJson _).mapError _ = _
      rw [hfound]
      rfl

/-! ## The configuration -/

/-- the names a dialect goes by -/
def Dialect.names : Dialect → List String
  | .typescript => ["typescript", "ts", "recast/parsers/typescript"]
  | .babel => ["babel", "babylon", "recast/parsers/babel", "recast/parsers/babylon"]

theorem Dialect.ofName?_eq_some_iff {name : String} {dialect : Dialect} :
    Dialect.ofName? name = some dialect ↔ name ∈ dialect.names := by
  have hdisjoint : ∀ name ∈ Dialect.typescript.names, name ∉ Dialect.babel.names := by decide
  change (if name ∈ Dialect.typescript.names then some Dialect.typescript
    else if name ∈ Dialect.babel.names then some .babel else none) = some dialect ↔ _
  by_cases htypescript : name ∈ Dialect.typescript.names
  · rw [if_pos htypescript]
    cases dialect with
    | typescript => exact iff_of_true rfl htypescript
    | babel => exact iff_of_false nofun (hdisjoint name htypescript)
  · rw [if_neg htypescript]
    by_cases hbabel : name ∈ Dialect.babel.names
    · rw [if_pos hbabel]
      cases dialect with
      | typescript => exact iff_of_false nofun htypescript
      | babel => exact iff_of_true rfl hbabel
    · rw [if_neg hbabel]
      cases dialect with
      | typescript => exact iff_of_false nofun htypescript
      | babel => exact iff_of_false nofun hbabel

theorem Dialect.ofName?_eq_none_iff {name : String} :
    Dialect.ofName? name = none ↔ ∀ dialect : Dialect, name ∉ dialect.names := by
  simp only [← Dialect.ofName?_eq_some_iff, Option.eq_none_iff_forall_ne_some]

/-- The configuration of a loader-wide layer and that of a query on top of it. Only the name that is set last has to be
that of a dialect. -/
inductive Merged (loader query : Layer) : Except ConfigError Config → Prop where
  | unknown {name : String} (hname : query.parseModule.or loader.parseModule = some name)
    (h : ∀ dialect : Dialect, name ∉ dialect.names) : Merged loader query (.error (.unknownParser name))
  | known {name : String} {dialect : Dialect} (hname : query.parseModule.or loader.parseModule = some name)
    (h : name ∈ dialect.names) : Merged loader query (.ok ⟨(query.keepUrl.or loader.keepUrl).getD false, dialect⟩)
  | unset (hname : query.parseModule.or loader.parseModule = none) :
    Merged loader query (.ok ⟨(query.keepUrl.or loader.keepUrl).getD false, .typescript⟩)

theorem resolve_iff {loader query : Layer} {result : Except ConfigError Config} :
    Config.resolve loader query = result ↔ Merged loader query result := by
  have hkeepUrl : ((Layer.builtin.merge loader).merge query).keepUrl = query.keepUrl.or loader.keepUrl := by
    rw [Layer.merge_assoc]
    exact Option.or_none
  have hparseModule : ((Layer.builtin.merge loader).merge query).parseModule =
      some ((query.parseModule.or loader.parseModule).getD "typescript") := by
    rw [Layer.merge_assoc]
    exact Option.or_some
  rw [Config.resolve, hkeepUrl, hparseModule]
  constructor
  · rintro rfl
    cases hname : query.parseModule.or loader.parseModule with
    | none => exact .unset hname
    | some name =>
      cases hdialect : Dialect.ofName? name with
      | none =>
        simp only [Option.getD_some, hdialect]
        exact .unknown hname (Dialect.ofName?_eq_none_iff.1 hdialect)
      | some dialect =>
        simp only [Option.getD_some, hdialect]
        exact .known hname (Dialect.ofName?_eq_some_iff.1 hdialect)
  · intro hmerged
    cases hmerged with
    | unknown hname h =>
      simp only [hname, Option.getD_some, Dialect.ofName?_eq_none_iff.2 h]
    | known hname h =>
      simp only [hname, Option.getD_some, Dialect.ofName?_eq_some_iff.2 h]
      rfl
    | unset hname =>
      rw [hname]
      rfl

/-- what a host with these options and this query comes to -/
inductive Resolved (options : Option Json) (query : String) : Except ConfigError Config → Prop where
  /-- the option bag is no layer -/
  | badBag {fault : OptionFault} (h : BagLayer options (.error fault)) :
    Resolved options query (.error (.invalidOption fault))
  /-- the query is refused -/
  | badQuery {loader : Layer} {error : ConfigError} (hloader : BagLayer options (.ok loader))
    (h : QueryLayer query (.error error)) : Resolved options query (.error error)
  /-- there are two layers -/
  | merged {loader above : Layer} {result : Except ConfigError Config} (hloader : BagLayer options (.ok loader))
    (habove : QueryLayer query (.ok above)) (h : Merged loader above result) : Resolved options query result

theorem Host.config_iff (host : Host) (result : Except ConfigError Config) :
    host.config = result ↔ Resolved host.options host.query result := by
  rw [Host.config]
  constructor
  · rintro rfl
    cases hloader : Layer.ofOptions host.options with
    | error fault => exact .badBag (ofOptions_iff.1 hloader)
    | ok loader =>
      cases habove : Query.layer host.query with
      | error error => exact .badQuery (ofOptions_iff.1 hloader) (query_layer_iff.1 habove)
      | ok above => exact .merged (ofOptions_iff.1 hloader) (query_layer_iff.1 habove) (resolve_iff.1 rfl)
  · intro hresolved
    cases hresolved with
    | badBag h =>
      rw [ofOptions_iff.2 h]
      rfl
    | badQuery hloader h =>
      rw [ofOptions_iff.2 hloader, query_layer_iff.2 h]
      rfl
    | merged hloader habove h =>
      rw [ofOptions_iff.2 hloader, query_layer_iff.2 habove, ← resolve_iff.2 h]
      rfl

/-- **Main result.** Options by precedence. Layers merge one after the other, a layer that sets nothing changes nothing,
and each field of many layers on the built-in one is what the last layer that sets it says. A host is refused for its
option bag first, then for its query, then for the name of the dialect that is set last; otherwise each of the two
fields is what the query sets it to, or else the bag, or else what is built in. -/
theorem options_by_precedence :
    (∀ a b c : Layer, (a.merge b).merge c = a.merge (b.merge c)) ∧
    (∀ layer : Layer, Layer.empty.merge layer = layer ∧ layer.merge .empty = layer) ∧
    (∀ layers : List Layer, let merged := layers.foldl Layer.merge .builtin
      merged.keepUrl = (layers.filterMap Layer.keepUrl).getLast? ∧
      merged.parseModule = some ((layers.filterMap Layer.parseModule).getLastD "typescript")) ∧
    ∀ (host : Host) (result : Except ConfigError Config),
      host.config = result ↔ Resolved host.options host.query result := by
  refine ⟨Layer.merge_assoc, fun layer => ?_, fun layers => ?_, Host.config_iff⟩
  · exact ⟨Layer.empty_merge layer, Layer.merge_empty layer⟩
  · exact ⟨Layer.keepUrl_foldl layers, Layer.parseModule_foldl layers⟩

end ResourceInliner
