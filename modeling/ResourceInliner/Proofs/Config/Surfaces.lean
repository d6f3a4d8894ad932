/-
The places that options can be given at: to the plugin as a text, to a host as an option bag under either name, and as
an object in the query. An object means the same at each of them, and only two of its names mean anything.

- `Surface`: an object of options at one of the places, and what comes of it there.
- `configured`: the configuration, or the error, that the two settings stand for.
- `Surface.result_eq`: what comes of an object, at any place. `surfaces_agree`: two objects with the same settings, each
  at any place, come to the same.
-/
import ResourceInliner.Loader

namespace ResourceInliner

/-- the value that an object has for a setting; what is not there is null -/
def setting (entries : Entries Json) (name : String) : Json :=
  (entries.get? name).getD .null

/-- The configuration that two settings stand for. A setting of the wrong type is refused, `keepUrl` first, and then a
dialect that is not known. -/
def configured (keepUrl parseModule : Json) : Except ConfigError Config := do
  let keep ← match keepUrl with
    | .null => .ok false
    | .bool value => .ok value
    | other => .error (.invalidOption (.wrongType other .boolean))
  match parseModule with
  | .null => .ok ⟨keep, .typescript⟩
  | .string name =>
    match Dialect.ofName? name with
    | some dialect => .ok ⟨keep, dialect⟩
    | none => .error (.unknownParser name)
  | other => .error (.invalidOption (.wrongType other .string))

/-- does the text begin and end with a brace? -/
def Braced (text : String) : Prop :=
  text.toList.head? = some '{' ∧ text.toList.getLast? = some '}'

/-- an object of options and its text at a place where options can be given, and what comes of it there -/
inductive Surface (text : String) (entries : Entries Json) : Except ConfigError Config → Prop where
  /-- the text is passed to the plugin -/
  | plugin : Surface text entries (Config.ofPluginText (some text))
  /-- the object is the first option bag of a host -/
  | firstBag (host : Host) {bags : Entries Json} (hoptions : host.options = some (.object bags))
    (hbag : bags.get? "ng2TemplateLoader" = some (.object entries)) (hquery : host.query = "") :
    Surface text entries host.config
  /-- the object is the second option bag of a host, and there is nothing in the first -/
  | secondBag (host : Host) {bags : Entries Json} (hoptions : host.options = some (.object bags))
    (hfirst : bags.get? "ng2TemplateLoader" = none ∨ bags.get? "ng2TemplateLoader" = some .null)
    (hbag : bags.get? "angular2TemplateLoader" = some (.object entries)) (hquery : host.query = "") :
    Surface text entries host.config
  /-- the text is the query of a host without options, behind a question mark -/
  | query (host : Host) (hoptions : host.options = none) (hquery : host.query = "?" ++ text) :
    Surface text entries host.config

/-! ## What comes of an object -/

namespace Layer

theorem merge_empty (layer : Layer) : layer.merge empty = layer := rfl

/-- a layer comes to the same below the empty layer and above it -/
theorem resolve_comm (layer : Layer) : Config.resolve empty layer = Config.resolve layer empty := by
  rw [Config.resolve, Config.resolve, merge_empty, merge_empty]

/-- the layer of an object depends on the two settings only -/
theorem ofJson_object (entries : Entries Json) :
    ofJson (.object entries) = (do
      let keepUrl ← readKeepUrl (setting entries "keepUrl")
      let parseModule ← readParseModule (setting entries "parseModule")
      return ⟨keepUrl, parseModule⟩) := rfl

theorem ofJson_object_eq_ok_iff {entries : Entries Json} {layer : Layer} :
    ofJson (.object entries) = .ok layer ↔ readKeepUrl (setting entries "keepUrl") = .ok layer.keepUrl ∧
      readParseModule (setting entries "parseModule") = .ok layer.parseModule := by
  rw [ofJson_object]
  obtain ⟨keepUrl, parseModule⟩ := layer
  cases readKeepUrl (setting entries "keepUrl") with
  | error fault => simp [bind, Except.bind]
  | ok found =>
    cases readParseModule (setting entries "parseModule") with
    | error fault => simp [bind, Except.bind]
    | ok other => simp [bind, Except.bind, pure, Except.pure]

end Layer

/-- what comes of an object of options that is the only source of options -/
def resolveObject (entries : Entries Json) : Except ConfigError Config := do
  let layer ← (Layer.ofJson (.object entries)).mapError .invalidOption
  Config.resolve layer .empty

theorem resolveObject_eq (entries : Entries Json) :
    resolveObject entries = configured (setting entries "keepUrl") (setting entries "parseModule") := by
  rw [resolveObject, Layer.ofJson_object]
  generalize setting entries "keepUrl" = keepUrl, setting entries "parseModule" = parseModule
  cases keepUrl with
  | null | bool =>
    cases parseModule <;> rfl
  | _ => rfl

section

variable {text : String} {entries : Entries Json}

theorem Query.parse_braced (h : Braced text) (hparse : Json.parse text = .ok (.object entries)) :
    Query.parse ("?" ++ text) = .ok entries := by
  have hjson : Query.isJson text.toList = true := by rw [Query.isJson, h.1, h.2]; rfl
  have hbody : Query.parseBody text.toList = .ok entries := by
    rw [Query.parseBody, if_pos hjson, String.ofList_toList, hparse]
  rw [Query.parse, String.toList_append]
  change (Query.parseBody text.toList).mapError (ConfigError.invalidQuery ("?" ++ text)) = .ok entries
  rw [hbody]
  rfl

/-- the layer of an object in a query -/
theorem Query.layer_braced (h : Braced text) (hparse : Json.parse text = .ok (.object entries)) :
    Query.layer ("?" ++ text) = (Layer.ofJson (.object entries)).mapError .invalidOption := by
  rw [Query.layer, Query.parse_braced h hparse]
  rfl

/-- without a query, the option bag decides -/
theorem Host.config_of_bag {host : Host} {bag : Json} (hquery : host.query = "")
    (hbag : host.options.bind (fun options => Layer.bagNames.findSome? (Layer.bag? options)) = some bag) :
    host.config = (do
      let layer ← (Layer.ofJson bag).mapError .invalidOption
      Config.resolve layer .empty) := by
  rw [Host.config, Layer.ofOptions, hbag, hquery]
  rfl

theorem Host.config_of_query {host : Host} (hoptions : host.options = none) (hquery : host.query = "?" ++ text)
    (htext : Braced text) (hparse : Json.parse text = .ok (.object entries)) : host.config = resolveObject entries := by
  rw [Host.config, hoptions, hquery, Query.layer_braced htext hparse, resolveObject]
  cases Layer.ofJson (.object entries) with
  | error fault => rfl
  | ok layer => exact Layer.resolve_comm layer

/-- what comes of an object of options, at any place -/
theorem Surface.result_eq {result : Except ConfigError Config} (h : Surface text entries result)
    (hparse : Json.parse text = .ok (.object entries)) (htext : Braced text) :
    result = configured (setting entries "keepUrl") (setting entries "parseModule") := by
  rw [← resolveObject_eq]
  cases h with
  | plugin =>
    rw [Config.ofPluginText, hparse]
    rfl
  | firstBag host hoptions hbag hquery =>
    refine Host.config_of_bag hquery ?_
    rw [hoptions, Option.bind_some, Layer.bagNames, List.findSome?_cons, Layer.bag?, hbag]
    rfl
  | secondBag host hoptions hfirst hbag hquery =>
    refine Host.config_of_bag hquery ?_
    rw [hoptions, Option.bind_some, Layer.bagNames, List.findSome?_cons, List.findSome?_cons, Layer.bag?, Layer.bag?, hbag]
    rcases hfirst with hfirst | hfirst <;> rw [hfirst] <;> rfl
  | query host hoptions hquery => exact Host.config_of_query hoptions hquery htext hparse

end

/-- the names that mean something in an object of options -/
def settingNames : List String := ["keepUrl", "parseModule"]

/-- **Main result.** An object of options comes to the same at every place it can be given at, and so does every other
object with the same two settings: other names, and settings that are null, make no difference. -/
theorem surfaces_agree {text text' : String} {entries entries' : Entries Json}
    (hparse : Json.parse text = .ok (.object entries)) (htext : Braced text)
    (hparse' : Json.parse text' = .ok (.object entries')) (htext' : Braced text')
    (hsame : ∀ name ∈ settingNames, setting entries name = setting entries' name)
    {result result' : Except ConfigError Config} (h : Surface text entries result) (h' : Surface text' entries' result') :
    result = result' ∧ result = configured (setting entries "keepUrl") (setting entries "parseModule") := by
  have hkeepUrl := hsame "keepUrl" List.mem_cons_self
  have hparseModule := hsame "parseModule" (List.mem_cons_of_mem _ List.mem_cons_self)
  have hresult := h.result_eq hparse htext
  refine ⟨?_, hresult⟩
  rw [hresult, h'.result_eq hparse' htext', hkeepUrl, hparseModule]

/-- a text with a setting of the wrong type is refused alike by the plugin and as the second option bag of a host, and a
name that means nothing in a query comes to the same as a null in the plugin -/
theorem surfaces_agree_sample :
    let withBag : Host := { options := some (.object [("angular2TemplateLoader", .object [("keepUrl", .string "yes")])]) }
    let withQuery : Host := { query := "?" ++ "\x7b\"debug\":true\x7d" }
    Config.ofPluginText (some "\x7b\"keepUrl\":\"yes\"\x7d") = withBag.config ∧
      Config.ofPluginText (some "\x7b\"keepUrl\":\"yes\"\x7d") =
        .error (.invalidOption (.wrongType (.string "yes") .boolean)) ∧
      Config.ofPluginText (some "\x7b\"parseModule\":null\x7d") = withQuery.config := by
  intro withBag withQuery
  have hwrong : Json.parse "\x7b\"keepUrl\":\"yes\"\x7d" = .ok (.object [("keepUrl", .string "yes")]) := rfl
  have hnull : Json.parse "\x7b\"parseModule\":null\x7d" = .ok (.object [("parseModule", .null)]) := rfl
  have hother : Json.parse "\x7b\"debug\":true\x7d" = .ok (.object [("debug", .bool true)]) := rfl
  obtain ⟨hagree, hresult⟩ := surfaces_agree hwrong ⟨by decide, by decide⟩ hwrong ⟨by decide, by decide⟩
    (fun _ _ => rfl) .plugin (.secondBag withBag rfl (.inl rfl) rfl rfl)
  have hsame : ∀ name ∈ settingNames, setting [("parseModule", .null)] name = setting [("debug", .bool true)] name :=
    List.forall_mem_cons.2 ⟨rfl, List.forall_mem_singleton.2 rfl⟩
  exact ⟨hagree, hresult, (surfaces_agree hnull ⟨by decide, by decide⟩ hother ⟨by decide, by decide⟩ hsame .plugin
    (.query withQuery rfl rfl)).1⟩

end ResourceInliner
