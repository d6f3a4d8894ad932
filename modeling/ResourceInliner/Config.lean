/-
Configuration. A `Layer` is a partial source of options; layers are merged, later ones over earlier ones, field by
field, and `Config.resolve` makes the merged layer a configuration.

- `Layer.ofJson`: the layer a JSON value describes. Entries with other names are left alone, so that one object can
  carry settings for several tools.
- `Layer.ofOptions`: the layer in the first option bag of a host.
- `Config.resolve`: built-in defaults, then the loader-wide layer, then the layer of the query.
-/
import ResourceInliner.Decimal.Shortest
import ResourceInliner.Json.Reader
import ResourceInliner.Text.Printable

namespace ResourceInliner

/-- the language that modules are written in -/
inductive Dialect where
  /-- typed scripts with decorators -/
  | typescript
  /-- scripts with decorators and markup literals -/
  | babel
  deriving DecidableEq, Repr

/-- what a dialect has beyond plain modules -/
structure Features where
  types : Bool
  markup : Bool
  decorators : Bool
  /-- decorators may stand in front of `export` -/
  decoratorsBeforeExport : Bool
  deriving DecidableEq, Repr

/-- the features of a dialect; both have decorators -/
def Dialect.features (dialect : Dialect) : Features where
  types := dialect == .typescript
  markup := dialect == .babel
  decorators := true
  decoratorsBeforeExport := true

/-- the dialect of a parser name -/
def Dialect.ofName? (name : String) : Option Dialect :=
  if name ∈ ["typescript", "ts", "recast/parsers/typescript"] then some .typescript
  else if name ∈ ["babel", "babylon", "recast/parsers/babel", "recast/parsers/babylon"] then some .babel
  else none

/-! ## Faults -/

/-- what a value should have been -/
inductive Wanted where
  | boolean
  | string
  | layer
  deriving DecidableEq, Repr

/-- the words for what was wanted -/
def Wanted.text : Wanted → String
  | .boolean => "a boolean"
  | .string => "a string"
  | .layer => "struct ConfigLayer"

/-- a JSON value in words, as a fault names it -/
def Json.describe : Json → String
  | .null => "null"
  | .bool value => "boolean \x60" ++ toString value ++ "\x60"
  | .number (.integer value) => "integer \x60" ++ toString value ++ "\x60"
  | .number (.float value) => "floating point \x60" ++ floatText jsonLayout value ++ "\x60"
  | .string value => "string " ++ quotedForReader value
  | .array _ => "sequence"
  | .object _ => "map"

/-- why options are refused -/
inductive OptionFault where
  /-- the options are no JSON text -/
  | unreadable (error : Json.ReadError)
  | wrongType (found : Json) (wanted : Wanted)
  /-- a list of options has more items than there are options -/
  | tooMany (count : Nat)

/-- a fault in words -/
def OptionFault.message : OptionFault → String
  | .unreadable error => error.message
  | .wrongType found wanted => "invalid type: " ++ found.describe ++ ", expected " ++ wanted.text
  | .tooMany count => "invalid length " ++ toString count ++ ", expected fewer elements in array"

/-- why a query is refused -/
inductive QueryFault where
  | noQuestionMark
  | notAnObject
  | unreadable (error : Json.ReadError)
  | illFormed (fault : Utf8Fault)

/-- a fault in words -/
def QueryFault.message : QueryFault → String
  | .noQuestionMark => "a query string must begin with \x60?\x60"
  | .notAnObject => "expected a JSON object"
  | .unreadable error => error.message
  | .illFormed fault => fault.message

/-- a build that is configured wrongly -/
inductive ConfigError where
  | unknownParser (name : String)
  | invalidQuery (query : String) (fault : QueryFault)
  | invalidOption (fault : OptionFault)

/-- the error in words -/
def ConfigError.message : ConfigError → String
  | .unknownParser name => "unknown parseModule \x60" ++ name ++ "\x60"
  | .invalidQuery query fault => "invalid loader query \x60" ++ query ++ "\x60: " ++ fault.message
  | .invalidOption fault => "invalid loader options: " ++ fault.message

/-! ## Layers -/

/-- a partial source of options -/
structure Layer where
  keepUrl : Option Bool
  parseModule : Option String
  deriving DecidableEq, Repr

namespace Layer

/-- the layer that sets nothing -/
def empty : Layer := ⟨none, none⟩

/-- the layer below all others -/
def builtin : Layer := ⟨none, some "typescript"⟩

/-- `later` on top of `earlier`: a field is what the later layer sets, else what the earlier one does -/
def merge (earlier later : Layer) : Layer :=
  ⟨later.keepUrl.or earlier.keepUrl, later.parseModule.or earlier.parseModule⟩

/-- a boolean field; null leaves it unset -/
def readKeepUrl : Json → Except OptionFault (Option Bool)
  | .null => .ok none
  | .bool value => .ok (some value)
  | other => .error (.wrongType other .boolean)

/-- a string field; null leaves it unset -/
def readParseModule : Json → Except OptionFault (Option String)
  | .null => .ok none
  | .string value => .ok (some value)
  | other => .error (.wrongType other .string)

/-- the layer that a value describes: an object by names, a list by positions -/
def ofJson : Json → Except OptionFault Layer
  | .object entries => do
    let keepUrl ← readKeepUrl ((Entries.get? entries "keepUrl").getD .null)
    let parseModule ← readParseModule ((Entries.get? entries "parseModule").getD .null)
    return ⟨keepUrl, parseModule⟩
  | .array items => do
    let keepUrl ← readKeepUrl (items[0]?.getD .null)
    let parseModule ← readParseModule (items[1]?.getD .null)
    if 2 < items.length then throw (.tooMany items.length)
    return ⟨keepUrl, parseModule⟩
  | other => .error (.wrongType other .layer)

/-- the names of the option bags of a host, in the order they are looked up -/
def bagNames : List String := ["ng2TemplateLoader", "angular2TemplateLoader"]

/-- a named value that is there and not null -/
def bag? (options : Json) (name : String) : Option Json :=
  match options with
  | .object entries => (Entries.get? entries name).filter fun value => match value with
    | .null => false
    | _ => true
  | _ => none

/-- the layer in the first option bag that is there; without one, the layer that sets nothing -/
def ofOptions (options : Option Json) : Except OptionFault Layer :=
  match options.bind fun options => bagNames.findSome? (bag? options) with
  | some bag => ofJson bag
  | none => .ok empty

end Layer

/-! ## The configuration -/

/-- the configuration of one run -/
structure Config where
  /-- keep the names of the keys whose values are inlined -/
  keepUrl : Bool
  dialect : Dialect
  deriving DecidableEq, Repr

/-- the configuration when nothing is set -/
def Config.default : Config := ⟨false, .typescript⟩

/-- the built-in layer, then the loader-wide one, then that of the query -/
def Config.resolve (loader query : Layer) : Except ConfigError Config :=
  let merged := (Layer.builtin.merge loader).merge query
  let keepUrl := merged.keepUrl.getD Config.default.keepUrl
  match merged.parseModule with
  | none => .ok ⟨keepUrl, Config.default.dialect⟩
  | some name =>
    match Dialect.ofName? name with
    | some dialect => .ok ⟨keepUrl, dialect⟩
    | none => .error (.unknownParser name)

/-- the configuration in the JSON text that a plugin host passes, if it passes one -/
def Config.ofPluginText (text : Option String) : Except ConfigError Config := do
  let layer ← match text with
    | none => pure Layer.empty
    | some text =>
      match Json.parse text with
      | .error error => throw (.invalidOption (.unreadable error))
      | .ok .null => pure Layer.empty
      | .ok value => (Layer.ofJson value).mapError .invalidOption
  Config.resolve layer Layer.empty

end ResourceInliner
