/-
Inlining in the metadata of one component. The values of `templateUrl` and `styleUrls` become module references, and the
entries of a `styles` list move behind the inlined style sheets. Properties of any other shape are left as they are.

- `inlineMetadata`: the new properties, with the text patches that make the same change to the source and notes on what
  was skipped.
- `inlineMetadataWith`: the same over a monad, with an argument for how the place of merged entries is worked out. Only
  there does an edit calculate with positions; `inlineMetadata` lets them wrap around.
-/
import ResourceInliner.Config
import ResourceInliner.Patch
import ResourceInliner.Path
import ResourceInliner.Tree

namespace ResourceInliner

/-- why something was left as it is -/
inductive SkipReason where
  | notKeyValue
  | notString
  | notArray
  | elementNotString
  | spreadOrHole
  | notValue
  deriving DecidableEq, Repr

/-- a reason in words -/
def SkipReason.message : SkipReason → String
  | .notKeyValue => "not a key/value property, skipped"
  | .notString => "value is not a string literal, skipped"
  | .notArray => "value is not an array literal, skipped"
  | .elementNotString => "element is not a string literal, skipped"
  | .spreadOrHole => "spread or hole in list, skipped"
  | .notValue => "not a value property, merge skipped"

/-- a property that was left as it is -/
structure SkipNote where
  property : String
  reason : SkipReason
  deriving DecidableEq, Repr

/-- an edited part of a tree, with the patches that edit the text alike, and notes -/
structure Edit (α : Type) where
  result : α
  patches : List Patch
  notes : List SkipNote

namespace Metadata

def templateUrl : String := "templateUrl"
def template : String := "template"
def styleUrls : String := "styleUrls"
def styles : String := "styles"

/-- a reference to a module, in the place of the literal that named it -/
def requireNode (path : String) (span : Span) : Node :=
  .call span (.name .dummy "require") [.string span (Path.specifier path) (Path.quoted path)] []

/-- a property that stays as it is, and why -/
def skip (property : String) (reason : SkipReason) (prop : Property) : Edit Property :=
  ⟨prop, [], [⟨property, reason⟩]⟩

/-- rename a key that is an identifier -/
def renameKey (name : String) : Key → Key × List Patch
  | .name span _ => (.name span name, [.replace span name])
  | key => (key, [])

/-! ## The template -/

/-- inline the value of the first `templateUrl` -/
def inlineTemplate (keepUrl : Bool) : Property → Edit Property
  | .keyValue key (.string span value _) =>
    let (key', renamed) := if keepUrl then (key, []) else renameKey template key
    ⟨.keyValue key' (requireNode value span), .replace span (Path.requireCall value) :: renamed, []⟩
  | prop@(.keyValue _ _) => skip templateUrl .notString prop
  | prop => skip templateUrl .notKeyValue prop

/-! ## The style sheets -/

/-- the paths in a list that holds plain string literals only, with their places -/
def stylePaths : List Item → Except SkipReason (List (String × Span))
  | [] => .ok []
  | .element (.string span value _) :: rest => (stylePaths rest).map ((value, span) :: ·)
  | .element _ :: _ => .error .elementNotString
  | _ :: _ => .error .spreadOrHole

/-- inline the entries of the first `styleUrls` -/
def inlineStyles (rename : Bool) : Property → Edit Property
  | prop@(.keyValue key (.array span items)) =>
    match stylePaths items with
    | .error reason => skip styleUrls reason prop
    | .ok paths =>
      let (key', renamed) := if rename then renameKey styles key else (key, [])
      ⟨.keyValue key' (.array span (paths.map fun (path, span) => .element (requireNode path span))),
        paths.map (fun (path, span) => .replace span (Path.requireCall path)) ++ renamed, []⟩
  | prop@(.keyValue _ _) => skip styleUrls .notArray prop
  | prop => skip styleUrls .notKeyValue prop

/-- can the entries of the list be inlined? -/
def isInlinable : Property → Bool
  | .keyValue _ (.array _ items) => (stylePaths items).isOk
  | _ => false

/-! ## Merging `styles` -/

variable {m : Type → Type} [Monad m]

/-- the value that a property gives its name -/
def value? : Property → Option Node
  | .keyValue _ value => some value
  | .shorthand span name => some (.name span name)
  | _ => none

/-- the entries that a value adds to a list: those of an array without its holes, or the value spread -/
def mergedItems : Node → List Item
  | .array _ items => items.filter fun item => item.span?.isSome
  | other => [.spread .dummy other]

/-- the source of the entries that a value adds to a list, a group for each entry -/
def mergedChunks : Node → List (List Chunk)
  | .array _ items => items.filterMap fun item => item.span?.map fun span => [.source span]
  | other => [[.text "...", .source other.span]]

/-- where entries are put in at the end of a list: after its last entry, or before its bracket -/
def insertionPoint (span : Span) (items : List Item) : UInt32 :=
  match items.getLast?.bind Item.span? with
  | some last => last.hi
  | none => span.hi - 1

/-- groups of chunks with commas between them, and one in front if entries come before -/
def joinGroups : Bool → List (List Chunk) → List Chunk
  | _, [] => []
  | false, group :: rest => group ++ joinGroups true rest
  | true, group :: rest => .text ", " :: group ++ joinGroups true rest

/-- the patch that takes a property and one comma beside it out -/
def removal (props : List Property) (index : Nat) (prop : Property) : Patch :=
  match props[index + 1]? with
  | some next => .remove prop.span.lo next.span.lo
  | none =>
    match if index = 0 then none else props[index - 1]? with
    | some before => .remove before.span.hi prop.span.hi
    | none => .remove prop.span.lo prop.span.hi

/-- Put the entries of the property at `source` at the end of the list at `target`, and take that property out. The
place where the entries go is worked out by `point`, even if there are none to put in. -/
def mergeWith (point : Span → List Item → m UInt32) (props : List Property) (target source : Nat) :
    m (Edit (List Property)) :=
  match props[source]?, props[target]? with
  | some moved, some (.keyValue key (.array span items)) =>
    match value? moved with
    | none => pure ⟨props, [], []⟩
    | some value => do
      let place ← point span items
      let groups := mergedChunks value
      let inserted := joinGroups (!items.isEmpty) groups
      let insertion := if groups.isEmpty then [] else [Patch.insert place inserted]
      return ⟨(props.set target (.keyValue key (.array span (items ++ mergedItems value)))).eraseIdx source,
        insertion ++ [removal props source moved], []⟩
  | _, _ => pure ⟨props, [], []⟩

/-! ## The whole object -/

/-- the place of the first property of a name -/
def indexOf? (props : List Property) (name : String) : Option Nat :=
  props.findIdx? fun prop => prop.name? == some name

/-- edit the property at an index -/
def editAt (props : List Property) (index : Option Nat) (f : Property → Edit Property) :
    Edit (List Property) :=
  match index with
  | none => ⟨props, [], []⟩
  | some i =>
    match props[i]? with
    | none => ⟨props, [], []⟩
    | some prop =>
      let r := f prop
      ⟨props.set i r.result, r.patches, r.notes⟩

/-- Inline the resources of one metadata object, with `point` for the place where merged entries go. A sibling `styles`
that has no value to move keeps the list of style sheets under its own key, so that no second `styles` appears. -/
def inlineMetadataWith (point : Span → List Item → m UInt32) (keepUrl : Bool) (props : List Property) :
    m (Edit (List Property)) :=
  let stylesAt := indexOf? props styles
  let first := editAt props (indexOf? props templateUrl) (inlineTemplate keepUrl)
  match indexOf? props styleUrls with
  | none => pure first
  | some urlsAt =>
    let mergeable := stylesAt.map fun i => (props[i]?.bind value?).isSome
    let blocked := if mergeable = some false then [⟨styles, .notValue⟩] else []
    let second := editAt first.result (some urlsAt) (inlineStyles (!keepUrl && mergeable != some false))
    let folded := match stylesAt, mergeable, (props[urlsAt]?.map isInlinable).getD false with
      | some i, some true, true => mergeWith point second.result urlsAt i
      | _, _, _ => pure ⟨second.result, [], []⟩
    do
    let third ← folded
    return ⟨third.result, first.patches ++ second.patches ++ third.patches, first.notes ++ blocked ++ second.notes⟩

/-- inline the resources of one metadata object -/
def inlineMetadata (keepUrl : Bool) (props : List Property) : Edit (List Property) :=
  Id.run (inlineMetadataWith (fun span items => pure (insertionPoint span items)) keepUrl props)

end Metadata

end ResourceInliner
