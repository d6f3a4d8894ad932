/-
Array literals and object literals.
-/
import ResourceInliner.Script.Function

namespace ResourceInliner.Script

/-- remember that the list or object that starts at an offset ends in a comma -/
def noteTrailingComma (lo : Nat) : Read Unit :=
  modify fun s => { s with trailingCommas := lo :: s.trailingCommas }

/-- an entry of an array literal -/
def arrayItem (g : Grammar) : Read Item := do
  let dots ← spanHere
  if ← eatMark "..." then return .spread dots (← g.assignment) else return .element (← g.assignment)

/-- an array literal -/
def arrayLiteral (g : Grammar) : Read Node :=
  within (fun c => { c with colonEnds := false, allowIn := true }) do
    let lo ← position
    advance
    let items ← collect g.fuel do
      if ← isMark "]" then return none
      if ← eatMark "," then return some .hole
      let item ← arrayItem g
      unless ← isMark "]" do
        expectMark ","
        if ← isMark "]" then noteTrailingComma lo
      return some item
    expectMark "]"
    return .array (← spanFrom lo) items

/-- a property with a function, from the function's type parameters on -/
def objectMethod (g : Grammar) (form : MethodForm) (lo : Nat) (key : Key) (check : List Parameter → Read Unit)
    (isAsync isGenerator : Bool) : Read Property := do
  let parts ← functionRest g lo [] check isAsync isGenerator
  return .method form (← spanFrom lo) key parts

/-- a property that starts with a word that is no key by itself: an accessor or an asynchronous method -/
def modifiedProperty (g : Grammar) (lo : Nat) (word : String) (hasModifier : Bool) : Read Property := do
  unless ["get", "set", "async"].contains word do unexpected
  if hasModifier then recordRule lo .modifierOutOfPlace
  let isGenerator ← if word == "async" then eatMark "*" else pure false
  let key ← propertyKey g
  match word with
  | "get" => objectMethod g .getter lo key noParameters false false
  | "set" => objectMethod g .setter lo key oneParameter false false
  | _ => objectMethod g .method lo key anyParameters true isGenerator

/-- a property from its key on -/
def keyedProperty (g : Grammar) (lo : Nat) : Read Property := do
  let hasModifier ← eatParameterModifier
  let key ← propertyKey g
  if ← eatMark ":" then return .keyValue key (← g.assignment)
  if (← isMark "(") || ((← typed) && (← isMark "<")) then
    return ← objectMethod g .method lo key anyParameters false false
  match key with
  | .name span word =>
    if ← eatMark "?" then recordRule lo .optionalProperty
    match ← token with
    | .punct "=" | .punct "," | .punct "\x7d" =>
      if isReserved word then recordAt (offsetOf span.lo) (offsetOf span.hi) (.rule .reservedShorthand)
      if ← eatMark "=" then
        let value ← g.assignment
        return .withDefault (← spanFrom lo) span word value
      return .shorthand span word
    | _ => modifiedProperty g lo word hasModifier
  | _ => unexpected

/-- a property of an object literal -/
def objectProperty (g : Grammar) : Read Property := do
  let lo ← position
  let dots ← spanHere
  if ← eatMark "..." then return .spread dots (← g.assignment)
  if ← eatMark "*" then return ← objectMethod g .method lo (← propertyKey g) anyParameters false true
  keyedProperty g lo

/-- an object literal -/
def objectLiteral (g : Grammar) : Read Node :=
  within (fun c => { c with colonEnds := false, allowIn := true }) do
    let lo ← position
    advance
    let props ← collect g.fuel do
      if ← eatMark closeBrace then return none
      let prop ← objectProperty g
      unless ← isMark closeBrace do
        expectMark ","
        if ← isMark closeBrace then noteTrailingComma lo
      return some prop
    return .object (← spanFrom lo) props

end ResourceInliner.Script
