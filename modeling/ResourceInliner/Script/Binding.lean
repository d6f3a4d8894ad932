/-
Property keys and the patterns that bind names.
-/
import ResourceInliner.Script.Reader

namespace ResourceInliner.Script

/-! ## Keys -/

/-- more expressions after commas, where only one may stand -/
def extraExpressions (g : Grammar) (first : Node) (lo : Nat) : Read Node := do
  if (← typed) && (← isMark ",") then
    let parts ← iterate (fun parts => do
      if ← eatMark "," then return .inl (parts ++ [← allowingIn g.assignment])
      else return .inr parts) g.fuel [first]
    recordRule lo .commaInKey
    make .sequence lo parts
  else return first

/-- the key of a property of an object, a class or a pattern -/
def propertyKey (g : Grammar) : Read Key := do
  let span ← spanHere
  match ← token with
  | .word word => advance; return .name span word
  | .string value _ => advance; return .quoted span value
  | .number | .bigint => advance; return .number span
  | .punct "[" =>
    let lo ← position
    advance
    let innerLo ← position
    let first ← allowingIn g.assignment
    let inner ← extraExpressions g first innerLo
    expectMark "]"
    return .computed (← spanFrom lo) inner
  | _ => unexpected

/-- the key as a part of a tree: what it computes, or nothing -/
def keyParts : Key → List Node
  | .computed _ inner => [inner]
  | _ => []

/-- the word of a key that is one -/
def keyWord? : Key → Option String
  | .name _ word => some word
  | _ => none

/-! ## Patterns -/

/-- a pattern with a default, if one follows -/
def withDefault (g : Grammar) (target : Node) : Read Node := do
  if ← eatMark "=" then
    let value ← allowingIn g.assignment
    let node ← make .defaultPattern (startOf target) [target, value]
    if (← read).inDeclare then recordNode node .defaultWithoutBody
    return node
  else return target

/-- a question mark that makes a pattern optional where nothing is implemented -/
def optionalInDeclaration : Read Unit := do
  if (← read).inDeclare then discard (eatMark "?")

/-- the entries of an array pattern up to its bracket -/
def arrayPattern (g : Grammar) : Read Node := do
  let lo ← position
  advance
  let (parts, _) ← iterate (fun (parts, afterRest) => do
    if ← isMark "]" then return .inr (parts, afterRest)
    if (← token) == .eof then return .inr (parts, afterRest)
    if ← eatMark "," then return .inl (parts, afterRest)
    if afterRest then record (.rule .elementAfterRest)
    let start ← position
    if ← eatMark "..." then
      let target ← g.pattern
      let rest ← make .restPattern start [target]
      unless ← isMark "]" do
        expectMark ","
        if ← isMark "]" then record (.rule .commaAfterRest)
      return .inl (parts ++ [rest], true)
    else
      let entry ← withDefault g (← g.pattern)
      unless ← isMark "]" do expectMark ","
      return .inl (parts ++ [entry], afterRest)) g.fuel (([] : List Node), false)
  expectMark "]"
  optionalInDeclaration
  make .arrayPattern lo parts

/-- one entry of an object pattern -/
def objectPatternEntry (g : Grammar) : Read Node := do
  let lo ← position
  if ← eatMark "..." then
    make .restPattern lo [← g.pattern]
  else
    let key ← propertyKey g
    if ← eatMark ":" then
      let value ← withDefault g (← g.pattern)
      make .keyedPattern lo (keyParts key ++ [value])
    else
      match key with
      | .name span word =>
        if ← eatMark "=" then
          let value ← allowingIn g.assignment
          make .defaultPattern lo [.name span word, value]
        else
          if isReserved word then recordRule lo .reservedShorthand
          return .name span word
      | _ => unexpected

/-- the entries of an object pattern up to its brace -/
def objectPattern (g : Grammar) : Read Node := do
  let lo ← position
  advance
  let (parts, trailing) ← iterate (fun (parts, trailing) => do
    if ← eatMark closeBrace then return .inr (parts, trailing)
    let entry ← objectPatternEntry g
    if ← isMark closeBrace then return .inl (parts ++ [entry], false)
    expectMark ","
    return .inl (parts ++ [entry], true)) g.fuel (([] : List Node), false)
  match parts.getLast? with
  | some (.other .restPattern span [target]) =>
    match target with
    | .name _ _ => if trailing then recordNode target .commaAfterRest
    | _ => failAt (offsetOf span.lo) (offsetOf span.hi) (.rule .restWithoutName)
  | _ => pure ()
  for entry in parts.dropLast do
    if entry.isKind .restPattern then recordNode entry .elementAfterRest
  optionalInDeclaration
  make .objectPattern lo parts

/-- a pattern that binds names -/
def bindingPattern (g : Grammar) (forbidLet : Bool) : Read Node := do
  match ← token with
  | .word _ => boundName forbidLet
  | .punct "[" => arrayPattern g
  | .punct "\x7b" => objectPattern g
  | _ => unexpected

end ResourceInliner.Script
