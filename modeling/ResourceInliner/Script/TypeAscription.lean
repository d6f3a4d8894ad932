/-
The parts of other constructs in which types stand: after a colon, as arguments, and as parameters.
-/
import ResourceInliner.Script.Binding

namespace ResourceInliner.Script

/-- the lists of types and the like, by what ends them -/
inductive ListEnd where
  | enumMembers
  | heritage
  | tuple
  | typeList
  deriving DecidableEq, Repr

/-- does a list end at the token at hand? -/
def atListEnd (kind : ListEnd) : Read Bool := do
  match kind with
  | .enumMembers => isMark closeBrace
  | .heritage => return (← isMark openBrace) || (← isWord "implements") || (← isWord "extends")
  | .tuple => isMark "]"
  | .typeList => isMark ">"

/-- read where conditional types may stand again -/
def enclosed (reader : Read Node) : Read Node :=
  within (fun c => { c with plainTypes := false }) reader

/-- a list with commas between its entries, and perhaps one after the last -/
def delimited (g : Grammar) (kind : ListEnd) (entry : Read Node) : Read (List Node) :=
  iterate (fun found => do
    if ← atListEnd kind then return .inr found.reverse
    let next ← enclosed entry
    let found := next :: found
    if ← eatMark "," then return .inl found
    if ← atListEnd kind then return .inr found.reverse
    if kind == .enumMembers then
      record (.expected "," (← token).text)
      return .inl found
    expectMark ","
    return .inl found) g.fuel []

/-- the type after a colon, if there is one -/
def typeAfterColon (g : Grammar) : Read (List Node) := do
  if ← typed <&&> eatMark ":" then return [← g.type] else return []

/-- types between angle brackets -/
def typeArguments (g : Grammar) : Read (List Node) := do
  let lo ← position
  splitLess
  expectMark "<"
  let arguments ← delimited g .typeList g.type
  expectMark ">"
  if arguments.isEmpty then recordRule lo .noTypeArguments
  return arguments

/-- may the token after a modifier follow it? -/
def followsModifier : Read Bool := do
  if ← newlineBefore then return false
  match ← token with
  | .word _ | .number | .bigint | .string _ _ => return true
  | .punct mark => return ["[", openBrace, "*", "...", "#"].contains mark
  | _ => return false

/-- one of some modifiers, if it is there and something follows that can be modified -/
def modifier? (allowed : List String) (stopAtStatic : Bool) : Read (Option String) := do
  unless ← typed do return none
  match ← token with
  | .word word =>
    if !allowed.contains word then return none
    if stopAtStatic && word == "static" && (← peekMark openBrace) then return none
    attempt do
      advance
      return if ← followsModifier then some word else none
  | _ => return none

/-- step over a modifier of a parameter that stands where none may; `true` if there was one -/
def eatParameterModifier : Read Bool := do
  unless ← typed do return false
  match ← token with
  | .word word =>
    unless ["public", "protected", "private", "readonly"].contains word do return false
    let next := (← peek).token
    let follows := match next with
      | .word _ | .punct "\x7b" | .punct "[" => true
      | _ => false
    if follows then discard (modifier? ["public", "protected", "private", "readonly"] false)
    return follows
  | _ => return false

/-- what is wrong with a modifier of a type parameter after those that were seen -/
def parameterModifierFault? (variance constant : Bool) (seen : List String) (word : String) : Option Rule :=
  match word with
  | "const" => if constant then none else some .constOutOfPlace
  | "in" | "out" =>
    if !variance then some (.varianceOutOfPlace word)
    else if seen.contains word then some (.modifierTwice word)
    else if word == "in" && seen.contains "out" then some (.modifierOrder "in" "out")
    else none
  | _ => some (.modifierOfTypeParameter word)

/-- the modifiers of a type parameter -/
def parameterModifiers (g : Grammar) (variance constant : Bool) : Read Unit := do
  let allowed := ["public", "private", "protected", "readonly", "abstract", "const", "override", "in", "out"]
  iterate (fun (seen : List String) => do
    match ← modifier? allowed false with
    | none => return .inr ()
    | some word =>
      let lo := (← get).lastLo
      for broken in parameterModifierFault? variance constant seen word do recordRule lo broken
      return .inl (word :: seen)) g.fuel []

/-- a type parameter with its bound and default -/
def typeParameter (g : Grammar) (variance constant : Bool) : Read Node := do
  let lo ← position
  parameterModifiers g variance constant
  let name ← anyName
  let bound ← if ← eatWord "extends" then pure [← g.type] else pure []
  let standard ← if ← eatMark "=" then pure [← g.type] else pure []
  make .typeParameter lo (name :: bound ++ standard)

/-- type parameters between angle brackets, if there are any -/
def typeParameters (g : Grammar) (variance constant : Bool) : Read (List Node) := do
  unless (← typed) && (← isMark "<") do return []
  advance
  let parameters ← delimited g .typeList (typeParameter g variance constant)
  expectMark ">"
  return parameters

/-- a type, or a predicate on a parameter, after a mark -/
def typeOrPredicate (g : Grammar) (mark : String) : Read Node := do
  expectMark mark
  let lo ← position
  let asserts := (← isWord "asserts") && (← peekReference)
  if asserts then advance
  let next ← peek
  let guards := (← isReference) && next.token == .word "is" && !next.newline
  if !asserts && !guards then g.type
  else
    let subject ← anyName
    if guards then
      advance
      make .typeNode lo [subject, ← g.type]
    else make .typeNode lo [subject]

end ResourceInliner.Script
