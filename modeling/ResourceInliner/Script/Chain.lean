/-
What may follow an expression and belongs to it: accesses, calls, tagged templates and assertions.

- `chain`: an expression with all that follows it.
- `arguments`: the arguments of a call.
- `decorators`: the expressions of decorators, which are names with what follows them.
-/
import ResourceInliner.Script.Function
import ResourceInliner.Script.Template

namespace ResourceInliner.Script

/-! ## Expressions in lists -/

/-- an expression, or several with commas between them -/
def expression (g : Grammar) : Read Node := do
  let lo ← position
  let first ← g.assignment
  unless ← isMark "," do return first
  let more ← collect g.fuel do
    if ← eatMark "," then return some (← g.assignment) else return none
  make .sequence lo (first :: more)

/-- an argument of a call -/
def argument (g : Grammar) : Read Node := do
  let lo ← position
  if ← eatMark "..." then make .spread lo [← g.assignment] else g.assignment

/-- the arguments of a call between parentheses -/
def arguments (g : Grammar) : Read (List Node) :=
  within (fun c => { c with colonEnds := false }) do
    expectMark "("
    let found ← iterate (fun found => do
      if ← isMark ")" then return .inr found.reverse
      unless found.isEmpty do
        expectMark ","
        if ← isMark ")" then return .inr found.reverse
      return .inl ((← allowingIn (argument g)) :: found)) g.fuel []
    expectMark ")"
    return found

/-- the holes of a template whose tag handles malformed escapes, or of one without a tag -/
def template (g : Grammar) (tagged : Bool) : Read (List Node) :=
  templateHoles g.fuel tagged (allowingIn (expression g))

/-! ## Type arguments -/

/-- operators between two operands -/
def operatorMarks : List String :=
  ["==", "!=", "===", "!==", "<", "<=", "<<", ">", "+", "-", "*", "/", "%", "|", "^", "&", "**", "&&", "||", "??"]

/-- reserved words that an expression may start with -/
def operandWords : List String :=
  ["this", "super", "null", "true", "false", "function", "class", "new", "await", "yield", "delete", "typeof", "void"]

/-- may an expression start at the token at hand? -/
def startsExpression : Read Bool := do
  match ← token with
  | .number | .bigint | .string _ _ => return true
  | .word "import" =>
    return (← peekMark "(") || (← peekMark ".")
  | .word word => return !isReserved word || operandWords.contains word
  | .punct mark =>
    return ["(", "[", openBrace, "\x60", "/", "/=", "+", "-", "~", "!", "++", "--", "#"].contains mark
  | _ => return false

/-- type arguments that are not those of a call, if they can be told from comparisons by what follows -/
def loneTypeArguments? (g : Grammar) : Read (Option (List Node)) :=
  attempt do
    let types ← typeArguments g
    match ← token with
    | .punct "<" | .punct "<<" | .punct ">" | .punct "+" | .punct "-" | .punct "(" | .punct "\x60" => return none
    | .punct mark =>
      if (← newlineBefore) || operatorMarks.contains mark || !(← startsExpression) then return some types
      return none
    | _ =>
      if (← newlineBefore) || !(← startsExpression) then return some types
      return none

/-! ## Chains -/

/-- is an expression part of an optional chain? -/
def isOptional : Node → Bool
  | .other .optionalChain _ _ => true
  | .other .nonNull _ [inner] => isOptional inner
  | _ => false

/-- is a node a word that means nothing by itself? -/
def isBareWord : Node → Bool
  | .other .superWord _ _ | .other .importWord _ _ => true
  | _ => false

/-- the name of a private member -/
def privateName : Read Node := do
  let lo ← position
  expectMark "#"
  if (← position) != (← get).lastHi then fail (.rule .spaceInPrivateName)
  make .privateName lo [← anyName]

/-- the name after a dot -/
def memberAfterDot (base : Node) : Read Node := do
  if ← isMark "#" then
    if base.isKind .superWord then unexpected
    privateName
  else anyName

/-- a call of an expression; in an optional chain it is a part of that -/
def callOf (lo : Nat) (callee : Node) (args types : List Node) : Read Node := do
  if isOptional callee then make .optionalChain lo (callee :: args ++ types)
  else return .call (← spanFrom lo) callee args types

/-- a template with a tag in front -/
def taggedTemplate (g : Grammar) (lo : Nat) (tag : Node) (types : List Node) : Read Node := do
  let holes ← template g true
  let node ← make .taggedTemplate lo (tag :: types ++ holes)
  if tag.isKind .optionalChain then recordNode node .templateInOptionalChain
  return node

/-- could a name be the word that starts an asynchronous arrow function? -/
def couldStartArrow (base : Node) : Read Bool := do
  match base with
  | .name _ "async" => return (← get).arrowStart == some (startOf base)
  | _ => return false

/-- What type arguments after an expression make of it, if anything, and whether more may follow. -/
def typedLink? (g : Grammar) (lo : Nat) (calls : Bool) (base : Node) : Read (Option (Node × Bool)) :=
  attempt do
    if calls && (← couldStartArrow base) then
      if let some arrow ← genericArrow? g lo then return some (arrow, true)
    let types ← typeArguments g
    match ← token with
    | .punct "(" =>
      if calls then return some (← callOf lo base (← arguments g) types, true) else unexpected
    | .punct "\x60" => return some (← taggedTemplate g lo base types, true)
    | .punct "=" | .word "as" | .word "satisfies" => return some (← make .instantiation lo (base :: types), false)
    | _ => unexpected

/-- an expression with its type arguments, if it has any -/
def instantiated (lo : Nat) (types : Option (List Node)) (node : Node) : Read Node := do
  match types with
  | some types => make .instantiation lo (node :: types)
  | none => return node

/-- One link of a chain: on the left if more may follow, on the right if nothing does. -/
def chainLink (g : Grammar) (lo : Nat) (calls computed : Bool) (base : Node) : Read (Node ⊕ Node) := do
  if ← typed then
    if (← isMark "!") && !(← newlineBefore) then
      advance
      if isBareWord base then unexpected
      return .inl (← make .nonNull lo [base])
    if (← isMark "<") || (← isMark "<<") then
      match ← typedLink? g lo calls base with
      | some (node, true) => return .inl node
      | some (node, false) => return .inr node
      | none => pure ()
  let types ← if ← isMark "<" then loneTypeArguments? g else pure none
  let optional ← eatMark "?."
  let inChain := optional || isOptional base
  if ← pure computed <&&> eatMark "[" then
    let index ← allowingIn (expression g)
    expectMark "]"
    if base.isKind .importWord || (optional && isBareWord base) then unexpected
    let node ← make (if inChain then .optionalChain else .index) lo [base, index]
    return .inl (← instantiated lo types node)
  if (← isMark "(") && (optional || calls) then
    let args ← arguments g
    if optional then
      if isBareWord base then unexpected
      return .inl (← make .optionalChain lo (base :: args ++ types.getD []))
    return .inl (← callOf lo base args (types.getD []))
  if ← pure optional <||> eatMark "." then
    let member ← memberAfterDot base
    if base.isKind .importWord || (optional && isBareWord base) then unexpected
    let node ← make (if inChain then .optionalChain else .member) lo [base, member]
    return .inl (← instantiated lo types node)
  if isBareWord base then unexpected
  let node ← instantiated lo types base
  if ← isMark "\x60" then
    return .inl (← within (fun c => { c with colonEnds := false }) (taggedTemplate g lo node []))
  return .inr node

/-- An expression with all that follows it; calls, and accesses by an index, only where they are allowed. -/
def chain (g : Grammar) (lo : Nat) (calls computed : Bool) (base : Node) : Read Node :=
  iterate (chainLink g lo calls computed) g.fuel base

/-! ## Decorators -/

/-- the expression of a decorator; parentheses directly around it are no part of it -/
def decorator (g : Grammar) : Read Node := do
  expectMark "@"
  let lo ← position
  let subject ← if ← eatMark "(" then do
      let inner ← expression g
      expectMark ")"
      pure inner
    else chain g lo true false (← identifier false)
  let types ← if (← typed) && (← isMark "<") then pure (some (← typeArguments g)) else pure none
  if types.isNone && !(← isMark "(") then return subject
  let args ← arguments g
  return .call (← spanFrom (startOf subject)) subject args (types.getD [])

/-- The expressions of the decorators at hand. An export after them is a fault unless it is allowed. -/
def decoratorsBefore (g : Grammar) (exportAllowed : Bool) : Read (List Node) := do
  let found ← collect g.fuel do
    if ← isMark "@" then return some (← decorator g) else return none
  let c ← read
  if !found.isEmpty && (← isWord "export") && !(exportAllowed || c.inClass || c.inFunction) then unexpected
  return found

end ResourceInliner.Script
