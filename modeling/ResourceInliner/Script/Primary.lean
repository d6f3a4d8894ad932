/-
The expressions that operators work on: literals, names, functions, classes, and what `new`, `super` and `import` start.

- `primary`: an expression without anything in front of it or after it.
- `leftHand`: the same with accesses and calls.
-/
import ResourceInliner.Script.Arrow
import ResourceInliner.Script.Class
import ResourceInliner.Script.Literals

namespace ResourceInliner.Script

/-! ## Names -/

/-- may an arrow function start at an offset? -/
def mayBeArrow (lo : Nat) : Read Bool := return (← get).arrowStart == some lo

/-- an arrow function whose only parameter is a name -/
def arrowOfName (g : Grammar) (lo : Nat) (isAsync : Bool) (name : Node) : Read Node := do
  expectMark "=>"
  arrowFrom g lo isAsync [name] []

/-- After the word `async`, the name that is the only parameter of an asynchronous arrow function. In the head of a loop
the word may also be a name before `of`. -/
def asyncArrow? (g : Grammar) (word : Node) : Read (Option Node) := do
  if (← newlineBefore) || !(← isReference) then return none
  let c ← read
  if c.forInit && (← isWord "of") && !(← peekMark "=>") then
    unless c.forAwaitInit do recordNode word .asyncBeforeOf
    return some word
  return some (← arrowOfName g (startOf word) true (← identifier false))

/-- a name, or an arrow function that starts with one -/
def nameOrArrow (g : Grammar) : Read Node := do
  let lo ← position
  let first ← mayBeArrow lo
  let name ← identifier false
  unless first do return name
  if nameOf name == "async" then
    if let some arrow ← asyncArrow? g name then return arrow
  if (← isMark "=>") && !(← newlineBefore) then
    checkBoundNames 1 name
    arrowOfName g lo false name
  else return name

/-! ## Literals -/

/-- a regular expression from its slash on -/
def regex : Read Node := do
  let now := (← get).now
  match scanRegex false (now.chars.drop 1) with
  | none => failAt now.lo now.hi .unterminatedRegex
  | some after =>
    let flags := after.takeWhile isNamePart
    let hi := now.lo + (byteLength now.chars - byteLength after) + byteLength flags
    for broken in flagFault? flags do recordAt now.lo hi (.rule broken)
    goTo hi (after.drop flags.length)
    make .regex now.lo []

/-! ## Functions and classes -/

/-- What the word `async` starts: a function, or an arrow function with type parameters or parentheses. -/
def asyncStart? (g : Grammar) : Read (Option Node) := do
  let lo ← position
  let next ← peek
  if next.token == .word "function" && !next.newline then
    advance
    return some (← functionFrom g lo [] true true false)
  unless ← mayBeArrow lo do return none
  if (← typed) && next.token == .punct "<" then
    let arrow ← attempt do
      advance
      genericArrow? g lo
    if arrow.isSome then return arrow
  if next.token == .punct "(" && !next.newline then
    let word ← identifier false
    return some (← parenthesized g true (some word))
  return none

/-- a name, an arrow function that starts with one, or a private name -/
def anyNameOrArrow (g : Grammar) : Read Node := do
  if ← isMark "#" then return ← privateName
  if (← isWord "let") || (← isReference) then nameOrArrow g else fail .expectedExpression

/-- an expression without anything in front of it or after it; decorators in front of a name mean nothing -/
def primary (g : Grammar) : Read Node := do
  let lo ← position
  match ← token with
  | .word "this" =>
    advance
    make .thisWord lo []
  | .word "null" | .word "true" | .word "false" =>
    advance
    make .literal lo []
  | .number | .bigint =>
    advance
    make .number lo []
  | .string value raw =>
    let span ← spanHere
    advance
    return .string span value raw
  | .word "function" => functionFrom g lo [] false true false
  | .word "class" => classFrom g .expression lo [] false false
  | .punct "@" =>
    let decorators ← g.decorators
    if ← isWord "class" then classFrom g .expression lo decorators false false else anyNameOrArrow g
  | .word "async" =>
    match ← asyncStart? g with
    | some node => return node
    | none => nameOrArrow g
  | .punct "[" => arrayLiteral g
  | .punct "\x7b" => objectLiteral g
  | .punct "(" => parenthesized g (← mayBeArrow lo) none
  | .punct "\x60" => make .template lo (← template g false)
  | .punct "/" | .punct "/=" => regex
  | _ => anyNameOrArrow g

/-! ## Chains that calls may be part of -/

/-- what the word `import` starts in an expression -/
def importExpression (g : Grammar) (lo : Nat) (calls : Bool) : Read Node := do
  expectWord "import"
  let word ← make .importWord lo []
  if ← eatMark "." then
    let member ← anyName
    match nameOf member with
    | "meta" => chain g lo calls true (← make .metaProperty lo [])
    | "defer" | "source" => chain g lo calls true word
    | _ => failAt (startOf member) (← get).lastHi (.unexpected (nameOf member))
  else chain g lo calls true word

/-- what the word `super` starts -/
def superExpression (g : Grammar) (lo : Nat) (calls : Bool) : Read Node := do
  expectWord "super"
  chain g lo calls true (← make .superWord lo [])

/-- an expression with accesses but no calls, and with none of the words in front that it may have -/
def memberChain (g : Grammar) (lo : Nat) : Read Node := do
  match ← token with
  | .word "super" => superExpression g lo false
  | .word "import" => importExpression g lo false
  | _ =>
    let node ← primary g
    if node.isKind .arrow then return node else chain g lo false true node

/-- the target of `new` -/
def newTarget (g : Grammar) (lo : Nat) : Read Node := do
  expectWord "target"
  let node ← make .metaProperty lo []
  let c ← read
  unless c.inPlainFunction || c.inParameters || c.inClass do recordNode node .targetOutsideFunction
  chain g lo false true node

/-- is the expression an optional chain, or a member of one? -/
def endsOptional : Node → Bool
  | .other .optionalChain _ _ => true
  | .other .member _ (.other .optionalChain _ _ :: _) => true
  | _ => false

/-- type arguments, if parentheses follow them -/
def argumentTypes? (g : Grammar) : Read (Option (List Node)) := do
  unless (← isMark "<") || (← isMark "<<") do return none
  attempt do
    let types ← typeArguments g
    if ← isMark "(" then return some types else return none

/-- An expression with accesses, constructed by as many `new` as stand in front of it. One `new` more than there are
tokens cannot be met. -/
def constructed (g : Grammar) : Nat → Read Node
  | 0 => fail .tooDeep
  | fuel + 1 => do
    let lo ← position
    unless ← eatWord "new" do return ← memberChain g lo
    if ← eatMark "." then return ← newTarget g lo
    let callee ← constructed g fuel
    if callee.isKind .arrow then return callee
    if endsOptional callee then failAt lo (← get).lastHi (.rule .newOfOptionalChain)
    let types := (← argumentTypes? g).getD []
    if ← isMark "(" then
      let args ← arguments g
      chain g lo false true (← make .construct lo (callee :: args ++ types))
    else make .construct lo (callee :: types)

/-- a markup element with the sign that ends it -/
def wholeElement (g : Grammar) : Read Node := do
  let node ← g.element
  advance
  return node

/-- an expression with accesses and calls -/
def leftHand (g : Grammar) : Read Node := do
  let lo ← position
  match ← token with
  | .word "super" => superExpression g lo true
  | .word "import" => importExpression g lo true
  | .punct "<" => if ← typed then fail .expectedExpression else wholeElement g
  | _ =>
    let callee ← constructed g g.fuel
    if callee.isKind .arrow then return callee
    let types ← argumentTypes? g
    if ← isMark "(" then
      chain g lo true true (← callOf lo callee (← arguments g) (types.getD []))
    else return callee

end ResourceInliner.Script
