/-
Operators: those before and after one operand, those between two, the conditional and assignments.

- `unary`: an operand with the operators before and after it.
- `binary`: operands with operators between them.
- `assignment`: what stands between two commas of an expression.
-/
import ResourceInliner.Script.Chain
import ResourceInliner.Script.Cover

namespace ResourceInliner.Script

/-! ## One operand -/

/-- a type in angle brackets in front of an operand -/
def typeAssertion (g : Grammar) : Read Node := do
  let lo ← position
  expectMark "<"
  let types ← if ← eatWord "const" then pure [] else pure [← g.type]
  expectMark ">"
  make .typed lo (( ← g.unary) :: types)

/-- an operand that is read even if it is broken, so that what follows can be read -/
def operandOrBroken (g : Grammar) : Read Node := do
  match ← failing g.unary with
  | .ok operand => return operand
  | .error failure =>
    recordAt failure.lo failure.hi failure.fault
    return .other .invalid .dummy []

/-- an operand without the parentheses around it -/
def withoutParens : Node → Node
  | .other .paren _ [inner] => withoutParens inner
  | node => node

/-- what can be deleted: a member in the typed dialect, and no plain name in any -/
def checkDeleted (operand : Node) : Read Unit := do
  match operand with
  | .name _ _ => recordNode operand .deleteOfName
  | _ => pure ()
  if ← typed then
    match withoutParens operand with
    | .other .member _ _ | .other .index _ _ | .other .optionalChain _ _ => pure ()
    | _ => recordNode operand .deleteOfNoMember

/-- an operand that is waited for -/
def awaited (g : Grammar) : Read Node := do
  let lo ← position
  expectWord "await"
  if ← isMark "*" then fail (.rule .awaitStar)
  match ← token with
  | .punct ")" | .punct "]" | .punct ";" | .punct "," => failAt lo (← get).lastHi .expectedName
  | _ => pure ()
  let c ← read
  if (c.inFunction && !c.inAsync) || c.inStaticBlock || (c.inParameters && !c.inFunction) then
    recordRule lo .awaitOutOfPlace
  make .awaitExpr lo [← g.unary]

/-- operators that stand in front of their operand -/
def frontMarks : List String := ["+", "-", "~", "!"]

/-- words that stand in front of their operand -/
def frontWords : List String := ["delete", "void", "typeof"]

/-- an operand with the operators before and after it -/
def unary (g : Grammar) : Read Node := do
  let lo ← position
  match ← token with
  | .punct "<" => if ← typed then return ← typeAssertion g
  | .punct "++" | .punct "--" =>
    advance
    let operand ← g.unary
    checkTarget operand true
    return ← make .update lo [operand]
  | .punct mark =>
    if frontMarks.contains mark then
      advance
      return ← make .unary lo [← operandOrBroken g]
  | .word "await" => return ← awaited g
  | .word word =>
    if frontWords.contains word then
      advance
      let operand ← operandOrBroken g
      if word == "delete" then checkDeleted operand
      return ← make .unary lo [operand]
  | _ => pure ()
  let operand ← g.leftHand
  if operand.isKind .arrow || (← newlineBefore) then return operand
  match ← token with
  | .punct "++" | .punct "--" =>
    checkTarget operand true
    advance
    make .update lo [operand]
  | _ => return operand

/-! ## Two operands -/

/-- how tightly an operator binds its operands -/
def tightness : String → Option Nat
  | "??" | "||" => some 1
  | "&&" => some 2
  | "|" => some 3
  | "^" => some 4
  | "&" => some 5
  | "==" | "!=" | "===" | "!==" => some 6
  | "<" | "<=" | ">" | ">=" => some 7
  | "<<" | ">>" | ">>>" => some 8
  | "+" | "-" => some 9
  | "*" | "/" | "%" => some 10
  | "**" => some 11
  | _ => none

/-- how tightly operators written as words bind -/
def wordTightness : Nat := 7

/-- the operator at hand, and how tightly it binds -/
def operatorHere? : Read (Option (String × Nat)) := do
  joinGreater
  match ← token with
  | .punct mark => return (tightness mark).map (mark, ·)
  | .word "in" => return if (← read).allowIn then some ("in", wordTightness) else none
  | .word "instanceof" => return some ("instanceof", wordTightness)
  | _ => return none

/-- an operand with a type after it, if an operator that takes one follows and binds more tightly than `bound` -/
def ascribed? (g : Grammar) (bound : Nat) (left : Node) : Read (Option Node) := do
  unless (← typed) && bound < wordTightness && !(← newlineBefore) do return none
  let lo := startOf left
  match ← token with
  | .word "as" =>
    advance
    if ← eatWord "const" then return some (← make .typed lo [left])
    return some (← make .typed lo [left, ← g.type])
  | .word "satisfies" =>
    advance
    return some (← make .typed lo [left, ← g.type])
  | _ => return none

/-- is the expression made by one of these operators? -/
def isMadeBy (operators : List String) : Node → Bool
  | .other (.binary operator) _ _ => operators.contains operator
  | _ => false

/-- are two operators joined that need parentheses between them? -/
def needsParens (operator : String) (left right : Node) : Bool :=
  match operator with
  | "??" => isMadeBy ["&&", "||"] left || isMadeBy ["&&", "||"] right
  | "&&" | "||" => isMadeBy ["??"] left
  | _ => false

/-- What operators make of their left operand, as far as they bind more tightly than `bound`. A step takes an operator,
so more fuel than tokens is enough. -/
def operatorsAfter (g : Grammar) : Nat → Nat → Node → Read Node
  | 0, _, _ => fail .tooDeep
  | fuel + 1, bound, left => do
    if let some node ← ascribed? g bound left then return ← operatorsAfter g fuel bound node
    match ← operatorHere? with
    | none => return left
    | some (operator, level) =>
      if level ≤ bound then return left
      advance
      if operator == "**" && (left.isKind .unary || left.isKind .awaitExpr) then
        failAt (startOf left) (← get).lastHi (.rule .powerOfUnary)
      let operand ← g.unary
      let right ← operatorsAfter g fuel (if operator == "**" then level - 1 else level) operand
      let node ← make (.binary operator) (startOf left) [left, right]
      if needsParens operator left right then recordNode node .mixedOperators
      operatorsAfter g fuel bound node

/-- Operands with operators between them. A broken operand before an operator is recorded, and reading goes on. -/
def binary (g : Grammar) : Read Node := do
  match ← failing g.unary with
  | .ok left => if left.isKind .arrow then return left else operatorsAfter g g.fuel 0 left
  | .error failure =>
    if (← operatorHere?).isSome then
      recordAt failure.lo failure.hi failure.fault
      operatorsAfter g g.fuel 0 (.other .invalid .dummy [])
    else throw failure

/-! ## Conditionals and assignments -/

/-- the branches of a conditional after its question mark -/
def branches (g : Grammar) : Read (List Node) := do
  let yes ← within (fun c => { c with inConditional := true, colonEnds := true, allowIn := true }) g.assignment
  expectMark ":"
  let no ← within (fun c => { c with inConditional := true, colonEnds := false }) g.assignment
  return [yes, no]

/-- a conditional, or anything that binds more tightly -/
def conditional (g : Grammar) : Read Node := do
  let test ← binary g
  if test.isKind .arrow then return test
  if ← eatMark "?" then make .conditional (startOf test) (test :: (← branches g)) else return test

/-- operators that assign -/
def assignmentMarks : List String :=
  ["=", "+=", "-=", "*=", "/=", "%=", "<<=", ">>=", ">>>=", "&=", "|=", "^=", "**=", "&&=", "||=", "??="]

/-- the assignment operator at hand -/
def assignmentHere? : Read (Option String) := do
  match ← token with
  | .punct mark => return if assignmentMarks.contains mark then some mark else none
  | _ => return none

/-- an expression with what is assigned to it, if an assignment follows -/
def withAssigned (g : Grammar) (lo : Nat) (left : Node) : Read Node := do
  match ← assignmentHere? with
  | none => return left
  | some mark =>
    let target ← if mark == "=" then toPattern g.fuel .assignment left else do
      unless isSimpleTarget left do recordNode left (if ← typed then .noTypedTarget else .noTarget)
      pure left
    unless isTargetKind target do
      failAt (offsetOf left.span.lo) (offsetOf left.span.hi) (.rule .noTargetKind)
    advance
    let value ← g.assignment
    make (.assign mark) lo [target, value]

/-- what a generator gives out -/
def yielded (g : Grammar) : Read Node := do
  let lo ← position
  expectWord "yield"
  let c ← read
  if c.inParameters && !c.inFunction then failAt lo (← get).lastHi (.rule .yieldInParameter)
  if ← newlineBefore then return ← make .yieldExpr lo []
  let starts := (← startsExpression) || (← isMark "*") || (← isMark "<") || (← isMark "@")
  if !starts then return ← make .yieldExpr lo []
  discard (eatMark "*")
  make .yieldExpr lo [← g.assignment]

/-- can a result of the operators of a node never be assigned to? -/
def isOperatorResult : Node → Bool
  | .other kind _ _ =>
    match kind with
    | .conditional | .binary _ | .unary | .update | .arrow => true
    | _ => false
  | _ => false

/-- an assignment, or anything that binds more tightly, without type parameters in front -/
def plainAssignment (g : Grammar) : Read Node := do
  if (← read).inGenerator && (← isWord "yield") then return ← yielded g
  let lo ← position
  let mayStartArrow := (← isReference) || (← isMark "(") || (← isWord "yield")
  modify fun s => { s with arrowStart := if mayStartArrow then some lo else none }
  let left ← conditional g
  if isOperatorResult left then return left
  withAssigned g lo left

/-- an assignment, or anything that binds more tightly -/
def assignment (g : Grammar) : Read Node := do
  if (← typed) && (← isMark "<") && (← peekAnyWord) then
    let lo ← position
    let generic ← within (fun c => { c with colonEnds := false }) <| attempt do
      let types ← typeParameters g false true
      match ← plainAssignment g with
      | .other .arrow _ parts => return some (← make .arrow lo (parts ++ types))
      | _ => unexpected
    if let some arrow := generic then return arrow
  plainAssignment g

end ResourceInliner.Script
