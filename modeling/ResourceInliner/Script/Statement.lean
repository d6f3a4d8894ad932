/-
Statements.

- `statementFrom`: a statement after its decorators.
- `statement`: a statement with its decorators.
-/
import ResourceInliner.Script.Declaration

namespace ResourceInliner.Script

/-! ## Jumps -/

/-- a jump to the end or the next round of a loop, or to a label -/
def jump (lo : Nat) (isBreak : Bool) : Read Node := do
  advance
  let label ← if ← eatSemicolon then pure none else do
    let name ← identifier false
    expectSemicolon
    pure (some (nameOf name))
  let c ← read
  let labels := (← get).labels
  let known := label.all labels.contains
  if isBreak then
    if !known then recordRule lo .breakLabel
    else if !c.breakAllowed then recordRule lo .breakOutOfPlace
  else if !c.continueAllowed then recordRule lo .continueOutOfPlace
  else if !known then recordRule lo .continueLabel
  make .statement lo []

/-- the end of a function with a result; outside a function it is a fault -/
def returnStatement (g : Grammar) (lo : Nat) : Read Node := do
  expectWord "return"
  let value ← if ← atSemicolon then pure [] else pure [← expression g]
  expectSemicolon
  unless (← read).inFunction do recordAt lo (← get).lastHi .returnOutsideFunction
  make .statement lo value

/-- an exception is thrown -/
def throwStatement (g : Grammar) (lo : Nat) : Read Node := do
  expectWord "throw"
  if ← newlineBefore then fail (.rule .lineEndAfterThrow)
  let value ← expression g
  expectSemicolon
  make .statement lo [value]

/-! ## Choices -/

/-- an expression between parentheses -/
def condition (g : Grammar) : Read Node := do
  expectMark "("
  let test ← expression g
  expectMark ")"
  return test

/-- a statement that runs if a condition holds, and perhaps another if it does not -/
def ifStatement (g : Grammar) (lo : Nat) : Read Node := do
  expectWord "if"
  let test ← condition g
  let yes ← g.statement false
  let no ← if ← eatWord "else" then pure [← g.statement false] else pure []
  make .statement lo (test :: yes :: no)

/-- a case of a switch, and whether it is the default; nothing where no case starts -/
def switchCase? (g : Grammar) : Read (Option (Bool × List Node)) := do
  let lo ← position
  let test ← if ← eatWord "case" then pure (some (some (← expression g)))
    else if ← eatWord "default" then pure (some none)
    else pure none
  match test with
  | none => return none
  | some test =>
    expectMark ":"
    let inner ← collect g.fuel do
      if (← isWord "case") || (← isWord "default") || (← isMark closeBrace) || (← token) == .eof then return none
      return some (← g.statement true)
    return some (test.isNone, [← make .statement lo (test.toList ++ inner)])

/-- a choice among cases, of which one may be the default -/
def switchStatement (g : Grammar) (lo : Nat) : Read Node := do
  expectWord "switch"
  let subject ← condition g
  expectMark openBrace
  let cases ← within (fun c => { c with breakAllowed := true }) (collect g.fuel (switchCase? g))
  if (cases.filter (·.1)).length > 1 then failAt lo (← get).lastHi (.rule .secondDefault)
  expectMark closeBrace
  make .statement lo (subject :: cases.flatMap (·.2))

/-! ## Handlers -/

/-- the handler of an exception, if there is one -/
def catchClause (g : Grammar) : Read (List Node) := do
  unless ← eatWord "catch" do return []
  let parameter ← if ← eatMark "(" then do
      let target ← bindingPattern g false
      let types ← typeAfterColon g
      expectMark ")"
      pure (target :: types)
    else pure []
  return parameter ++ [← block g]

/-- a block that runs at the end in any case, if there is one -/
def finallyClause (g : Grammar) : Read (List Node) := do
  if ← eatWord "finally" then return [← block g] else return []

/-- a block with a handler or a block that runs in any case -/
def tryStatement (g : Grammar) (lo : Nat) : Read Node := do
  expectWord "try"
  let body ← block g
  let handler ← catchClause g
  let final ← finallyClause g
  if handler.isEmpty && final.isEmpty then record .expectedSemicolon
  make .statement lo (body :: handler ++ final)

/-- a handler without a block before it is a fault -/
def strayHandler (g : Grammar) (lo : Nat) : Read Node := do
  record .expectedSemicolon
  let handler ← catchClause g
  make .statement lo (handler ++ (← finallyClause g))

/-! ## Loops -/

/-- the body of a loop -/
def loopBody (g : Grammar) : Read Node :=
  within (fun c => { c with breakAllowed := true, continueAllowed := true }) (g.statement false)

/-- a loop that tests before each round -/
def whileStatement (g : Grammar) (lo : Nat) : Read Node := do
  expectWord "while"
  let test ← condition g
  make .statement lo [test, ← loopBody g]

/-- a loop that tests after each round -/
def doStatement (g : Grammar) (lo : Nat) : Read Node := do
  expectWord "do"
  let body ← loopBody g
  expectWord "while"
  let test ← condition g
  discard (eatMark ";")
  make .statement lo [test, body]

/-- the head of a loop -/
inductive LoopHead where
  | counted (parts : List Node)
  | each (isOf : Bool) (parts : List Node)

/-- the head of a loop over things, from the word between its parts on -/
def eachHead (g : Grammar) (target : Node) : Read LoopHead := do
  let isOf ← isWord "of"
  advance
  let subject ← allowingIn (if isOf then g.assignment else expression g)
  return .each isOf [target, subject]

/-- the head of a counting loop after its first part -/
def countedHead (g : Grammar) (start : List Node) : Read LoopHead := do
  let test ← if ← eatMark ";" then pure [] else do
    let test ← allowingIn (expression g)
    expectMark ";"
    pure [test]
  let update ← if ← isMark ")" then pure [] else pure [← allowingIn (expression g)]
  return .counted (start ++ test ++ update)

/-- may variables follow `let` at hand? -/
def letDeclares : Read Bool := do
  match (← peek).token with
  | .word word => return !keywords.contains word
  | .punct mark => return mark == "[" || mark == openBrace
  | _ => return false

/-- a loop over things has one variable, without a value or a type -/
def checkLoopVariables : Node → Read Unit
  | .other .variableList _ [entry] =>
    match entry with
    | .other .variable _ [_] => pure ()
    | .other .variable _ [_, more] => recordNode entry (if more.isKind .typeNode then .typeInLoop else .valueInLoop)
    | _ => recordNode entry .valueInLoop
  | node => recordNode node .severalLoopVariables

/-- Does the expression that was read turn out to be the word `using` before a variable? -/
def isUsingHead (first : Node) : Read Bool := do
  let named := match first with
    | .name _ "using" | .other .awaitExpr _ [.name _ "using"] => true
    | _ => false
  let next := (← peek).token
  return (← typed) && named && (next == .word "of" || next == .word "in") && !(← isWord "of")

/-- the head of a loop that starts with an expression -/
def expressionHead (g : Grammar) : Read LoopHead := do
  let first ← within (fun c => { c with allowIn := false }) (expression g)
  if ← isUsingHead first then
    let name ← boundName false
    if ← isWord "in" then record (.rule .usingInKeyLoop)
    return ← eachHead g name
  if ← atLoopWord then
    let target ← toPattern g.fuel .assignment first
    if (← typed) && (← isWord "in") && (target.isKind .objectPattern || target.isKind .arrayPattern) then
      recordNode target .patternInKeyLoop
    return ← eachHead g target
  expectMark ";"
  countedHead g [first]

/-- the head of a loop between its parentheses -/
def loopHead (g : Grammar) : Read LoopHead := do
  if (← isWord "const") || (← isWord "var") || ((← isWord "let") && (← letDeclares)) then
    let list ← within (fun c => { c with allowIn := false }) (variableList g true)
    if ← atLoopWord then
      checkLoopVariables list
      return ← eachHead g list
    expectMark ";"
    return ← countedHead g [list]
  if ← eatMark ";" then countedHead g [] else expressionHead g

/-- a loop with a head -/
def forStatement (g : Grammar) (lo : Nat) : Read Node := do
  expectWord "for"
  let awaits ← eatWord "await"
  expectMark "("
  let head ← within (fun c => { c with forInit := true, forAwaitInit := awaits }) (loopHead g)
  expectMark ")"
  let body ← loopBody g
  match head with
  | .counted parts =>
    if awaits then failAt lo (← get).lastHi (.rule .awaitLoop)
    make .statement lo (parts ++ [body])
  | .each isOf parts =>
    if awaits && !isOf then failAt lo (← get).lastHi (.rule .awaitLoop)
    make .statement lo (parts ++ [body])

/-! ## Statements that start with an expression -/

/-- A statement after its label and the colon. No other statement around it has the same label, and it is no function.
-/
def labelled (g : Grammar) (lo : Nat) (label : String) : Read Node := do
  let outer := (← get).labels
  modify fun s => { s with labels := label :: s.labels }
  let body ← within (fun c => { c with breakAllowed := true }) do
    if ← isWord "function" then
      let start ← position
      let function ← functionDeclaration g start [] false true
      recordNode function .labelledFunction
      return function
    else g.statement false
  if outer.contains label then recordRule lo (.labelTwice label)
  modify fun s => { s with labels := outer }
  make .labelled lo [body]

/-- what a word that was read as an expression declares in the typed dialect -/
def wordStatement? (g : Grammar) (lo : Nat) (decorators : List Node) (word : String) : Read (Option Node) := do
  unless ← typed do return none
  match word with
  | "declare" => ambient? g lo decorators
  | "global" => if ← isMark openBrace then return some (← make .namespaceDecl lo (← moduleBlock g)) else return none
  | _ => typedDeclaration? g lo decorators word false

/-- a statement that starts with an expression -/
def expressionStatement (g : Grammar) (lo : Nat) (decorators : List Node) : Read Node := do
  let value ← allowingIn (expression g)
  if let .name _ word := value then
    if ← eatMark ":" then return ← labelled g lo word
    if let some node ← wordStatement? g lo decorators word then return node
  if ← eatSemicolon then return ← make .expressionStatement lo [value]
  if (← operatorHere?).isSome then
    record (.expected ";" (← token).text)
    return ← make .expressionStatement lo [← operatorsAfter g g.fuel 0 value]
  fail .expectedStatementEnd

/-- A statement that starts with `await`. Only operators may follow what is waited for, and nothing has to end it. -/
def awaitStatement (g : Grammar) (lo : Nat) : Read Node := do
  if ← declaresUsing true then
    advance
    return ← usingVariables g lo
  let value ← allowingIn do operatorsAfter g g.fuel 0 (← awaited g)
  discard (eatMark ";")
  make .expressionStatement lo [value]

/-! ## Statements -/

/-- does the word at hand have another on the same line after it? -/
def wordFollows : Read Bool := do
  let next ← peek
  match next.token with
  | .word _ => return !next.newline
  | _ => return false

/-- A declaration that a keyword starts, if one does. Where declarations may not stand, classes and functions are
faults, and the other words are read as expressions. -/
def declaration? (g : Grammar) (lo : Nat) (decorators : List Node) (declarations : Bool) : Read (Option Node) := do
  match ← token with
  | .word "function" =>
    unless declarations do record (.rule .declarationOutOfPlace)
    return some (← functionDeclaration g lo decorators false true)
  | .word "class" =>
    unless declarations do record (.rule .declarationOutOfPlace)
    return some (← classFrom g .declaration lo decorators false true)
  | .word "async" =>
    let next ← peek
    if next.token == .word "function" && !next.newline then
      advance
      return some (← functionDeclaration g lo decorators true true)
  | .word "const" =>
    if (← typed) && (← peekWord "enum") then
      advance
      advance
      return some (← enumeration g lo)
    if declarations then return some (← variableList g false)
  | .word "var" => return some (← variableList g false)
  | .word "let" => if declarations && (← letDeclares) then return some (← variableList g false)
  | .word "using" => if declarations && (← declaresUsing false) then return some (← usingVariables g lo)
  | .word "await" => if declarations then return some (← awaitStatement g lo)
  | .word "interface" | .word "type" | .word "enum" =>
    if (← typed) && (← wordFollows) then
      let word := (← token).text
      advance
      return some (← match word with
        | "interface" => interface g lo
        | "type" => typeAlias g lo
        | _ => enumeration g lo)
  | _ => pure ()
  return none

/-- a statement after its decorators, which mean nothing unless it is a class or a function -/
def statementFrom (g : Grammar) (lo : Nat) (decorators : List Node) (declarations : Bool) : Read Node := do
  if let some node ← declaration? g lo decorators declarations then return node
  match ← token with
  | .punct "\x7b" => block g
  | .punct ";" =>
    advance
    make .statement lo []
  | .word "break" => jump lo true
  | .word "continue" => jump lo false
  | .word "debugger" =>
    advance
    expectSemicolon
    make .statement lo []
  | .word "do" => doStatement g lo
  | .word "for" => forStatement g lo
  | .word "if" => ifStatement g lo
  | .word "return" => returnStatement g lo
  | .word "switch" => switchStatement g lo
  | .word "throw" => throwStatement g lo
  | .word "catch" | .word "finally" => strayHandler g lo
  | .word "try" => tryStatement g lo
  | .word "with" =>
    record (.rule .withStatement)
    advance
    let subject ← condition g
    make .statement lo [subject, ← g.statement false]
  | .word "while" => whileStatement g lo
  | _ => expressionStatement g lo decorators

/-- what `import` starts where no import may stand: an expression, which nothing has to end -/
def importStatement (g : Grammar) (lo : Nat) : Read Node := do
  let value ← allowingIn (expression g)
  discard (eatMark ";")
  make .expressionStatement lo [value]

/-- does `import` at hand start an expression? -/
def importsInExpression : Read Bool := return (← peekMark "(") || (← peekMark ".")

/-- a statement; `true` where declarations may stand -/
def statement (g : Grammar) (declarations : Bool) : Read Node := do
  let lo ← position
  let decorators ← decoratorsBefore g true
  if (← isWord "import") && (← importsInExpression) then return ← importStatement g lo
  if (← isWord "import") || (← isWord "export") then fail (.rule .itemInsideStatement)
  statementFrom g lo decorators declarations

end ResourceInliner.Script
