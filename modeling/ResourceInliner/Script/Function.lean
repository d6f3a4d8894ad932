/-
Functions: their parameters, the types of their results, and their bodies.
-/
import ResourceInliner.Script.TypeAscription

namespace ResourceInliner.Script

/-! ## Parameters -/

/-- a parameter without its decorators -/
def parameterPattern (g : Grammar) : Read Node := do
  let hasModifier ← eatParameterModifier
  let lo ← position
  let target ← bindingPattern g false
  let mut optional := false
  let mut types : List Node := []
  if ← typed then
    if ← eatMark "?" then optional := true
    types ← typeAfterColon g
  let result ← if ← eatMark "=" then do
      if optional then recordRule lo .optionalWithDefault
      let value ← g.assignment
      if (← read).inDeclare then recordRule lo .defaultWithoutBody
      make .defaultPattern lo (target :: types ++ [value])
    else if types.isEmpty then pure target
    else match target with
      | .other kind span parts => pure (.other kind ⟨span.lo, place (← get).lastHi⟩ (parts ++ types))
      | name => make .parameter lo (name :: types)
  if hasModifier then recordRule lo .propertyOutOfPlace
  return result

/-- does a parameter bind a plain name? -/
def isPlainParameter : Node → Bool
  | .name _ _ => true
  | .other .parameter _ [.name _ _, _] => true
  | _ => false

/-- is the parameter the receiver, which counts for nothing? -/
def isReceiver : Node → Bool
  | .name _ "this" => true
  | .other .parameter _ (.name _ "this" :: _) => true
  | _ => false

/-- a parameter as it is written: its decorators and its pattern -/
structure Parameter where
  decorators : List Node
  pattern : Node

/-- the parts of a parameter in a tree -/
def Parameter.parts (p : Parameter) : List Node := p.decorators ++ [p.pattern]

/-- a rest parameter after its dots -/
def restParameter (g : Grammar) (lo : Nat) : Read Node := do
  let target ← bindingPattern g false
  let standard ← if ← eatMark "=" then do
      let value ← g.assignment
      recordRule lo .defaultOfRest
      pure [value]
    else pure []
  let types ← typeAfterColon g
  make .restPattern lo (target :: standard ++ types)

/-- parameters up to a closing parenthesis, which is left, each read by `single` unless it is a rest parameter -/
def parametersWith (g : Grammar) (single : Read Node) : Read (List Parameter) :=
  iterate (fun (found, afterRest) => do
    if ← isMark ")" then return .inr found.reverse
    if (← token) == .eof then return .inr found.reverse
    if afterRest then record (.rule .parameterAfterRest)
    let decorators ← g.decorators
    let lo ← position
    let isRest ← eatMark "..."
    let pattern ← if isRest then restParameter g lo else single
    unless ← isMark ")" do
      expectMark ","
      if isRest && (← isMark ")") then record (.rule .commaAfterRest)
    return .inl (⟨decorators, pattern⟩ :: found, afterRest || isRest)) g.fuel (([] : List Parameter), false)

/-- the parameters of a function up to their closing parenthesis, which is left -/
def parameters (g : Grammar) : Read (List Parameter) :=
  parametersWith g (parameterPattern g)

/-- do the parameters bind plain names only? -/
def allPlain (parameters : List Parameter) : Bool :=
  parameters.all fun p => isPlainParameter p.pattern

/-! ## Bodies -/

/-- statements up to a closing brace, which is stepped over -/
def statementsToBrace (g : Grammar) (single : Read Node) : Read (List Node) := do
  let statements ← collect g.fuel do
    if ← isMark closeBrace then return none
    if (← token) == .eof then
      record (.expected closeBrace (← token).text)
      return none
    return some (← single)
  discard (eatMark closeBrace)
  return statements

/-- statements between braces -/
def block (g : Grammar) : Read Node := do
  let lo ← position
  expectMark openBrace
  let statements ← within (fun c => { c with allowIn := true }) (statementsToBrace g (g.statement true))
  make .block lo statements

/-- does a block start with strings among which is the directive for strict code? -/
def hasStrictDirective : Node → Bool
  | .other .block _ statements => directives statements
  | _ => false
where
  directives : List Node → Bool
    | .other .expressionStatement _ [.string _ _ raw] :: rest =>
      raw == "'use strict'" || raw == "\"use strict\"" || directives rest
    | _ => false

/-- what holds in the body of a function -/
def bodyContext (isAsync isGenerator isArrow : Bool) (c : Context) : Context :=
  { c with
    inStaticBlock := false
    breakAllowed := false
    continueAllowed := false
    inFunction := true
    inParameters := false
    inClassField := c.inClassField && isArrow
    inConditional := c.inConditional && isArrow
    inAsync := isAsync
    inGenerator := isGenerator
    inPlainFunction := c.inPlainFunction || !isArrow }

/-- read a body with labels and the like of its own -/
def ownState {α : Type} (reader : Read α) : Read α := do
  let outer ← get
  modify fun s => { s with labels := [], arrowStart := none, trailingCommas := [] }
  let result ← reader
  modify fun s =>
    { s with labels := outer.labels, arrowStart := outer.arrowStart, trailingCommas := outer.trailingCommas }
  return result

/-- the directive for strict code may not stand in a function whose parameters are more than plain names -/
def checkDirective (body : Node) (plain : Bool) : Read Unit := do
  if !plain && hasStrictDirective body then recordNode body .strictDirective

/-- the body of an arrow function: a block or an expression -/
def arrowBody (g : Grammar) (isAsync plain : Bool) : Read Node :=
  within (bodyContext isAsync false true) <| ownState do
    if ← isMark openBrace then
      let body ← block g
      checkDirective body plain
      return body
    else g.assignment

/-- the body of a function; in a typed dialect it may be left out -/
def functionBody (g : Grammar) (isAsync isGenerator plain : Bool) : Read (List Node) := do
  if (← read).inDeclare && (← typed) && (← isMark openBrace) then record (.rule .bodyInDeclaration)
  within (bodyContext isAsync isGenerator false) <| ownState do
    if ← typed <&&> notM (isMark openBrace) <&&> eatSemicolon then return []
    let body ← block g
    checkDirective body plain
    return [body]

/-- A function from its type parameters on. `check` looks at the parameters once they are read. -/
def functionRest (g : Grammar) (lo : Nat) (decorators : List Node) (check : List Parameter → Read Unit)
    (isAsync isGenerator : Bool) : Read (List Node) :=
  within (fun c => { c with inAsync := isAsync, inGenerator := isGenerator, inClassField := false }) do
    let types ← typeParameters g false true
    expectMark "("
    let params ← within (fun c => { c with inParameters := true, inFunction := false }) do
      let params ← parameters g
      check params
      return params
    expectMark ")"
    let result ← if (← typed) && (← isMark ":") then pure [← typeOrPredicate g ":"] else pure []
    let body ← functionBody g isAsync isGenerator (allPlain params)
    if (← typed) && body.isEmpty && params.any (fun p => p.pattern.isKind .defaultPattern) then
      recordRule lo .defaultWithoutBody
    return params.flatMap Parameter.parts ++ decorators ++ body ++ types ++ result

/-- nothing to check about parameters -/
def anyParameters (_ : List Parameter) : Read Unit := pure ()

/-- a getter has no parameters -/
def noParameters (params : List Parameter) : Read Unit := do
  if params.any fun p => !isReceiver p.pattern then record (.rule .getterParameter)

/-- a setter has one parameter, which takes no list -/
def oneParameter (params : List Parameter) : Read Unit := do
  if (params.filter fun p => !isReceiver p.pattern).length != 1 then record (.rule .setterParameters)
  match params with
  | first :: _ => if first.pattern.isKind .restPattern then record (.rule .restOfSetter)
  | [] => pure ()

/-! ## Functions with a name -/

/-- the name of a function or class; it may be left out where `required` is false -/
def ownName (required forbidLet : Bool) : Read (List Node) := do
  if required then return [← boundName forbidLet]
  else if (← isReference) || ((← typed) && (← isWord "this")) then return [← boundName forbidLet]
  else return []

/-- a function from its keyword on; one that is an expression has a body -/
def functionFrom (g : Grammar) (lo : Nat) (decorators : List Node) (isAsync isExpression required : Bool) :
    Read Node := do
  expectWord "function"
  let isGenerator ← eatMark "*"
  let name ← if isExpression then
      within (fun c => { c with inAsync := isAsync, inGenerator := isGenerator }) (ownName required false)
    else ownName required false
  let parts ← functionRest g lo decorators anyParameters isAsync isGenerator
  if isExpression && !parts.any (·.isKind .block) then unexpected
  make .function lo (name ++ parts)

/-- a function that is a declaration -/
def functionDeclaration (g : Grammar) (lo : Nat) (decorators : List Node) (isAsync required : Bool) : Read Node :=
  functionFrom g lo decorators isAsync false required

/-! ## Arrow functions with type parameters -/

/-- an asynchronous arrow function from its type parameters on, if there is one -/
def genericArrow? (g : Grammar) (lo : Nat) : Read (Option Node) := do
  unless ← isMark "<" do return none
  let head ← attempt do
    let types ← typeParameters g false false
    expectMark "("
    let params ← parameters g
    expectMark ")"
    let result ← if ← isMark ":" then pure [← typeOrPredicate g ":"] else pure []
    expectMark "=>"
    return some (types ++ result, params)
  match head with
  | none => return none
  | some (types, params) =>
    let body ← within (fun c => { c with inAsync := true, inGenerator := false }) (arrowBody g true (allPlain params))
    return some (← make .arrow lo (params.flatMap Parameter.parts ++ [body] ++ types))

end ResourceInliner.Script
