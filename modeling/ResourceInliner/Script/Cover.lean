/-
Expressions that turn out to be patterns: the left side of an assignment, and the head of an arrow function.

- `isSimpleTarget`: names and accesses, which a plain assignment can write to.
- `checkTarget`: record a fault for what cannot be written to.
- `toPattern`: an expression as a pattern.
-/
import ResourceInliner.Script.Reader

namespace ResourceInliner.Script

/-- can a plain assignment write to the expression? -/
def isSimpleTarget : Node → Bool
  | .name _ word => word != "eval" && word != "arguments"
  | .other .member _ _ | .other .index _ _ => true
  | .other .paren _ [inner] => isSimpleTarget inner
  | .other .nonNull _ [inner] => isSimpleTarget inner
  | .other .typed _ (inner :: _) => isSimpleTarget inner
  | .other .instantiation _ (inner :: _) => isSimpleTarget inner
  | _ => false

/-- is the expression one that the typed dialect lets pass as a target? -/
def passesAsTarget (callsToo : Bool) : Node → Bool
  | .string _ _ _ | .other .number _ _ | .other .literal _ _ | .other .regex _ _ => true
  | .other (.binary _) _ _ => true
  | .call _ _ _ _ => callsToo
  | .other .paren _ [inner] => passesAsTarget callsToo inner
  | _ => false

/-- record a fault for an expression that cannot be written to -/
def checkTarget (target : Node) (callsToo : Bool) : Read Unit := do
  unless isSimpleTarget target do
    if !(← typed) then recordNode target .noTarget
    else match target with
      | .name _ _ => recordNode target .strictArguments
      | _ => unless passesAsTarget callsToo target do recordNode target .noTypedTarget

/-- what kinds of expression can be the target of an assignment at all -/
def isTargetKind : Node → Bool
  | .name _ _ => true
  | .other kind _ _ =>
    [NodeKind.member, .index, .optionalChain, .paren, .typed, .nonNull, .instantiation, .arrayPattern, .objectPattern,
      .invalid].contains kind
  | _ => false

/-- what a pattern is for -/
inductive PatternUse where
  | assignment
  | assignmentElement
  | binding
  deriving DecidableEq, Repr

/-- the use of a pattern inside another -/
def PatternUse.inner : PatternUse → PatternUse
  | .binding => .binding
  | _ => .assignmentElement

/-- a node that stands for a broken pattern -/
def brokenPattern (node : Node) : Read Node := do
  recordNode node .noPattern
  return .other .invalid node.span []

/-- is the expression one that may be an element of an assignment pattern as it is? -/
def isElementTarget : Node → Bool
  | .name _ _ | .string _ _ _ | .call _ _ _ _ | .cls _ _ _ _ => true
  | .other kind _ _ =>
    [NodeKind.member, .index, .construct, .number, .literal, .regex, .function, .paren, .template, .typed].contains kind
  | _ => false

/-- An expression as a pattern. The nesting of the expression bounds the recursion, so the fuel of the grammar is
enough. -/
def toPattern : Nat → PatternUse → Node → Read Node
  | 0, _, _ => fail .tooDeep
  | fuel + 1, use, node => do
    let isLiteral := match node with
      | .array _ _ | .object _ _ => true
      | _ => false
    if use == .assignment && !isLiteral then
      checkTarget node false
      return node
    if use == .assignmentElement && !isLiteral && isElementTarget node then
      unless isSimpleTarget node do recordNode node .noTarget
      return node
    match node with
    | .name _ _ => return node
    | .other (.assign "=") span parts => return .other .defaultPattern span parts
    | .object span props =>
      let trailing := (← get).trailingCommas.contains (offsetOf span.lo)
      let parts ← props.zipIdx.mapM fun (prop, index) => do
        match prop with
        | .shorthand span word => return Node.name span word
        | .withDefault span at_ word value => return .other .defaultPattern span [.name at_ word, value]
        | .keyValue key value =>
          let target ← toPattern fuel use.inner value
          let computed := match key with
            | .computed _ inner => [inner]
            | _ => []
          return .other .keyedPattern prop.span (computed ++ [target])
        | .method _ span _ _ => failAt (offsetOf span.lo) (offsetOf span.hi) (.rule .noPattern)
        | .spread _ operand =>
          if index + 1 != props.length then recordNode operand .elementAfterRest
          else if trailing then recordNode operand .commaAfterRest
          let target ← match use, operand with
            | .binding, .name _ _ => pure operand
            | .binding, _ => brokenPattern operand
            | _, _ => toPattern fuel use.inner operand
          if target.isKind .defaultPattern then recordNode operand .defaultOfRest
          return .other .restPattern prop.span [target]
      return .other .objectPattern span parts
    | .array span items =>
      let trailing := (← get).trailingCommas.contains (offsetOf span.lo)
      let parts ← items.zipIdx.mapM fun (item, index) => do
        match item with
        | .hole => return []
        | .element value => return [← toPattern fuel use.inner value]
        | .spread _ operand =>
          if index + 1 != items.length then recordNode operand .elementAfterRest
          else if trailing then recordNode operand .commaAfterRest
          if operand.isKind (.assign "=") then recordNode operand .defaultOfRest
          let target ← toPattern fuel use.inner operand
          return [.other .restPattern ⟨operand.span.lo, operand.span.hi⟩ [target]]
      return .other .arrayPattern span parts.flatten
    | .other .arrayPattern _ _ | .other .objectPattern _ _ | .other .invalid _ _ => return node
    | _ => brokenPattern node

/-- a pattern binds no name that may not be bound in strict code -/
def checkBoundNames : Nat → Node → Read Unit
  | 0, _ => pure ()
  | fuel + 1, node => do
    match node with
    | .name _ word => if word == "eval" || word == "arguments" then recordNode node .strictBinding
    | .other .defaultPattern _ (target :: _) => checkBoundNames fuel target
    | .other .keyedPattern _ parts => for part in parts.getLast? do checkBoundNames fuel part
    | .other .parameter _ (target :: _) => checkBoundNames fuel target
    | .other .restPattern _ (target :: _) => checkBoundNames fuel target
    | .other .arrayPattern _ parts | .other .objectPattern _ parts => for part in parts do checkBoundNames fuel part
    | _ => pure ()

end ResourceInliner.Script
