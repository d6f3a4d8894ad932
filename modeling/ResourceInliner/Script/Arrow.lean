/-
Parentheses, which hold an expression or the parameters of an arrow function. Which of the two it is shows only after
the closing parenthesis, so their entries are read as expressions and made patterns where an arrow follows.

- `ParenEntry`: an entry between parentheses.
- `parenEntries`: all of them.
- `parenthesized`: the expression or the arrow function.
-/
import ResourceInliner.Script.Operator

namespace ResourceInliner.Script

/-- an entry between parentheses -/
inductive ParenEntry where
  | plain (value : Node)
  | spread (lo : Nat) (value : Node)
  /-- what can only be a parameter -/
  | pattern (node : Node)

/-- can the entry only be a parameter? -/
def ParenEntry.isPattern : ParenEntry → Bool
  | .pattern _ => true
  | _ => false

/-- is the entry a rest parameter? -/
def ParenEntry.isRest : ParenEntry → Bool
  | .spread _ _ => true
  | .pattern node => node.isKind .restPattern
  | .plain _ => false

/-! ## Entries -/

/-- May the token at hand, or the one after dots, refer to something? -/
def entryIsReference : Read Bool := do
  if ← isMark "..." then peekReference else isReference

/-- An entry as an expression. In the typed dialect a question mark after a name may make a parameter optional, so it is
left for later. -/
def entryExpression (g : Grammar) : Read ParenEntry := do
  let lo ← position
  if (← typed) && (← entryIsReference) then
    if ← eatMark "..." then return .spread lo (← binary g)
    return .plain (← withAssigned g lo (← binary g))
  if ← eatMark "..." then return .spread lo (← g.assignment) else return .plain (← g.assignment)

/-- does a question mark make a parameter optional? -/
def marksOptional : Read Bool := do
  unless ← isMark "?" do return false
  match (← peek).token with
  | .punct "," | .punct "=" | .punct ")" | .punct ":" => return true
  | _ => return false

/-- An entry after its expression, with whether it is an optional parameter. -/
def entryAfterQuestion (g : Grammar) (entry : ParenEntry) : Read (ParenEntry × Bool) := do
  unless (← typed) && (← isMark "?") do return (entry, false)
  if ← marksOptional then
    advance
    match entry with
    | .plain (.name _ _) => return (entry, true)
    | .spread _ (.name _ _) =>
      recordRule (← get).lastLo .optionalRest
      return (entry, true)
    | _ => fail (.rule .optionalPattern)
  match entry with
  | .plain test =>
    advance
    return (.plain (← make .conditional (startOf test) (test :: (← branches g))), false)
  | _ => return (entry, false)

/-- an entry as a parameter, with its type and default -/
def typedEntry (g : Grammar) (lo : Nat) (entry : ParenEntry) : Read ParenEntry := do
  let target ← match entry with
    | .plain value => toPattern g.fuel .binding value
    | .spread dots value => do make .restPattern dots [← toPattern g.fuel .binding value]
    | .pattern node => pure node
  let types ← typeAfterColon g
  let target ← if types.isEmpty then pure target
    else if target.isKind .restPattern then make .restPattern lo (target :: types)
    else make .parameter lo (target :: types)
  if ← eatMark "=" then return .pattern (← make .defaultPattern lo [target, ← g.assignment])
  return .pattern target

/-- an entry between parentheses -/
def parenEntry (g : Grammar) : Read ParenEntry := do
  let lo ← position
  modify fun s => { s with arrowStart := some lo }
  let hasModifier ← eatParameterModifier
  let start ← position
  let (entry, optional) ← entryAfterQuestion g (← entryExpression g)
  let entry ← if optional || ((← typed) && (← isMark ":")) then typedEntry g start entry else pure entry
  if hasModifier then recordRule lo .propertyOutOfPlace
  return entry

/-- the entries between parentheses, and whether a comma follows the last -/
def parenEntries (g : Grammar) : Read (List ParenEntry × Bool) :=
  within (fun c => { c with colonEnds := false, allowIn := true }) do
    expectMark "("
    let result ← iterate (fun (found, trailing) => do
      if ← isMark ")" then return .inr (found.reverse, trailing)
      let entry ← parenEntry g
      if ← isMark ")" then return .inl (entry :: found, false)
      expectMark ","
      return .inl (entry :: found, true)) g.fuel (([] : List ParenEntry), false)
    expectMark ")"
    return result

/-! ## Parameters -/

/-- an entry as a parameter; one that is not last cannot be a rest parameter -/
def ParenEntry.parameter (g : Grammar) (isLast trailing : Bool) (entry : ParenEntry) : Read (List Node) := do
  if entry.isRest && !isLast then
    record (.rule .parameterAfterRest)
    return []
  if entry.isRest && trailing then record (.rule .commaAfterRest)
  match entry with
  | .plain value => return [← toPattern g.fuel .binding value]
  | .pattern node => return [node]
  | .spread lo value =>
    if value.isKind (.assign "=") then recordNode value .defaultOfRest
    return [← make .restPattern lo [← toPattern g.fuel .binding value]]

/-- entries as parameters, none of which may bind a name that strict code keeps -/
def entriesAsParameters (g : Grammar) (entries : List ParenEntry) (trailing : Bool) : Read (List Node) := do
  let params ← entries.zipIdx.mapM fun (entry, index) => entry.parameter g (index + 1 == entries.length) trailing
  for param in params.flatten do checkBoundNames g.fuel param
  return params.flatten

/-- an arrow function from its body on -/
def arrowFrom (g : Grammar) (lo : Nat) (isAsync : Bool) (params types : List Node) : Read Node := do
  let body ← arrowBody g isAsync (params.all isPlainParameter)
  make .arrow lo (params ++ [body] ++ types)

/-- In a branch of a conditional: an arrow function whose result has a type. If the colon of the conditional is still to
come, it has to follow. -/
def arrowInBranch? (g : Grammar) (lo : Nat) (isAsync : Bool) (entries : List ParenEntry) : Read (Option Node) := do
  unless (← read).inConditional && (← isMark ":") do return none
  attempt do
    let type ← typeOrPredicate g ":"
    expectMark "=>"
    let params ← entriesAsParameters g entries false
    let arrow ← arrowFrom g lo isAsync params [type]
    if (← read).colonEnds && !(← isMark ":") then unexpected
    return some arrow

/-- the type of an arrow function's result, if a colon and an arrow stand around it -/
def arrowResult? (g : Grammar) : Read (Option Node) := do
  if (← read).colonEnds || !(← isMark ":") then return none
  attempt do
    let type ← typeOrPredicate g ":"
    if ← isMark "=>" then return some type else return none

/-- an arrow function with a block is no operand -/
def checkNoOperand (g : Grammar) (arrow : Node) : Read Node := do
  match arrow with
  | .other .arrow _ parts =>
    if parts.any (·.isKind .block) && (← operatorHere?).isSome then
      record (.expected ")" (← token).text)
      operatorsAfter g g.fuel 0 arrow
    else return arrow
  | _ => return arrow

/-! ## Expressions -/

/-- an object literal with defaults is a pattern, so it cannot stand between parentheses by itself -/
def checkNoDefaults : ParenEntry → Read Unit
  | .plain (.object _ props) => do
    for prop in props do
      if let .withDefault span _ _ _ := prop then
        recordAt (offsetOf span.lo) (offsetOf span.hi) (.rule .defaultOutsidePattern)
  | _ => pure ()

/-- an entry as an argument of a call -/
def ParenEntry.argument : ParenEntry → Read Node
  | .plain value | .pattern value => return value
  | .spread lo value => return .other .spread ⟨place lo, value.span.hi⟩ [value]

/-- an entry as an expression -/
def ParenEntry.expression : ParenEntry → Read Node
  | .plain value | .pattern value => return value
  | .spread lo value => failAt lo (offsetOf value.span.hi) (.rule .spreadInParens)

/-- What stands between parentheses: an arrow function if an arrow follows; else, after the word `async`, the arguments
of a call of that name; else an expression. `lo` is where that word or the parenthesis stands. -/
def parenthesized (g : Grammar) (mayBeArrow : Bool) (asyncWord : Option Node) : Read Node := do
  let lo ← match asyncWord with
    | some word => pure (startOf word)
    | none => position
  let isAsync := asyncWord.isSome
  let (entries, trailing) ← parenEntries g
  if let some arrow ← arrowInBranch? g lo isAsync entries then return arrow
  let result ← arrowResult? g
  if entries.any ParenEntry.isPattern || result.isSome || (← isMark "=>") then
    if ← newlineBefore then failAt lo (← get).lastHi (.rule .lineEndBeforeArrow)
    unless mayBeArrow do failAt lo (← get).lastHi (.rule .arrowAsOperand)
    expectMark "=>"
    let params ← entriesAsParameters g entries trailing
    return ← checkNoOperand g (← arrowFrom g lo isAsync params result.toList)
  for entry in entries do checkNoDefaults entry
  match asyncWord with
  | some word => return .call (← spanFrom lo) word (← entries.mapM ParenEntry.argument) []
  | none =>
    match ← entries.mapM ParenEntry.expression with
    | [] => failAt lo (← get).lastHi (.rule .emptyParens)
    | [inner] => make .paren lo [inner]
    | first :: more =>
      let span : Span := ⟨first.span.lo, ((first :: more).getLast (by simp)).span.hi⟩
      make .paren lo [.other .sequence span (first :: more)]

end ResourceInliner.Script
