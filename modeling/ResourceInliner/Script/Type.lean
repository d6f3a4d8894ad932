/-
Types. They leave no trace in what a module does, but they may contain expressions, and they decide where constructs
end.
-/
import ResourceInliner.Script.Function
import ResourceInliner.Script.Template

namespace ResourceInliner.Script

/-! ## Names -/

/-- a name with further names after dots -/
def qualifiedName (g : Grammar) (reservedAllowed : Bool) : Read Node := do
  let lo ← position
  let first ← anyName
  iterate (fun left => do
    unless ← eatMark "." do return .inr left
    if ← isMark "#" then unexpected
    if !(← isAnyWord) then
      record (.rule .nameAfterDot)
      return .inr left
    let right ← if reservedAllowed then anyName else identifier false
    return .inl (← make .typeNode lo [left, right])) g.fuel first

/-- a reference to a named type -/
def typeReference (g : Grammar) : Read Node := do
  let lo ← position
  let hasModifier ← eatParameterModifier
  let name ← qualifiedName g true
  let arguments ← if !(← newlineBefore) && ((← isMark "<") || (← isMark "<<")) then typeArguments g else pure []
  if hasModifier then recordRule lo .propertyOutOfPlace
  make .typeNode lo (name :: arguments)

/-! ## Functions -/

/-- Skip what a parameter of a function type starts with; `false` if no parameter starts here. -/
def skipParameterStart (g : Grammar) : Read Bool := do
  discard eatParameterModifier
  if ← isAnyWord then
    advance
    return true
  if (← isMark openBrace) || (← isMark "[") then
    match ← failing (bindingPattern g false) with
    | .ok _ => return true
    | .error _ => return false
  return false

/-- does the parenthesis at hand open the parameters of a function type for sure? -/
def opensParameters (g : Grammar) : Read Bool := do
  advance
  if (← isMark ")") || (← isMark "...") then return true
  if ← skipParameterStart g then
    if (← isMark ":") || (← isMark ",") || (← isMark "?") || (← isMark "=") then return true
    if ← eatMark ")" <&&> isMark "=>" then return true
  return false

/-- the parameters of a signature, after their opening parenthesis -/
def signatureParameters (g : Grammar) : Read (List Node) := do
  let params ← parameters g
  if params.any fun p => p.pattern.isKind .defaultPattern then unexpected
  expectMark ")"
  return params.flatMap Parameter.parts

/-- a function type from its type parameters on -/
def functionType (g : Grammar) (lo : Nat) : Read Node := do
  let types ← typeParameters g false true
  expectMark "("
  let params ← signatureParameters g
  let result ← typeOrPredicate g "=>"
  make .typeNode lo (types ++ params ++ [result])

/-! ## Members of object types -/

/-- the end of a member -/
def memberEnd : Read Unit := do
  unless ← eatMark "," do expectSemicolon

/-- the name of a member; what it computes -/
def memberName (g : Grammar) : Read (List Node) := do
  if ← eatMark "[" then
    let inner ← g.assignment
    expectMark "]"
    return [inner]
  match ← token with
  | .string _ _ | .number =>
    advance
    return []
  | .punct "#" =>
    let lo ← position
    advance
    discard anyName
    recordRule lo .privateNameInType
    return []
  | _ => return [← anyName]

/-- does a bracket open an index signature for sure? -/
def opensIndex : Read Bool := do
  unless ← isMark "[" do return false
  lookAhead do
    advance
    unless ← isReference do return false
    advance
    return (← isMark ":") || (← isMark ",")

/-- an index signature, if one starts here -/
def indexSignature? (g : Grammar) (lo : Nat) : Read (Option Node) := do
  unless ← opensIndex do return none
  advance
  let name ← anyName
  if ← eatMark "," then recordNode name .indexParameters else expectMark ":"
  let key ← g.type
  expectMark "]"
  let value ← typeAfterColon g
  memberEnd
  return some (← make .indexSignature lo (name :: key :: value))

/-- the parameters and result of a signature, from its type parameters on -/
def signatureRest (g : Grammar) : Read (List Node) := do
  let types ← typeParameters g false true
  expectMark "("
  let params ← signatureParameters g
  let result ← if ← isMark ":" then pure [← typeOrPredicate g ":"] else pure []
  memberEnd
  return types ++ params ++ result

/-- an accessor among the members of a type -/
def memberAccessor (g : Grammar) (lo : Nat) (isReadonly : Bool) : Read (Option Node) :=
  attempt do
    if isReadonly then unexpected
    let isGet ← eatWord "get"
    unless isGet do expectWord "set"
    let name ← memberName g
    expectMark "("
    if isGet then
      expectMark ")"
      let type ← typeAfterColon g
      memberEnd
      return some (← make .typeNode lo (name ++ type))
    else
      let params ← signatureParameters g
      if params.isEmpty then unexpected
      memberEnd
      return some (← make .typeNode lo (name ++ params))

/-- a property or method among the members of a type -/
def memberSignature (g : Grammar) (lo : Nat) (isReadonly : Bool) : Read Node := do
  let name ← memberName g
  discard (eatMark "?")
  if (← isMark "(") || (← isMark "<") then
    if isReadonly then unexpected
    make .typeNode lo (name ++ (← signatureRest g))
  else
    let type ← typeAfterColon g
    memberEnd
    make .typeNode lo (name ++ type)

/-- a member of an object type -/
def typeMember (g : Grammar) : Read Node := do
  let lo ← position
  if (← isMark "(") || (← isMark "<") then return ← make .typeNode lo (← signatureRest g)
  if ← isWord "new" then
    let next := (← peek).token
    if next == .punct "(" || next == .punct "<" then
      advance
      return ← make .typeNode lo (← signatureRest g)
  let isReadonly := (← modifier? ["readonly"] false).isSome
  match ← indexSignature? g lo with
  | some node => return node
  | none =>
    match ← memberAccessor g lo isReadonly with
    | some node => return node
    | none => memberSignature g lo isReadonly

/-- the members of an object type between braces -/
def typeMembers (g : Grammar) : Read (List Node) := do
  expectMark openBrace
  let members ← collect g.fuel do
    if ← isMark closeBrace then return none
    return some (← enclosed (typeMember g))
  expectMark closeBrace
  return members

/-! ## Mapped types -/

/-- does a brace open a mapped type? -/
def opensMapped : Read Bool :=
  lookAhead do
    advance
    if ← eatMark "+" <||> eatMark "-" then return ← isWord "readonly"
    if ← isWord "readonly" then advance
    unless ← isMark "[" do return false
    advance
    unless ← isReference do return false
    advance
    isWord "in"

/-- a mapped type from its brace on -/
def mappedType (g : Grammar) : Read Node := do
  let lo ← position
  expectMark openBrace
  if ← eatMark "+" <||> eatMark "-" then expectWord "readonly" else discard (eatWord "readonly")
  expectMark "["
  let name ← anyName
  expectWord "in"
  let constraint ← enclosed g.type
  let renamed ← if ← eatWord "as" then pure [← enclosed g.type] else pure []
  expectMark "]"
  if ← eatMark "+" <||> eatMark "-" then expectMark "?" else discard (eatMark "?")
  let type ← if ← eatMark ":" then pure [← enclosed g.type] else pure []
  expectSemicolon
  expectMark closeBrace
  make .typeNode lo (name :: constraint :: renamed ++ type)

/-! ## Tuples -/

/-- the label of an entry of a tuple -/
def tupleLabel : Read (Option Unit) :=
  attempt do
    discard (eatMark "...")
    discard anyName
    discard (eatMark "?")
    expectMark ":"
    return some ()

/-- an entry of a tuple; an optional one without a label is a type of its own kind -/
def tupleEntry (g : Grammar) : Read Node := do
  let lo ← position
  let isRest ← isMark "..."
  if (← tupleLabel).isNone then discard (eatMark "...")
  let type ← g.type
  if isRest then return ← make .restPattern lo [type]
  if ← eatMark "?" then return ← make .defaultPattern lo [type]
  make .typeNode lo [type]

/-- does a required entry follow an optional one? -/
def requiredAfterOptional : Bool → List Node → Bool
  | _, [] => false
  | seen, entry :: rest =>
    if entry.isKind .restPattern then requiredAfterOptional seen rest
    else if entry.isKind .defaultPattern then requiredAfterOptional true rest
    else seen || requiredAfterOptional seen rest

/-- a tuple type -/
def tupleType (g : Grammar) : Read Node := do
  let lo ← position
  expectMark "["
  let entries ← delimited g .tuple (tupleEntry g)
  expectMark "]"
  if requiredAfterOptional false entries then failAt lo (← get).lastHi (.rule .requiredAfterOptional)
  make .typeNode lo entries

/-! ## Types that need no parentheses -/

/-- the options of an imported type: an object that names attributes -/
def importTypeOptions (g : Grammar) : Read (List Node) := do
  unless ← eatMark "," do return []
  unless ← isMark openBrace do return []
  let lo ← position
  advance
  expectWord "with"
  expectMark ":"
  let attributes ← g.assignment
  discard (eatMark ",")
  expectMark closeBrace
  return [← make .attributes lo [attributes]]

/-- a type from another module -/
def importType (g : Grammar) : Read Node := do
  let lo ← position
  expectWord "import"
  expectMark "("
  match ← token with
  | .string _ _ => advance
  | _ =>
    record (.rule .stringExpected)
    advance
  let options ← importTypeOptions g
  expectMark ")"
  let qualifier ← if ← eatMark "." then pure [← qualifiedName g false] else pure []
  let arguments ← if ← isMark "<" then typeArguments g else pure []
  make .typeNode lo (options ++ qualifier ++ arguments)

/-- the type of a value -/
def typeQuery (g : Grammar) : Read Node := do
  let lo ← position
  expectWord "typeof"
  let name ← if ← isWord "import" then importType g else qualifiedName g true
  let arguments ← if !(← newlineBefore) && (← isMark "<") then typeArguments g else pure []
  make .typeNode lo (name :: arguments)

/-- names of types that are not references unless a dot follows -/
def typeKeywords : List String :=
  ["any", "boolean", "bigint", "never", "number", "object", "string", "symbol", "unknown", "undefined", "void", "null",
    "intrinsic"]

/-- words that a type may start with although they are reserved -/
def typeWords : List String := ["void", "yield", "null", "await", "break"]

/-- a type without operators around it -/
def primaryType (g : Grammar) : Read Node := do
  let lo ← position
  match ← token with
  | .word "true" | .word "false" | .string _ _ | .number | .bigint =>
    advance
    make .typeNode lo []
  | .word "import" => importType g
  | .word "this" =>
    advance
    if !(← newlineBefore) && (← isWord "is") then
      advance
      make .typeNode lo [← g.type]
    else make .typeNode lo []
  | .word "typeof" => typeQuery g
  | .word word =>
    if keywords.contains word && !typeWords.contains word then unexpected
    if word == "let" then unexpected
    if word == "asserts" && (← peekWord "this") then
      advance
      advance
      if !(← newlineBefore) && (← isWord "is") then
        advance
        return ← make .typeNode lo [← g.type]
      return ← make .typeNode lo []
    if typeKeywords.contains word && !(← peekMark ".") then
      advance
      make .typeNode lo []
    else typeReference g
  | .punct "\x60" => make .typeNode lo (← templateHoles g.fuel false (enclosed g.type))
  | .punct "-" =>
    advance
    match ← token with
    | .number | .bigint =>
      advance
      make .typeNode lo []
    | _ => unexpected
  | .punct "\x7b" => if ← opensMapped then mappedType g else make .typeNode lo (← typeMembers g)
  | .punct "[" => tupleType g
  | .punct "(" =>
    advance
    let inner ← enclosed g.type
    expectMark ")"
    make .typeNode lo [inner]
  | _ => unexpected

/-- a type with brackets after it -/
def arrayType (g : Grammar) : Read Node := do
  let lo ← position
  let first ← primaryType g
  iterate (fun element => do
    if ← newlineBefore then return .inr element
    unless ← eatMark "[" do return .inr element
    if ← eatMark "]" then return .inl (← make .typeNode lo [element])
    let index ← enclosed g.type
    expectMark "]"
    return .inl (← make .typeNode lo [element, index])) g.fuel first

/-- a type that is inferred, with its bound unless the bound starts a conditional type -/
def inferType (operand : Read Node) : Read Node := do
  let lo ← position
  expectWord "infer"
  let name ← anyName
  let c ← read
  let bound ← attempt do
    expectWord "extends"
    let bound ← within (fun c => { c with plainTypes := true }) operand
    if c.plainTypes || !(← isMark "?") then return some bound else return none
  make .typeNode lo (name :: bound.toList)

/-- a type that binds more tightly than intersections; `union` reads a union or anything tighter -/
def operandType (g : Grammar) (union : Read Node) : Read Node := do
  let lo ← position
  match ← token with
  | .word "keyof" | .word "unique" | .word "readonly" =>
    advance
    make .typeNode lo [← g.typeOperand]
  | .word "infer" => inferType union
  | _ => arrayType g

/-- types with a mark between them, and perhaps one in front -/
def joinedTypes (g : Grammar) (mark : String) (part : Read Node) : Read Node := do
  let lo ← position
  discard (eatMark mark)
  let first ← part
  if ← isMark mark then
    let more ← collect g.fuel do
      if ← eatMark mark then return some (← part) else return none
    make .typeNode lo (first :: more)
  else return first

/-- a union of types, or a function type, or anything tighter -/
def plainType (g : Grammar) : Read Node := do
  let lo ← position
  if ← isMark "<" then return ← functionType g lo
  if ← isMark "(" then
    if ← lookAhead (opensParameters g) then return ← functionType g lo
  if (← isWord "new") || ((← isWord "abstract") && (← peekWord "new")) then
    discard (eatWord "abstract")
    expectWord "new"
    return ← functionType g lo
  joinedTypes g "|" (joinedTypes g "&" g.typeOperand)

/-- a type -/
def type (g : Grammar) : Read Node := do
  let lo ← position
  let checked ← plainType g
  if (← read).plainTypes || (← newlineBefore) then return checked
  unless ← eatWord "extends" do return checked
  let bound ← within (fun c => { c with plainTypes := true }) (plainType g)
  expectMark "?"
  let yes ← enclosed g.type
  expectMark ":"
  let no ← enclosed g.type
  make .typeNode lo [checked, bound, yes, no]

end ResourceInliner.Script
