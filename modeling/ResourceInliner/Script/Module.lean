/-
Imports, exports, and the items of a module.

- `moduleItem`: a statement, an import or an export.
-/
import ResourceInliner.Script.Statement
import ResourceInliner.Script.Literals

namespace ResourceInliner.Script

/-! ## Sources -/

/-- the attributes that the source of an import may have on its line -/
def sourceAttributes (g : Grammar) : Read (List Node) := do
  if ← newlineBefore then return []
  unless ← eatWord "assert" <||> eatWord "with" do return []
  unless ← isMark openBrace do unexpected
  return [← objectLiteral g]

/-- the string that names a module, with its attributes and the end of the statement -/
def moduleSource (g : Grammar) : Read (List Node) := do
  match ← token with
  | .string _ _ => advance
  | _ => unexpected
  let attributes ← sourceAttributes g
  expectSemicolon
  return attributes

/-- the source of an import or export after the word for it -/
def fromSource (g : Grammar) : Read (List Node) := do
  expectWord "from"
  moduleSource g

/-! ## Names between braces -/

/-- a name as another module sees it: a word or a string -/
def outerName : Read Node := do
  match ← token with
  | .string value raw =>
    let span ← spanHere
    advance
    return .string span value raw
  | _ => anyName

/-- names between braces, after the brace that opens them -/
def nameList {α : Type} (fuel : Nat) (entry : Read α) : Read (List α) := do
  let found ← iterate (fun found => do
    if ← isMark closeBrace then return .inr found.reverse
    let next ← entry
    unless ← isMark closeBrace do expectMark ","
    return .inl (next :: found)) fuel []
  expectMark closeBrace
  return found

/-- Read past the word `type` before a name of the typed dialect, if that is what `first` is. The result is the name,
and whether more may follow it: after `type as` and the like the word after `as` has been read too. `renamed` reads the
name that a second `as` gives; `twice` is the rule that the word breaks where all names are of types already. -/
def nameAfterType (allTypes : Bool) (twice : Rule) (first : Node) (renamed : Read Node) : Read (Node × Bool) := do
  unless (← typed) && nameOf first == "type" && (← isAnyWord) do return (first, true)
  let lo := startOf first
  let checkOnce : Read Unit := do if allTypes then recordRule lo twice
  let second ← anyName
  unless nameOf second == "as" do
    checkOnce
    return (second, true)
  unless ← isAnyWord do
    checkOnce
    return (second, false)
  let third ← renamed
  unless nameOf third == "as" do return (first, false)
  if ← isAnyWord then
    discard renamed
    checkOnce
    return (second, false)
  return (first, false)

/-! ## Imports -/

/-- a name between the braces of an import -/
def importedName (allTypes : Bool) : Read Unit := do
  let first ← outerName
  match first with
  | .string _ value _ =>
    unless ← eatWord "as" do recordNode first (.quotedImport value)
    discard (boundName false)
  | _ =>
    let (_, mayGoOn) ← nameAfterType allTypes .typeTwiceInImport first (boundName false)
    if ← pure mayGoOn <&&> eatWord "as" then discard (boundName false)

/-- another module or a part of a namespace, to which an import gives a name -/
def aliasedImport (g : Grammar) (lo : Nat) : Read Node := do
  expectMark "="
  if (← isWord "require") && (← peekMark "(") then
    advance
    advance
    match ← token with
    | .string _ _ => advance
    | _ => unexpected
    expectMark ")"
  else discard (qualifiedName g false)
  expectSemicolon
  make .importDecl lo []

/-- Is a word after the default of an import another name, and not the word before the source? -/
def namesMore : Read Bool := do
  if !(← isReference) then return false
  return !(← isWord "from") || (← peekWord "from")

/-- What an import starts with in front of its names: whether there is a default, whether it is for types only, and
whether an alias has to follow. -/
def importDefault : Read (Bool × Bool) := do
  unless ← isReference do return (false, false)
  let first ← boundName false
  let word := nameOf first
  if (← typed) && word == "type" then
    if (← isMark openBrace) || (← isMark "*") then return (false, true)
    if (← namesMore) || ((← isWord "from") && (← peekMark "=")) then
      discard (boundName false)
      return (true, true)
  if word == "defer" && (← isMark "*") then return (false, false)
  if (word == "source" || word == "defer") && (← namesMore) then discard (boundName false)
  return (true, false)

/-- the names of an import after its default -/
def importNames (g : Grammar) (allTypes : Bool) : Read Unit := do
  if ← eatMark "*" then
    expectWord "as"
    discard (boundName false)
  else if ← eatMark openBrace then discard (nameList g.fuel (importedName allTypes))

/-- an import -/
def importItem (g : Grammar) (lo : Nat) : Read Node := do
  expectWord "import"
  match ← token with
  | .string _ _ => return ← make .importDecl lo (← moduleSource g)
  | _ => pure ()
  let (hasDefault, allTypes) ← importDefault
  if hasDefault && (← typed) && (← isMark "=") then return ← aliasedImport g lo
  if ← pure !hasDefault <||> eatMark "," then importNames g allTypes
  make .importDecl lo (← fromSource g)

/-! ## Exports -/

/-- a name between the braces of an export, by which this module knows what it exports -/
def exportedName (allTypes : Bool) : Read Node := do
  let first ← outerName
  let (name, mayGoOn) ← match first with
    | .string _ _ _ => pure (first, true)
    | _ => nameAfterType allTypes .typeTwiceInExport first anyName
  if ← pure mayGoOn <&&> eatWord "as" then discard outerName
  return name

/-- only a name of this module can be exported without a source -/
def checkLocal (name : Node) : Read Unit := do
  match name with
  | .string _ _ _ => recordNode name .quotedExport
  | .name _ word => if isReserved word then recordNode name (.exportWithoutSource word)
  | _ => pure ()

/-- exported names, from another module or this one -/
def exportNames (g : Grammar) (lo : Nat) (allTypes : Bool) : Read Node := do
  if ← eatMark "*" then
    if ← eatWord "as" then discard outerName
    return ← make .exportDecl lo (← fromSource g)
  expectMark openBrace
  let names ← nameList g.fuel (exportedName allTypes)
  if ← isWord "from" then make .exportDecl lo (← fromSource g)
  else
    for name in names do checkLocal name
    discard eatSemicolon
    make .exportDecl lo []

/-- decorators after the word `export`, which exclude those before it -/
def lateDecorators (g : Grammar) (decorators : List Node) : Read (List Node) := do
  unless ← isMark "@" do return decorators
  let lo ← position
  let late ← decoratorsBefore g false
  unless decorators.isEmpty do failAt lo (← get).lastHi (.rule .decoratorsTwice)
  return late

/-- does an asynchronous function start at the token at hand? -/
def atAsyncFunction : Read Bool := do
  let next ← peek
  return (← isWord "async") && next.token == .word "function" && !next.newline

/-- what is exported as the default of a module -/
def defaultExport (g : Grammar) (decorators : List Node) : Read Node := do
  let decorators ← lateDecorators g decorators
  let lo ← position
  if ← typed then
    let next ← peek
    if (← isWord "abstract") && next.token == .word "class" && !next.newline then
      advance
      return ← classFrom g .defaultExport lo decorators true false
    if ← eatWord "interface" then return ← interface g lo
  if ← isWord "class" then return ← classFrom g .defaultExport lo decorators false false
  if ← atAsyncFunction then
    advance
    return ← functionDeclaration g lo decorators true false
  if ← isWord "function" then return ← functionDeclaration g lo decorators false false
  let value ← allowingIn g.assignment
  expectSemicolon
  return value

/-- a declaration that is exported, if one starts at the token at hand -/
def exportedDeclaration? (g : Grammar) (decorators : List Node) : Read (Option Node) := do
  let lo ← position
  if ← isWord "class" then return some (← classFrom g .declaration lo decorators false true)
  if ← atAsyncFunction then
    advance
    return some (← functionDeclaration g lo decorators true true)
  if ← isWord "function" then return some (← functionDeclaration g lo decorators false true)
  if (← isWord "const") && (← typed) && (← peekWord "enum") then
    advance
    advance
    return some (← enumeration g lo)
  if (← isWord "var") || (← isWord "const") || ((← isWord "let") && (← letDeclares)) then
    return some (← variableList g false)
  return none

/-- What an export of the typed dialect alone holds, if the words after `export` start one. -/
def typedExport? (g : Grammar) (lo : Nat) (decorators : List Node) : Read (Option (List Node)) := do
  unless ← typed do return none
  let start ← position
  if ← eatWord "declare" then
    if let some node ← ambient? g start decorators then return some [node]
  match ← token with
  | .word word =>
    let start ← position
    if let some node ← attempt (typedDeclaration? g start decorators word true) then return some [node]
  | _ => pure ()
  if ← eatWord "import" then
    if (← isWord "type") && (← peekAnyWord) then advance
    discard anyName
    return some [← aliasedImport g lo]
  if ← eatMark "=" then
    let value ← expression g
    expectSemicolon
    return some [value]
  if ← eatWord "as" then
    expectWord "namespace"
    discard (identifier false)
    expectSemicolon
    return some []
  return none

/-- an export, with the decorators before it -/
def exportItem (g : Grammar) (lo : Nat) (decorators : List Node) : Read Node := do
  expectWord "export"
  if let some parts ← typedExport? g lo decorators then return ← make .exportDecl lo parts
  let allTypes ← if ← typed then eatWord "type" else pure false
  if ← pure !allTypes <&&> eatWord "default" then return ← make .exportDecl lo [← defaultExport g decorators]
  let decorators ← lateDecorators g decorators
  if !allTypes then
    if let some node ← exportedDeclaration? g decorators then return ← make .exportDecl lo [node]
  exportNames g lo allTypes

/-! ## Items -/

/-- a statement, an import or an export -/
def moduleItem (g : Grammar) : Read Node := do
  let lo ← position
  let decorators ← decoratorsBefore g true
  if ← isWord "import" then
    if ← importsInExpression then importStatement g lo else importItem g lo
  else if ← isWord "export" then exportItem g lo decorators
  else statementFrom g lo decorators true

end ResourceInliner.Script
