/-
Declarations other than functions and classes: variables, and those of the typed dialect alone.

- `variableList`: a list of variables from its keyword on.
- `typedDeclaration?`: what a contextual word such as `namespace` declares.
- `ambient?`: what stands after `declare`.
-/
import ResourceInliner.Script.Operator
import ResourceInliner.Script.Class

namespace ResourceInliner.Script

/-! ## Variables -/

/-- is the token at hand the word between the parts of a loop over things? -/
def atLoopWord : Read Bool := return (← isWord "of") || (← isWord "in")

/-- a variable; `keyword` is what declares it -/
def declarator (g : Grammar) (keyword : String) (inLoop : Bool) : Read Node := do
  let lo ← position
  let target ← bindingPattern g (keyword != "var")
  let isName := match target with
    | .name _ _ => true
    | _ => false
  if (← typed) && isName then discard (eatMark "!")
  let types ← typeAfterColon g
  let value ← if inLoop && (← atLoopWord) then pure []
    else if ← eatMark "=" then pure [← g.assignment]
    else if (← read).inDeclare then pure []
    else do
      if !isName then failAt lo (← get).lastHi (.rule .patternWithoutValue)
      if keyword == "const" && !inLoop then recordRule lo .constWithoutValue
      pure []
  make .variable lo (target :: types ++ value)

/-- variables with commas between them -/
def declarators (g : Grammar) (keyword : String) (inLoop : Bool) : Read (List Node) := do
  let first ← declarator g keyword inLoop
  let more ← collect g.fuel do
    unless ← eatMark "," do return none
    if (← isMark ";") || (← token) == .eof then
      record (.rule .trailingComma)
      return none
    return some (← declarator g keyword inLoop)
  return first :: more

/-- The end of a list of variables. If it is missing, that is recorded, and reading goes on after the next end. -/
def variablesEnd (g : Grammar) : Read Unit := do
  unless ← eatSemicolon do
    record .expectedSemicolon
    discard (failing (expression g))
    iterate (fun _ => do
      if ← eatSemicolon then return .inr ()
      match ← token with
      | .bad _ => unexpected
      | _ =>
        advance
        return .inl ()) g.fuel ()

/-- a list of variables from its keyword on; in the head of a loop nothing ends it -/
def variableList (g : Grammar) (inLoop : Bool) : Read Node := do
  let lo ← position
  let keyword := match ← token with
    | .word word => word
    | _ => ""
  advance
  let allowIn := (← read).allowIn
  let list ← within (fun c => { c with allowIn := allowIn || keyword != "var" || !inLoop })
    (declarators g keyword inLoop)
  unless inLoop do variablesEnd g
  make .variableList lo list

/-- does `using` at hand, or after the token at hand, declare variables? -/
def declaresUsing (afterAwait : Bool) : Read Bool :=
  lookAhead do
    if afterAwait then advance
    let next ← peek
    let named := match next.token with
      | .word word => !isReserved word
      | _ => false
    return (← isWord "using") && named && !next.newline

/-- variables whose values are disposed of, from `using` on -/
def usingVariables (g : Grammar) (lo : Nat) : Read Node := do
  expectWord "using"
  let list ← allowingIn (declarators g "var" false)
  unless ← typed do recordRule lo .usingNotKnown
  for entry in list do
    match entry with
    | .other .variable _ (.name _ _ :: _ :: _) => pure ()
    | .other .variable _ [.name _ _] => recordNode entry .usingWithoutValue
    | _ => recordNode entry .usingPattern
  variablesEnd g
  make .variableList lo list

/-! ## Enumerations, interfaces and aliases -/

/-- a member of an enumeration -/
def enumMember (g : Grammar) : Read Node := do
  let lo ← position
  let key ← match ← token with
    | .string _ _ => do
      advance
      pure []
    | .number | .bigint => do
      advance
      recordRule lo .numberInEnum
      pure []
    | .punct "[" => do
      advance
      let inner ← expression g
      recordRule lo .computedInEnum
      expectMark "]"
      pure [inner]
    | _ => do
      discard anyName
      pure []
  if ← eatMark "=" then return ← make .enumMember lo (key ++ [← g.assignment])
  unless (← isMark ",") || (← isMark closeBrace) do
    record (.expected "," (← token).text)
    unless (← token) == .eof do advance
  make .enumMember lo key

/-- an enumeration from its name on -/
def enumeration (g : Grammar) (lo : Nat) : Read Node := do
  discard anyName
  expectMark openBrace
  let list ← delimited g .enumMembers (enumMember g)
  expectMark closeBrace
  make .enumeration lo list

/-- an interface from its name on -/
def interface (g : Grammar) (lo : Nat) : Read Node := do
  let name ← anyName
  if typeOnlyNames.contains (nameOf name) then recordNode name .interfaceName
  let types ← typeParameters g true false
  let bases ← if ← eatWord "extends" then heritage g else pure []
  if ← isWord "extends" then
    record (.rule .extendsTwice)
    iterate (fun _ => do
      if (← token) == .eof || (← isMark openBrace) then return .inr ()
      advance
      return .inl ()) g.fuel ()
  let inner ← typeMembers g
  make .interface lo (types ++ bases ++ inner)

/-- an alias of a type from its name on -/
def typeAlias (g : Grammar) (lo : Nat) : Read Node := do
  discard anyName
  let types ← typeParameters g true false
  expectMark "="
  let type ← g.type
  expectSemicolon
  make .typeAlias lo (types ++ [type])

/-! ## Namespaces -/

/-- module items between braces -/
def moduleBlock (g : Grammar) : Read (List Node) := do
  expectMark openBrace
  statementsToBrace g g.moduleItem

/-- a namespace from its name on, which may have further names after dots -/
def namespaceFrom (g : Grammar) (lo : Nat) : Read Node := do
  discard anyName
  discard (collect g.fuel do if ← eatMark "." then return some (← anyName) else return none)
  make .namespaceDecl lo (← moduleBlock g)

/-- a module named by a string, or the global one, from its name on; its items may be left out -/
def ambientModule (g : Grammar) (lo : Nat) : Read Node := do
  advance
  if ← isMark openBrace then make .namespaceDecl lo (← moduleBlock g)
  else
    expectSemicolon
    make .namespaceDecl lo []

/-! ## Words that declare something -/

/-- What a word declares. `ahead` says that the word is the token at hand and that only a declaration can follow; else
it has been read as a name. -/
def typedDeclaration? (g : Grammar) (lo : Nat) (decorators : List Node) (word : String) (ahead : Bool) :
    Read (Option Node) := do
  let newline ← newlineBefore
  let named ← isReference
  let takeWord : Read Unit := if ahead then advance else pure ()
  match word with
  | "abstract" =>
    if ahead || ((← isWord "class") && !newline) then
      takeWord
      return some (← classFrom g .declaration lo decorators true true)
  | "enum" =>
    if ahead || named then
      takeWord
      return some (← enumeration g lo)
  | "interface" =>
    if ahead || named then
      takeWord
      return some (← interface g lo)
  | "module" =>
    if !newline then
      takeWord
      match ← token with
      | .string _ _ => return some (← ambientModule g lo)
      | _ => if ahead || named then return some (← namespaceFrom g lo)
  | "namespace" =>
    if ahead || named then
      takeWord
      return some (← namespaceFrom g lo)
  | "type" =>
    if ahead || (named && !newline) then
      takeWord
      return some (← typeAlias g lo)
  | _ => pure ()
  return none

/-- What stands after `declare`: a declaration of what is implemented elsewhere. -/
def ambient? (g : Grammar) (lo : Nat) (decorators : List Node) : Read (Option Node) := do
  if (← read).inDeclare then recordRule lo .declareTwice
  within (fun c => { c with inDeclare := true }) do
    match ← token with
    | .word "function" => return some (← functionDeclaration g lo decorators false true)
    | .word "class" => return some (← classFrom g .declaration lo decorators false true)
    | .word "const" =>
      if ← peekWord "enum" then
        advance
        advance
        return some (← enumeration g lo)
      return some (← variableList g false)
    | .word "var" | .word "let" => return some (← variableList g false)
    | .word "global" => return some (← ambientModule g lo)
    | .word word => typedDeclaration? g lo decorators word true
    | _ => return none

end ResourceInliner.Script
