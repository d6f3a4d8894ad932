/-
Classes: their heads and their members.

- `Modifiers`: the words in front of a member.
- `member`: a member of a class.
- `classFrom`: a class from its keyword on.
-/
import ResourceInliner.Script.Chain
import ResourceInliner.Script.Type

namespace ResourceInliner.Script

/-! ## Members -/

/-- the words in front of a member -/
structure Modifiers where
  declared : Bool := false
  /-- `public`, `protected` or `private` -/
  hasAccess : Bool := false
  isStatic : Bool := false
  isAbstract : Bool := false
  isOverride : Bool := false
  isReadonly : Bool := false

/-- a member, with what a class has to know about it -/
structure Member where
  node : Node
  isAbstract : Bool := false
  /-- a constructor with a body -/
  constructs : Bool := false

/-- the key of a member: that of a property, or a private name -/
inductive MemberKey where
  | plain (key : Key)
  | hidden (name : Node)

/-- the key as a part of a tree -/
def MemberKey.parts : MemberKey → List Node
  | .plain key => keyParts key
  | .hidden _ => []

/-- the word of a key that is one -/
def MemberKey.word? : MemberKey → Option String
  | .plain key => keyWord? key
  | .hidden _ => none

/-- does the key name the constructor? -/
def MemberKey.isConstructor : MemberKey → Bool
  | .plain (.name _ word) => word == "constructor"
  | .plain (.quoted _ value) => value == "constructor"
  | _ => false

/-- is the key a private name? -/
def MemberKey.isHidden : MemberKey → Bool
  | .hidden _ => true
  | .plain _ => false

/-- the key of a member -/
def memberKey (g : Grammar) : Read MemberKey := do
  if ← isMark "#" then
    let name ← privateName
    match name with
    | .other .privateName _ [.name _ "constructor"] => recordNode name .privateConstructor
    | _ => pure ()
    return .hidden name
  else return .plain (← propertyKey g)

/-- is the token at hand the start of a method's parameters? -/
def atMethod : Read Bool := do
  return (← isMark "(") || ((← typed) && (← isMark "<"))

/-- Is the token at hand one that follows the name of a property? A line end counts where `lineEnds` is true. -/
def atProperty (lineEnds : Bool) : Read Bool := do
  match ← token with
  | .punct "=" | .punct "\x7d" => return true
  | .punct "!" | .punct ":" => if ← typed then return true else if lineEnds then atSemicolon else return false
  | .punct ";" => return true
  | _ => if lineEnds then atSemicolon else return false

/-- a question mark after the name of a member -/
def eatOptional : Read Bool := do
  if ← typed then eatMark "?" else return false

/-- a method from its type parameters on -/
def methodFrom (g : Grammar) (lo : Nat) (decorators : List Node) (mods : Modifiers) (key : MemberKey)
    (check : List Parameter → Read Unit) (isAsync isGenerator : Bool) : Read Member := do
  let parts ← functionRest g lo decorators check isAsync isGenerator
  let node ← make .method lo (key.parts ++ parts)
  if key.isHidden then
    if mods.hasAccess then recordNode node .accessOfPrivateName
  else if mods.isAbstract && parts.any (·.isKind .block) then recordNode node .abstractBody
  return ⟨node, mods.isAbstract, false⟩

/-- a property from what follows its name on -/
def propertyFrom (g : Grammar) (lo : Nat) (decorators : List Node) (mods : Modifiers) (key : MemberKey)
    (optional : Bool) : Read Member := do
  if key.isConstructor then failAt lo (← get).lastHi (.rule .propertyConstructor)
  if key.isHidden then
    if mods.declared then recordRule lo (.modifierOfPrivateName "declare")
    if mods.hasAccess then recordRule lo .accessOfPrivateName
    if mods.isAbstract then recordRule lo (.modifierOfPrivateName "abstract")
  if (← typed) && !optional then discard (eatMark "!")
  let types ← typeAfterColon g
  within (fun c => { c with allowIn := true, inClassField := true }) do
    let value ← if ← eatMark "=" then pure [← g.assignment] else pure []
    unless ← eatSemicolon do record (.expected ";" (← token).text)
    let node ← make .property lo (key.parts ++ value ++ types ++ decorators)
    if mods.isAbstract && !value.isEmpty then recordNode node .abstractValue
    return ⟨node, mods.isAbstract, false⟩

/-- The word just read as the name of a method or a property, if what follows says that it is one. -/
def wordMember? (g : Grammar) (lo : Nat) (decorators : List Node) (mods : Modifiers) (word : String)
    (lineEnds : Bool) : Read (Option Member) := do
  let key := MemberKey.plain (.name ⟨place (← get).lastLo, place (← get).lastHi⟩ word)
  if ← atMethod then
    return some (← methodFrom g lo decorators mods key anyParameters false false)
  else if (← atProperty lineEnds) || ((← typed) && (← isMark "?")) then
    return some (← propertyFrom g lo decorators mods key (← eatOptional))
  else return none

/-- statements of a class that run once -/
def staticBlock (g : Grammar) (lo : Nat) : Read Member := do
  let body ← within (fun c => { c with
      inStaticBlock := true, inClassField := true, allowIn := true, inAsync := false, inGenerator := false,
      breakAllowed := false, continueAllowed := false }) <| ownState (block g)
  return ⟨← make .staticBlock lo [body], false, false⟩

/-! ## Constructors -/

/-- the modifier that tells how far a member can be seen -/
def accessModifier : Read Bool := do
  match ← modifier? ["public", "protected", "private", "in", "out"] false with
  | none => return false
  | some word =>
    if word == "in" || word == "out" then
      recordRule (← get).lastLo (.varianceOutOfPlace word)
      return false
    return true

/-- a parameter of a constructor, which may declare a property -/
def constructorParameter (g : Grammar) : Read Node := do
  let lo ← position
  let hasAccess ← accessModifier
  let isOverride := (← modifier? ["override"] false).isSome
  let isReadonly := (← modifier? ["readonly"] false).isSome
  let pattern ← parameterPattern g
  if !(hasAccess || isOverride || isReadonly) then return pattern
  match pattern with
  | .name _ _ | .other .parameter _ (.name _ _ :: _) | .other .defaultPattern _ (.name _ _ :: _) =>
    make .decorated lo [pattern]
  | _ => failAt (startOf pattern) (← get).lastHi (.rule .patternAsProperty)

/-- a pattern with the modifiers of a property it declares taken off -/
def withoutModifiers : Node → Node
  | .other .decorated _ [pattern] => pattern
  | pattern => pattern

/-- a constructor from its type parameters on -/
def constructorFrom (g : Grammar) (lo : Nat) (mods : Modifiers) (key : MemberKey) : Read Member := do
  if ← typed then
    if mods.isStatic then recordRule lo (.modifierOfConstructor "static")
    if mods.isAbstract then recordRule lo (.modifierOfConstructor "abstract")
    if mods.isOverride then recordRule lo (.modifierOfConstructor "override")
  let types ← typeParameters g false true
  for type in types do recordNode type .typeParametersOfConstructor
  expectMark "("
  let params ← within (fun c => { c with inParameters := true, inFunction := false, inClassField := false })
    (parametersWith g (constructorParameter g))
  expectMark ")"
  let result ← typeAfterColon g
  for type in result do recordNode type .resultOfConstructor
  let plain := params.all fun p => isPlainParameter p.pattern
  let body ← within (fun c => { c with inClassField := false }) (functionBody g false false plain)
  if body.isEmpty then
    if params.any fun p => p.pattern.isKind .decorated then recordRule lo .propertyOutOfPlace
    if params.any fun p => (withoutModifiers p.pattern).isKind .defaultPattern then
      recordRule lo .defaultWithoutBody
  let node ← make .constructor lo (key.parts ++ params.flatMap Parameter.parts ++ body)
  return ⟨node, false, !body.isEmpty⟩

/-! ## Reading members -/

/-- the modifiers after `static`, in any order -/
def laterModifiers (g : Grammar) (mods : Modifiers) : Read Modifiers :=
  iterate (fun mods => do
    match ← modifier? ["abstract", "readonly", "override", "static"] true with
    | none => return .inr mods
    | some word =>
      let lo := (← get).lastLo
      match word with
      | "abstract" =>
        if mods.isAbstract then recordRule lo (.modifierTwice "abstract")
        else if mods.isOverride then recordRule lo (.modifierOrder "abstract" "override")
        return .inl { mods with isAbstract := true }
      | "override" =>
        if mods.isOverride then recordRule lo (.modifierTwice "override")
        else if mods.isReadonly then recordRule lo (.modifierOrder "override" "readonly")
        else if mods.declared then recordRule lo (.modifiersTogether "override" "declare")
        else if !(← read).inSubclass then recordRule lo .overrideWithoutBase
        return .inl { mods with isOverride := true }
      | "readonly" =>
        if mods.isReadonly then recordRule lo (.modifierTwice "readonly")
        return .inl { mods with isReadonly := true }
      | _ =>
        if mods.isOverride then recordRule lo (.modifierOrder "static" "override")
        return .inl { mods with isStatic := true }) g.fuel mods

/-- the key of an asynchronous method and the method itself -/
def asyncMethod (g : Grammar) (lo : Nat) (decorators : List Node) (mods : Modifiers) : Read Member := do
  if (← modifier? ["override"] false).isSome then recordRule lo (.modifierOrder "override" "async")
  let isGenerator ← eatMark "*"
  let key ← memberKey g
  if key.isConstructor then failAt lo (← get).lastHi (.rule .asyncConstructor)
  if mods.isReadonly then failAt lo (← get).lastHi (.rule .readonlyMethod)
  discard eatOptional
  methodFrom g lo decorators mods key anyParameters true isGenerator

/-- the key of an accessor and the accessor itself -/
def accessorMethod (g : Grammar) (lo : Nat) (decorators : List Node) (mods : Modifiers) (isGet : Bool) :
    Read Member := do
  let key ← memberKey g
  if mods.isReadonly then recordRule lo .readonlyAccessor
  if key.isConstructor then recordRule lo .accessorConstructor
  methodFrom g lo decorators mods key (if isGet then noParameters else oneParameter) false false

/-- a member from its key on -/
def keyedMember (g : Grammar) (lo : Nat) (decorators : List Node) (mods : Modifiers) : Read Member := do
  if ← eatMark "*" then
    let key ← memberKey g
    if mods.isReadonly then recordRule lo .readonlyMethod
    if key.isConstructor then recordRule lo .generatorConstructor
    return ← methodFrom g lo decorators mods key anyParameters false true
  let key ← if mods.isReadonly && ((← isMark "!") || (← isMark ":")) then
      pure (MemberKey.plain (.name ⟨place (← get).lastLo, place (← get).lastHi⟩ "readonly"))
    else memberKey g
  let optional ← eatOptional
  if ← atMethod then
    if mods.declared then recordRule lo .declaredMethod
    if mods.isReadonly then failAt lo (← get).lastHi (.rule .readonlyMethod)
    if key.isConstructor && ((← typed) || !mods.isStatic) then return ← constructorFrom g lo mods key
    return ← methodFrom g lo decorators mods key anyParameters false false
  let generatorFollows := (← newlineBefore) && (← isMark "*")
  let accessor? := match key.word? with
    | some "get" => some true
    | some "set" => some false
    | _ => none
  let accessor? ← if generatorFollows || (← atProperty false) then pure none else pure accessor?
  if accessor?.isNone && (← atProperty true) then return ← propertyFrom g lo decorators mods key optional
  if key.word? == some "async" && !(← newlineBefore) then return ← asyncMethod g lo decorators mods
  match accessor? with
  | some isGet => accessorMethod g lo decorators mods isGet
  | none => unexpected

/-- a member from the modifiers after `static` on -/
def modifiedMember (g : Grammar) (lo : Nat) (decorators : List Node) (mods : Modifiers) : Read Member := do
  let mods ← laterModifiers g mods
  if ← typed <&&> eatWord "accessor" then
    if let some member ← wordMember? g lo decorators mods "accessor" true then return member
    return ← keyedMember g lo decorators mods
  if mods.isStatic && (← isMark openBrace) then
    if mods.declared || mods.hasAccess then record (.rule .modifierOutOfPlace)
    return ← staticBlock g lo
  if (← typed) && !mods.isAbstract && !mods.isOverride && !mods.declared && !mods.hasAccess then
    if let some signature ← indexSignature? g lo then return ⟨signature, false, false⟩
  keyedMember g lo decorators mods

/-- a member from `static` on, if that word is there -/
def memberAfterAccess (g : Grammar) (lo : Nat) (decorators : List Node) (mods : Modifiers) : Read Member := do
  if ← eatWord "static" then
    let mods := { mods with isStatic := true }
    if ← isMark openBrace then return ← modifiedMember g lo decorators mods
    if let some member ← wordMember? g lo decorators { mods with isStatic := false } "static" false then return member
    modifiedMember g lo decorators mods
  else modifiedMember g lo decorators mods

/-- a member of a class -/
def member (g : Grammar) : Read Member := do
  let lo ← position
  let decorators ← g.decorators
  let early ← if ← typed then eatWord "declare" else pure false
  if early then
    if let some found ← wordMember? g lo decorators {} "declare" true then return found
  let hasAccess ← accessModifier
  let late ← if ← typed then eatWord "declare" else pure false
  if late then
    if let some found ← wordMember? g lo decorators { hasAccess := hasAccess } "declare" true then return found
  memberAfterAccess g lo decorators { declared := early || late, hasAccess := hasAccess }

/-- the members of a class up to its closing brace, which is left -/
def members (g : Grammar) : Read (List Member) :=
  iterate (fun (found, constructed) => do
    if ← isMark closeBrace then return .inr found.reverse
    if ← eatMark ";" then return .inl (found, constructed)
    let next ← member g
    let constructs := next.constructs && !(← read).inDeclare
    if constructs && constructed then recordNode next.node .secondConstructor
    return .inl (next :: found, constructed || constructs)) g.fuel (([] : List Member), false)

/-! ## Classes -/

/-- names that the typed dialect refuses for classes -/
def typeOnlyNames : List String :=
  ["string", "null", "number", "object", "any", "unknown", "boolean", "bigint", "symbol", "void", "never", "intrinsic"]

/-- what a class extends, with type arguments -/
def superclass (g : Grammar) : Read (List Node) := do
  let base ← g.leftHand
  let types ← if (← typed) && (← isMark "<") then typeArguments g else pure []
  return base :: types

/-- an interface in the head of a class or interface -/
def heritageEntry (g : Grammar) : Read Node := do
  let lo ← position
  let named ← chain g lo false false (← anyName)
  match named with
  | .name _ _ | .other .member _ _ | .other .instantiation _ _ => pure ()
  | _ => recordNode named .interfaceBase
  let types ← if ← isMark "<" then typeArguments g else pure []
  make .typeNode lo (named :: types)

/-- interfaces in the head of a class or interface -/
def heritage (g : Grammar) : Read (List Node) :=
  delimited g .heritage (heritageEntry g)

/-- what a class extends and implements, with a word for each clause that stands where it may not -/
def heritageClauses (g : Grammar) : Read (List Node × List Node) := do
  let base ← if ← eatWord "extends" then do
      let base ← superclass g
      if ← typed <&&> eatMark "," then
        for extra in ← heritage g do recordNode extra .secondBase
      pure base
    else pure []
  if ← eatWord "extends" then
    recordRule (← get).lastLo .extendsTwice
    discard (superclass g)
  let interfaces ← if ← typed <&&> eatWord "implements" then heritage g else pure []
  if ← typed <&&> eatWord "implements" then
    recordRule (← get).lastLo .implementsTwice
    discard (heritage g)
  if ← typed <&&> eatWord "extends" then
    recordRule (← get).lastLo .extendsAfterImplements
    discard (superclass g)
  return (base, interfaces)

/-- a class from its keyword on -/
def classFrom (g : Grammar) (form : ClassForm) (lo : Nat) (decorators : List Node) (isAbstract required : Bool) :
    Read Node := do
  expectWord "class"
  let name ← ownName required true
  if (← typed) && name.any (fun n => typeOnlyNames.contains (nameOf n)) then recordRule lo .className
  let types ← typeParameters g true true
  let (base, interfaces) ← heritageClauses g
  expectMark openBrace
  let found ← within (fun c => { c with inClass := true, inSubclass := !base.isEmpty }) (members g)
  expectMark closeBrace
  unless isAbstract do
    for m in found do
      if m.isAbstract then recordNode m.node .abstractOutOfPlace
  return .cls form (← spanFrom lo) decorators (found.map Member.node ++ base ++ types ++ interfaces)

end ResourceInliner.Script
