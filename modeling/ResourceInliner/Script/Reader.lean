/-
The state of reading a module: the token at hand, the text after it, and the faults met so far.

- `State`, `Context`: what changes from token to token, and what holds in a part of the text.
- `Read`: a reader. A failure that stops it is the fault of the text; faults that are only recorded let it go on, and
  the first of them is the fault of the text if nothing stops the reader.
- `attempt`, `lookAhead`: reading on trial. Faults recorded on trial are not kept.
- `Grammar`: the readers of the constructs that contain one another.
-/
import ResourceInliner.Script.Token
import ResourceInliner.Tree

namespace ResourceInliner.Script

/-- what holds in a part of a text -/
structure Context where
  /-- the dialect has types -/
  typed : Bool
  /-- faults are not recorded -/
  onTrial : Bool := false
  /-- the word `in` is an operator -/
  allowIn : Bool := true
  forInit : Bool := false
  forAwaitInit : Bool := false
  inAsync : Bool := false
  inGenerator : Bool := false
  inFunction : Bool := false
  /-- inside a function that is no arrow -/
  inPlainFunction : Bool := false
  inParameters : Bool := false
  inClass : Bool := false
  /-- inside a class that extends another -/
  inSubclass : Bool := false
  inClassField : Bool := false
  inStaticBlock : Bool := false
  inDeclare : Bool := false
  /-- inside a branch of a conditional expression -/
  inConditional : Bool := false
  /-- a colon ends the expression at hand -/
  colonEnds : Bool := false
  breakAllowed : Bool := false
  continueAllowed : Bool := false
  /-- conditional types are not read -/
  plainTypes : Bool := false

/-- what changes from token to token -/
structure State where
  now : Lexeme
  /-- offsets of the token before -/
  lastLo : Nat := 0
  lastHi : Nat := 0
  /-- recorded faults, the latest first -/
  failures : List Failure := []
  labels : List String := []
  /-- where the head of an arrow function may start -/
  arrowStart : Option Nat := none
  /-- starts of lists and objects that end in a comma -/
  trailingCommas : List Nat := []

/-- a reader -/
abbrev Read (α : Type) := ReaderT Context (EStateM Failure State) α

/-! ## Faults -/

/-- stop with a fault at a place -/
def failAt {α : Type} (lo hi : Nat) (fault : Fault) : Read α :=
  throw ⟨fault, lo, hi⟩

/-- stop with a fault at the token at hand; if that is no token, its own fault is the fault -/
def fail {α : Type} (fault : Fault) : Read α := do
  let now := (← get).now
  match now.token with
  | .bad own => failAt now.lo now.hi own
  | _ => failAt now.lo now.hi fault

/-- record a fault at a place -/
def recordAt (lo hi : Nat) (fault : Fault) : Read Unit := do
  unless (← read).onTrial do
    modify fun s => { s with failures := ⟨fault, lo, hi⟩ :: s.failures }

/-- record a fault at the token at hand -/
def record (fault : Fault) : Read Unit := do
  let now := (← get).now
  recordAt now.lo now.hi fault

/-- record that a rule is broken from an offset up to the token at hand -/
def recordRule (lo : Nat) (broken : Rule) : Read Unit := do
  recordAt lo (← get).lastHi (.rule broken)

/-- stop at a token that cannot stand here -/
def unexpected {α : Type} : Read α := do
  match (← get).now.token with
  | .eof => fail .endOfText
  | token => fail (.unexpected token.text)

/-! ## Tokens -/

/-- the mark that opens a block -/
def openBrace : String := "\x7b"

/-- the mark that closes a block -/
def closeBrace : String := "\x7d"

/-- the token at hand -/
def token : Read Token := return (← get).now.token

/-- where the token at hand starts -/
def position : Read Nat := return (← get).now.lo

/-- did a line end before the token at hand? -/
def newlineBefore : Read Bool := return (← get).now.newline

/-- is the dialect typed? -/
def typed : Read Bool := return (← read).typed

/-- take a lexeme as the token at hand -/
def enter (next : Lexeme) : Read Unit := do
  modify fun s => { s with now := next }
  match next.fault with
  | some fault => recordAt next.lo next.hi fault
  | none => return

/-- go on to the next token -/
def advance : Read Unit := do
  let s ← get
  set { s with lastLo := s.now.lo, lastHi := s.now.hi }
  enter (lex s.now.hi s.now.rest)

/-- the token after the one at hand -/
def peek : Read Lexeme := do
  let now := (← get).now
  return lex now.hi now.rest

/-- is the token at hand this mark? -/
def isMark (mark : String) : Read Bool := return (← token) == .punct mark

/-- is the token at hand this word? -/
def isWord (word : String) : Read Bool := return (← token) == .word word

/-- is the token at hand any word? -/
def isAnyWord : Read Bool := do
  match ← token with
  | .word _ => return true
  | _ => return false

/-- is the token after the one at hand this mark? -/
def peekMark (mark : String) : Read Bool := return (← peek).token == .punct mark

/-- is the token after the one at hand this word? -/
def peekWord (word : String) : Read Bool := return (← peek).token == .word word

/-- is the token after the one at hand any word? -/
def peekAnyWord : Read Bool := do
  match (← peek).token with
  | .word _ => return true
  | _ => return false

/-- step over a mark if it is there -/
def eatMark (mark : String) : Read Bool := do
  if ← isMark mark then advance; return true else return false

/-- step over a word if it is there -/
def eatWord (word : String) : Read Bool := do
  if ← isWord word then advance; return true else return false

/-- step over a mark that must be there -/
def expectMark (mark : String) : Read Unit := do
  unless ← eatMark mark do fail (.expected mark (← token).text)

/-- step over a word that must be there -/
def expectWord (word : String) : Read Unit := do
  unless ← eatWord word do fail (.expected word (← token).text)

/-- may a statement end here? At a semicolon, a closing brace, the end of the text, or after a line end. -/
def atSemicolon : Read Bool := do
  match ← token with
  | .eof | .punct ";" | .punct "\x7d" => return true
  | _ => newlineBefore

/-- step over the end of a statement; `false` if there is none -/
def eatSemicolon : Read Bool := do
  if ← eatMark ";" then return true else atSemicolon

/-- step over the end of a statement, which must be there -/
def expectSemicolon : Read Unit := do
  unless ← eatSemicolon do fail (.expected ";" (← token).text)

/-! ## Operators that start with a greater-than sign -/

/-- the longest operator at a greater-than sign -/
def greaterMark (text : List Char) : String :=
  ([">>>=", ">>>", ">>=", ">>", ">="].find? fun mark => mark.toList.isPrefixOf text).getD ">"

/-- put the operator at a greater-than sign together -/
def joinGreater : Read Unit := do
  let now := (← get).now
  if now.token == .punct ">" then
    let mark := greaterMark now.chars
    modify fun s => { s with
      now := { now with token := .punct mark, hi := now.lo + mark.length, rest := now.chars.drop mark.length } }

/-- take a doubled less-than sign apart -/
def splitLess : Read Unit := do
  let now := (← get).now
  match now.token with
  | .punct "<<" | .punct "<<=" | .punct "<=" =>
    modify fun s => { s with
      now := { now with token := .punct "<", hi := now.lo + 1, rest := now.chars.drop 1 } }
  | _ => return

/-! ## Trials -/

/-- read in a changed context -/
def within {α : Type} (change : Context → Context) (reader : Read α) : Read α :=
  withReader change reader

/-- read where the word `in` is an operator -/
def allowingIn {α : Type} (reader : Read α) : Read α :=
  within (fun c => { c with allowIn := true }) reader

/-- read on trial; after a failure or without a result nothing has been read -/
def attempt {α : Type} (reader : Read (Option α)) : Read (Option α) := fun c s =>
  if !c.typed then .ok none s
  else
    match reader { c with onTrial := true } s with
    | .ok (some result) s' => .ok (some result) s'
    | .ok none _ => .ok none s
    | .error _ _ => .ok none s

/-- look ahead; afterwards nothing has been read -/
def lookAhead {α : Type} (reader : Read α) : Read α := fun c s =>
  match reader { c with onTrial := true } s with
  | .ok result _ => .ok result s
  | .error e _ => .error e s

/-- read, and take a failure as a result -/
def failing {α : Type} (reader : Read α) : Read (Except Failure α) := fun c s =>
  match reader c s with
  | .ok result s' => .ok (.ok result) s'
  | .error e s' => .ok (.error e) s'

/-- repeat a step until it gives a result -/
def iterate {σ α : Type} (step : σ → Read (σ ⊕ α)) : Nat → σ → Read α
  | 0, _ => fail .tooDeep
  | fuel + 1, s => do
    match ← step s with
    | .inl next => iterate step fuel next
    | .inr result => return result

/-- repeat a step and keep what it gives until it gives nothing -/
def collect {α : Type} (fuel : Nat) (step : Read (Option α)) : Read (List α) :=
  iterate (fun found => do
    match ← step with
    | some result => return .inl (result :: found)
    | none => return .inr found.reverse) fuel []

/-! ## Trees -/

/-- the position that a byte offset has in the source map -/
def place (offset : Nat) : UInt32 := (offset + 1).toUInt32

/-- the byte offset of a position -/
def offsetOf (position : UInt32) : Nat := position.toNat - 1

/-- the span from an offset to the end of the token before the one at hand -/
def spanFrom (lo : Nat) : Read Span := return ⟨place lo, place (← get).lastHi⟩

/-- the span of the token at hand -/
def spanHere : Read Span := do
  let now := (← get).now
  return ⟨place now.lo, place now.hi⟩

/-- where a node starts -/
def startOf (node : Node) : Nat := offsetOf node.span.lo

/-- a node from an offset to the end of the token before the one at hand -/
def make (kind : NodeKind) (lo : Nat) (parts : List Node) : Read Node :=
  return .other kind (← spanFrom lo) parts

/-- record that a rule is broken by a node -/
def recordNode (node : Node) (broken : Rule) : Read Unit :=
  recordAt (offsetOf node.span.lo) (offsetOf node.span.hi) (.rule broken)

/-! ## Words -/

/-- words that are no names anywhere in a module -/
def keywords : List String :=
  ["null", "true", "false", "break", "case", "catch", "continue", "debugger", "default", "do", "export", "else",
    "finally", "for", "function", "if", "return", "switch", "throw", "try", "var", "const", "while", "with", "new",
    "this", "super", "class", "extends", "import", "in", "instanceof", "typeof", "void", "delete"]

/-- words that are no names in strict code -/
def strictWords : List String :=
  ["implements", "package", "protected", "interface", "private", "public"]

/-- is a word reserved in a module? -/
def isReserved (word : String) : Bool :=
  keywords.contains word || strictWords.contains word || word == "let" || word == "await" || word == "yield" ||
    word == "enum"

/-- is the token at hand a word that may refer to something? -/
def isReference : Read Bool := do
  match ← token with
  | .word word => return !isReserved word
  | _ => return false

/-- is the token after the one at hand a word that may refer to something? -/
def peekReference : Read Bool := do
  match (← peek).token with
  | .word word => return !isReserved word
  | _ => return false

/-- any word, as a name -/
def anyName : Read Node := do
  match ← token with
  | .word word =>
    let span ← spanHere
    advance
    return .name span word
  | _ => fail .expectedName

/-- the word of a node that is a name -/
def nameOf : Node → String
  | .name _ word => word
  | _ => ""

/-- A word that refers to something or names it. Reserved words are faults; `yield` and `await` are told apart by
where they stand. -/
def identifier (allowYield : Bool) : Read Node := do
  match ← token with
  | .word word =>
    let span ← spanHere
    let lo ← position
    advance
    let c ← read
    if word == "enum" || strictWords.contains word || word == "yield" || word == "let" || word == "static" then
      recordRule lo (.strictWord word)
    if word == "await" then
      if c.inDeclare then return .name span word
      failAt lo (← get).lastHi .expectedName
    if word == "this" && c.typed then return .name span word
    if word == "yield" then
      if allowYield then return .name span word else failAt lo (← get).lastHi .expectedName
    if keywords.contains word then failAt lo (← get).lastHi .expectedName
    if word == "arguments" && c.inClassField then recordRule lo .argumentsInClassField
    return .name span word
  | _ => fail .expectedName

/-- a name that is bound; two names may not be bound in strict code -/
def boundName (forbidLet : Bool) : Read Node := do
  if forbidLet && (← isWord "let") then unexpected
  let name ← identifier true
  if nameOf name == "eval" || nameOf name == "arguments" then recordNode name .strictBinding
  return name

/-! ## The constructs that contain one another -/

/-- the readers of constructs nested inside others -/
structure Grammar where
  /-- more steps than the text has tokens -/
  fuel : Nat
  assignment : Read Node
  unary : Read Node
  /-- what a call, an access or an assignment may start with -/
  leftHand : Read Node
  /-- a statement; `true` where declarations may stand -/
  statement : Bool → Read Node
  /-- a statement, an import or an export -/
  moduleItem : Read Node
  /-- a pattern that binds names -/
  pattern : Read Node
  type : Read Node
  /-- a type that binds more tightly than unions -/
  typeOperand : Read Node
  /-- the expressions of decorators -/
  decorators : Read (List Node)
  /-- a markup element or fragment, from its less-than sign on up to the sign that ends it, which is left -/
  element : Read Node

end ResourceInliner.Script
