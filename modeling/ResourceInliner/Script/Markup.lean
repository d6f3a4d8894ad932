/-
Markup elements among expressions. The text inside an element has no tokens, and the names and strings of its tags have
rules of their own, so these are read from the characters. An element is read up to the greater-than sign that ends it,
which is left: what stands after it is text if the element is inside another, and tokens if it is not.

- `element`: an element or a fragment.
-/
import ResourceInliner.Script.Chain

namespace ResourceInliner.Script

/-! ## Names -/

/-- a word of a name, in which hyphens may stand -/
def markupWord : Read String := do
  let now := (← get).now
  match now.token with
  | .word _ =>
    let word := now.chars.takeWhile fun c => isNamePart c || c == '-'
    goTo (now.lo + byteLength word) (now.chars.drop word.length)
    return String.ofList word
  | _ => unexpected

/-- the name of a tag or an attribute, perhaps with a namespace before it -/
def markupName : Read String := do
  let word ← markupWord
  if ← eatMark ":" then return word ++ ":" ++ (← markupWord) else return word

/-- the name of a tag, perhaps with members after it -/
def tagName (fuel : Nat) : Read String := do
  iterate (fun name => do
    if ← eatMark "." then return .inl (name ++ "." ++ (← markupWord)) else return .inr name) fuel (← markupName)

/-! ## Attributes -/

/-- a value between braces -/
def attributeContainer (g : Grammar) : Read (List Node) := do
  expectMark openBrace
  let value ← expression g
  expectMark closeBrace
  return [value]

/-- A value of an attribute, from the equals sign on. A string has no escapes. -/
def attributeValue (g : Grammar) : Read (List Node) := do
  let now := (← get).now
  let skipped := skipTrivia .between now.hi false false now.rest
  let quote := skipped.rest.head?.getD ' '
  if quote == '"' || quote == '\'' then
    let text := skipped.rest.drop 1
    let body := text.takeWhile (· != quote)
    if body.length == text.length then
      failAt skipped.offset (skipped.offset + 1 + byteLength body) .unterminatedString
    goTo (skipped.offset + byteLength body + 2) (text.drop (body.length + 1))
    return []
  advance
  if ← isMark openBrace then return ← attributeContainer g
  let inner ← g.element
  advance
  return [inner]

/-- an attribute of a tag, or an object whose properties are attributes -/
def attribute? (g : Grammar) : Read (Option Node) := do
  let lo ← position
  match ← token with
  | .punct "\x7b" =>
    advance
    expectMark "..."
    let value ← g.assignment
    expectMark closeBrace
    return some (← make .markupSpread lo [value])
  | .word _ =>
    discard markupName
    let value ← if ← isMark "=" then attributeValue g else pure []
    return some (← make .attribute lo value)
  | _ => return none

/-! ## Content -/

/-- Go on over the text after the token at hand, which ends at a tag or an opening brace. -/
def skipMarkupText : Read Unit := do
  let now := (← get).now
  let text := now.rest.takeWhile fun c => c != '<' && c != '{'
  let hi := now.hi + byteLength text
  for mark in text.find? fun c => c == '>' || c == '}' do recordAt now.hi hi (.rule (.markInText mark))
  goTo hi (now.rest.drop text.length)

/-- an expression among the content, up to its closing brace, which is left -/
def contentContainer (g : Grammar) : Read Node := do
  let lo ← position
  advance
  if ← isMark closeBrace then return ← make .container lo []
  discard (eatMark "...")
  let inner ← expression g
  unless ← isMark closeBrace do fail (.expected closeBrace (← token).text)
  make .container lo [inner]

/-- the content of an element, up to the tag that closes it -/
def content (g : Grammar) : Read (List Node) :=
  collect g.fuel do
    skipMarkupText
    match ← token with
    | .punct "\x7b" => return some (← contentContainer g)
    | .punct "<" => if ← peekMark "/" then return none else return some (← g.element)
    | _ => unexpected

/-- the end of an element, whose last sign is left -/
def elementEnd (kind : NodeKind) (lo : Nat) (parts : List Node) : Read Node := do
  unless ← isMark ">" do fail (.expected ">" (← token).text)
  return .other kind ⟨place lo, place (← get).now.hi⟩ parts

/-- an element or a fragment from its less-than sign on -/
def element (g : Grammar) : Read Node := do
  let lo ← position
  expectMark "<"
  if ← isMark ">" then
    let inner ← content g
    expectMark "<"
    expectMark "/"
    elementEnd .fragment lo inner
  else
    let name ← tagName g.fuel
    let attributes ← collect g.fuel (attribute? g)
    if ← eatMark "/" then return ← elementEnd .element lo attributes
    unless ← isMark ">" do fail (.expected ">" (← token).text)
    let inner ← content g
    expectMark "<"
    expectMark "/"
    let closing ← tagName g.fuel
    if closing != name then fail (.rule (.closingTag name))
    elementEnd .element lo (attributes ++ inner)

end ResourceInliner.Script
