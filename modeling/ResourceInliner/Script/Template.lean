/-
Templates: text between backquotes with holes in it.
-/
import ResourceInliner.Script.Reader

namespace ResourceInliner.Script

/-- go on from an offset inside or after the token at hand -/
def goTo (offset : Nat) (rest : List Char) : Read Unit := do
  modify fun s => { s with lastLo := s.now.lo, lastHi := offset }
  enter (lex offset rest)

/-- A template from its opening backquote on: what its holes hold. Malformed escapes are faults unless a tag is there to
handle them. -/
def templateHoles (fuel : Nat) (tagged : Bool) (hole : Read Node) : Read (List Node) := do
  let lo ← position
  iterate (fun found => do
    let now := (← get).now
    let (text, ending, after) := scanTemplate now.rest
    let hi := now.hi + byteLength text
    if !tagged then
      match cook? text with
      | none => recordAt now.hi hi (.rule .malformedEscape)
      | some cooked => if cooked.octal then recordAt now.hi hi (.rule .octalEscape)
    match ending with
    | .unterminated => failAt lo hi .unterminatedTemplate
    | .closed =>
      goTo (hi + 1) after
      return .inr found.reverse
    | .hole =>
      goTo (hi + 2) after
      let inner ← hole
      unless ← isMark closeBrace do fail (.expected closeBrace (← token).text)
      return .inl (inner :: found)) fuel []

end ResourceInliner.Script
