/-
What stands between tokens: blanks, line ends and comments.

- `skipTrivia`: the text after them, with its offset and whether a line ended on the way.
-/
namespace ResourceInliner.Script

/-- characters that end a line -/
def isLineEnd (c : Char) : Bool :=
  c == '\n' || c == '\r' || c == '\u2028' || c == '\u2029'

/-- blanks other than line ends -/
def isBlank (c : Char) : Bool :=
  c == ' ' || c == '\t' || c == '\x0b' || c == '\x0c' || c == '\u0085' || c == '\u00a0' || c == '\ufeff' ||
    c == '\u1680' || ('\u2000' ≤ c && c ≤ '\u200a') || c == '\u202f' || c == '\u205f' || c == '\u3000'

/-- what the skipped text is part of -/
inductive TriviaMode where
  | between
  | lineComment
  | blockComment
  deriving DecidableEq, Repr

/-- a place in a text, after what was skipped -/
structure Skipped where
  rest : List Char
  offset : Nat
  /-- a line ended on the way -/
  newline : Bool
  /-- a comment in old markup style was met on the way -/
  markupComment : Bool
  /-- the text ended inside a block comment -/
  unterminated : Bool
  deriving Repr

/-- skip what stands between tokens -/
def skipTrivia : TriviaMode → Nat → Bool → Bool → List Char → Skipped
  | mode, offset, newline, markup, [] => ⟨[], offset, newline, markup, mode == .blockComment⟩
  | .lineComment, offset, newline, markup, c :: rest =>
    if isLineEnd c then skipTrivia .between (offset + c.utf8Size) true markup rest
    else skipTrivia .lineComment (offset + c.utf8Size) newline markup rest
  | .blockComment, offset, newline, markup, '*' :: '/' :: rest => skipTrivia .between (offset + 2) newline markup rest
  | .blockComment, offset, newline, markup, c :: rest =>
    skipTrivia .blockComment (offset + c.utf8Size) (newline || isLineEnd c) markup rest
  | .between, offset, newline, markup, '/' :: '/' :: rest => skipTrivia .lineComment (offset + 2) newline markup rest
  | .between, offset, newline, markup, '/' :: '*' :: rest => skipTrivia .blockComment (offset + 2) newline markup rest
  | .between, offset, newline, _, '<' :: '!' :: '-' :: '-' :: rest =>
    skipTrivia .lineComment (offset + 4) newline true rest
  | .between, offset, newline, markup, '-' :: '-' :: '>' :: rest =>
    if newline then skipTrivia .lineComment (offset + 3) newline true rest
    else ⟨'-' :: '-' :: '>' :: rest, offset, newline, markup, false⟩
  | .between, offset, newline, markup, c :: rest =>
    if isLineEnd c then skipTrivia .between (offset + c.utf8Size) true markup rest
    else if isBlank c then skipTrivia .between (offset + c.utf8Size) newline markup rest
    else ⟨c :: rest, offset, newline, markup, false⟩

end ResourceInliner.Script
