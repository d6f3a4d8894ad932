/-
Tokens. A token is read with no regard to where it stands: a greater-than sign is always a token of its own, and a slash
never starts a regular expression. The reader puts longer operators, regular expressions, templates and markup together
where the grammar has them.

- `lex`: the next token of a text, with its offsets and whether a line ended before it.
-/
import ResourceInliner.Script.Literal
import ResourceInliner.Text.Slice

namespace ResourceInliner.Script

/-- a token -/
inductive Token where
  | eof
  /-- a name or keyword, by the characters it stands for -/
  | word (name : String)
  | punct (mark : String)
  | number
  | bigint
  | string (value raw : String)
  /-- a text that is no token -/
  | bad (fault : Fault)
  deriving DecidableEq, Repr

/-- the words for a token in a fault -/
def Token.text : Token → String
  | .eof => "<eof>"
  | .word name => name
  | .punct mark => mark
  | .number | .bigint => "numeric literal"
  | .string _ raw => raw
  | .bad _ => "<error>"

/-- a token in its place -/
structure Lexeme where
  token : Token
  lo : Nat
  hi : Nat
  /-- the text from the token on -/
  chars : List Char
  /-- the text after the token -/
  rest : List Char
  /-- a line ended before the token -/
  newline : Bool
  /-- a fault that does not keep the token from being one -/
  fault : Option Fault
  deriving Repr

/-- words that a name may not spell out with escapes -/
def reservedWords : List String :=
  ["let", "await", "yield", "null", "true", "false", "break", "case", "catch", "continue", "debugger", "default", "do",
    "export", "else", "finally", "for", "function", "if", "return", "switch", "throw", "try", "var", "const", "while",
    "with", "new", "this", "super", "class", "extends", "import", "in", "instanceof", "typeof", "void", "delete",
    "enum", "implements", "package", "protected", "interface", "private", "public"]

/-- a name that was met: its characters, the bytes it takes, whether escapes were used, and the text after it -/
structure NameScan where
  chars : List Char
  bytes : Nat
  escaped : Bool
  rest : List Char

/-- a name from its first character on; the characters of an escape that was met already are skipped -/
def scanName (skipped : Nat) : List Char → Option NameScan
  | [] => some ⟨[], 0, false, []⟩
  | c :: rest =>
    match skipped with
    | n + 1 => scanName n rest
    | 0 =>
      if c = '\\' then
        match rest with
        | 'u' :: digits => do
          let (points, after) ← unicodeEscape? digits
          let chars := joinSurrogates points
          let taken := 1 + (digits.length - after.length)
          if chars.all isNamePart then
            let more ← scanName taken rest
            return ⟨chars ++ more.chars, 1 + taken + more.bytes, true, more.rest⟩
          else none
        | _ => none
      else if isNamePart c then do
        let more ← scanName 0 rest
        return ⟨c :: more.chars, c.utf8Size + more.bytes, more.escaped, more.rest⟩
      else some ⟨[], 0, false, c :: rest⟩

/-- the marks of more than one character that start with a given one, longer ones first -/
def longMarks : Char → List String
  | '.' => ["..."]
  | '<' => ["<<=", "<<", "<="]
  | '=' => ["===", "==", "=>"]
  | '!' => ["!==", "!="]
  | '+' => ["++", "+="]
  | '-' => ["--", "-="]
  | '*' => ["**=", "**", "*="]
  | '/' => ["/="]
  | '%' => ["%="]
  | '&' => ["&&=", "&&", "&="]
  | '|' => ["||=", "||", "|="]
  | '^' => ["^="]
  | '?' => ["??=", "??"]
  | _ => []

/-- characters that are marks on their own -/
def isPunctuation (c : Char) : Bool :=
  "\x7b\x7d[]();,:~@#.<>=!+-*/%&|^?\x60".toList.contains c

/-- the mark at the start of a text; `?.` before a digit is a question mark -/
def markAt (c : Char) (text : List Char) : String :=
  match text with
  | '?' :: '.' :: rest => if (rest.head?.map Char.isDigit).getD false then "?" else "?."
  | _ => ((longMarks c).find? fun mark => mark.toList.isPrefixOf text).getD (String.singleton c)

/-- the token at the start of a text, the text after it, and a fault beside it -/
def lexToken (offset : Nat) : List Char → Token × Nat × List Char × Option Fault
  | [] => (.eof, offset, [], none)
  | c :: rest =>
    if isNameStart c || c == '\\' then
      match scanName 0 (c :: rest) with
      | none => (.bad (.rule .invalidName), offset + c.utf8Size, rest, none)
      | some name =>
        let word := String.ofList name.chars
        let token :=
          if name.escaped && reservedWords.contains word then .bad (.rule (.escapedKeyword word)) else .word word
        (token, offset + name.bytes, name.rest, none)
    else if c.isDigit || (c == '.' && (rest.head?.map Char.isDigit).getD false) then
      let scan := scanNumber (c :: rest)
      let after := (c :: rest).drop scan.taken
      match scan.fault with
      | .malformed => (.bad (.rule .malformedNumber), offset + scan.taken, after, none)
      | .leadingZero => (.number, offset + scan.taken, after, some (.rule .leadingZero))
      | .separator => (.number, offset + scan.taken, after, some (.rule .separator))
      | .none => (if scan.big then .bigint else .number, offset + scan.taken, after, none)
    else if c == '\'' || c == '"' then
      let (body, after, closed) := scanString c rest
      let hi := offset + 1 + byteLength body + (if closed then 1 else 0)
      if !closed then (.bad .unterminatedString, hi, after, none)
      else
        match cook? body with
        | none => (.bad (.rule .malformedEscape), hi, after, none)
        | some cooked =>
          let raw := String.ofList (c :: body ++ [c])
          (.string (String.ofList (joinSurrogates cooked.points)) raw, hi, after,
            if cooked.octal then some (.rule .octalEscape) else none)
    else if isPunctuation c then
      let mark := markAt c (c :: rest)
      (.punct mark, offset + mark.length, rest.drop (mark.length - 1), none)
    else (.bad (.unexpected (String.singleton c)), offset + c.utf8Size, rest, none)

/-- the next token of a text -/
def lex (offset : Nat) (text : List Char) : Lexeme :=
  let skipped := skipTrivia .between offset false false text
  if skipped.unterminated then
    ⟨.bad .unterminatedComment, skipped.offset, skipped.offset, [], [], skipped.newline, none⟩
  else
    let (token, hi, rest, fault) := lexToken skipped.offset skipped.rest
    ⟨token, skipped.offset, hi, skipped.rest, rest, skipped.newline,
      if skipped.markupComment then some (.rule .markupComment) else fault⟩

end ResourceInliner.Script
