/-
The extent of literals in a text: strings, templates, regular expressions and numbers.

- `scanString`: the body of a string up to its closing quote.
- `scanTemplate`: the text of a template up to its end or to the next hole.
- `scanRegex`: the text after a regular expression's body. `flagFault?`: what is wrong with its flags.
- `scanNumber`: how many characters a number takes, and what is wrong with it.
-/
import ResourceInliner.Script.Escape
import ResourceInliner.Script.Fault
import ResourceInliner.Text.Identifier

namespace ResourceInliner.Script

/-! ## Strings and templates -/

/-- the body of a string, the text after it, and whether it was closed; a line end closes no string -/
def scanString (quote : Char) : List Char → List Char × List Char × Bool
  | [] => ([], [], false)
  | '\\' :: '\r' :: '\n' :: rest =>
    let (body, after, closed) := scanString quote rest
    ('\\' :: '\r' :: '\n' :: body, after, closed)
  | '\\' :: c :: rest =>
    let (body, after, closed) := scanString quote rest
    ('\\' :: c :: body, after, closed)
  | c :: rest =>
    if c = quote then ([], rest, true)
    else if c = '\n' ∨ c = '\r' then ([], c :: rest, false)
    else
      let (body, after, closed) := scanString quote rest
      (c :: body, after, closed)

/-- how a stretch of template text ends -/
inductive TemplateEnd where
  | closed
  | hole
  | unterminated
  deriving DecidableEq, Repr

/-- a stretch of template text, how it ends, and the text after that -/
def scanTemplate : List Char → List Char × TemplateEnd × List Char
  | [] => ([], .unterminated, [])
  | '\\' :: c :: rest =>
    let (body, ending, after) := scanTemplate rest
    ('\\' :: c :: body, ending, after)
  | '\x60' :: rest => ([], .closed, rest)
  | '$' :: '{' :: rest => ([], .hole, rest)
  | c :: rest =>
    let (body, ending, after) := scanTemplate rest
    (c :: body, ending, after)

/-! ## Regular expressions -/

/-- the text after the slash that ends a regular expression; in a bracketed class a slash ends nothing -/
def scanRegex (inClass : Bool) : List Char → Option (List Char)
  | [] => none
  | '\\' :: c :: rest => if isLineEnd c then none else scanRegex inClass rest
  | '/' :: rest => if inClass then scanRegex inClass rest else some rest
  | '[' :: rest => scanRegex true rest
  | ']' :: rest => scanRegex false rest
  | c :: rest => if isLineEnd c then none else scanRegex inClass rest

/-- what is wrong with flags, which are letters of a fixed set, each at most once -/
def flagFault? (flags : List Char) : Option Rule :=
  if flags.all fun c => "dgimsuvy".toList.contains c then
    (flags.find? fun c => 1 < flags.count c).map .repeatedFlag
  else some .unknownFlags

/-! ## Numbers -/

/-- separators stand between two digits -/
def separatorsOk : List Char → Bool
  | [] => true
  | '_' :: _ => false
  | [_] => true
  | _ :: '_' :: c :: rest => c != '_' && separatorsOk (c :: rest)
  | [_, '_'] => false
  | _ :: c :: rest => separatorsOk (c :: rest)

/-- what is wrong with a number -/
inductive NumberFault where
  /-- nothing -/
  | none
  /-- a zero before other digits -/
  | leadingZero
  /-- a misplaced separator -/
  | separator
  /-- no number at all -/
  | malformed
  deriving DecidableEq, Repr

/-- a number that was met: how many characters it takes, all of them ASCII, whether it is a big integer, and what is
wrong with it -/
structure NumberScan where
  taken : Nat
  big : Bool
  fault : NumberFault
  deriving Repr

/-- digits of one kind, with separators between them, at the start of a text -/
def digitRun (isDigit : Char → Bool) (text : List Char) : List Char :=
  text.takeWhile fun c => isDigit c || c == '_'

/-- the worse of two faults -/
def NumberFault.max : NumberFault → NumberFault → NumberFault
  | .malformed, _ | _, .malformed => .malformed
  | .leadingZero, _ | _, .leadingZero => .leadingZero
  | .separator, _ | _, .separator => .separator
  | .none, .none => .none

/-- what is wrong with the separators of a run -/
def runFault (run : List Char) : NumberFault :=
  if separatorsOk run then .none else .separator

/-- the digits of a number after a base prefix of two characters -/
def scanRadix (isDigit : Char → Bool) (text : List Char) : NumberScan :=
  let run := digitRun isDigit text
  let fault := if run.isEmpty then .malformed else runFault run
  if text[run.length]? = some 'n' then ⟨2 + run.length + 1, true, fault⟩ else ⟨2 + run.length, false, fault⟩

/-- an exponent, if one follows the `taken` characters before it -/
def scanExponent (taken : Nat) (fault : NumberFault) : List Char → NumberScan
  | c :: rest =>
    if c = 'e' ∨ c = 'E' then
      let sign := match rest with
        | '+' :: _ | '-' :: _ => 1
        | _ => 0
      let run := digitRun Char.isDigit (rest.drop sign)
      ⟨taken + 1 + sign + run.length, false, fault.max (if run.isEmpty then .malformed else runFault run)⟩
    else ⟨taken, false, fault⟩
  | [] => ⟨taken, false, fault⟩

/-- a number in base ten; a leading zero is bad style -/
def scanDecimal (text : List Char) : NumberScan :=
  let run := digitRun Char.isDigit text
  let fault := match run with
    | '0' :: _ :: _ => .leadingZero
    | _ => runFault run
  match text.drop run.length with
  | '.' :: rest =>
    let fraction := digitRun Char.isDigit rest
    scanExponent (run.length + 1 + fraction.length) (fault.max (runFault fraction)) (rest.drop fraction.length)
  | 'n' :: _ => ⟨run.length + 1, true, fault⟩
  | rest => scanExponent run.length fault rest

/-- the characters that may not follow a number directly -/
def gluesToNumber (c : Char) : Bool :=
  isNameStart c || c.isDigit || c == '\\'

/-- a number that starts at a digit, or at a point with a digit after it -/
def scanNumber (text : List Char) : NumberScan :=
  let scan := match text with
    | '0' :: c :: rest =>
      if c = 'x' ∨ c = 'X' then scanRadix (fun c => (hexDigit? c).isSome) rest
      else if c = 'o' ∨ c = 'O' then scanRadix isOctal rest
      else if c = 'b' ∨ c = 'B' then scanRadix (fun c => c == '0' || c == '1') rest
      else scanDecimal text
    | _ => scanDecimal text
  if (text[scan.taken]?.map gluesToNumber).getD false then { scan with fault := .malformed } else scan

end ResourceInliner.Script
