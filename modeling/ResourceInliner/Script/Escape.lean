/-
Escape sequences in string literals, templates and names.

- `unicodeEscape?`: the code points of an escape after its `\u`. The two halves of a surrogate pair are read together
  when both are written in the same way.
- `cook?`: the code points that a literal stands for.
- `joinSurrogates`: code points as a text; a surrogate without its other half becomes a replacement character.
-/
import ResourceInliner.Script.Trivia

namespace ResourceInliner.Script

/-- the value of a hexadecimal digit -/
def hexDigit? (c : Char) : Option Nat :=
  if '0' ≤ c ∧ c ≤ '9' then some (c.toNat - 48)
  else if 'a' ≤ c ∧ c ≤ 'f' then some (c.toNat - 87)
  else if 'A' ≤ c ∧ c ≤ 'F' then some (c.toNat - 55)
  else none

/-- exactly `count` hexadecimal digits, read onto `value` -/
def readHex : Nat → Nat → List Char → Option (Nat × List Char)
  | 0, value, text => some (value, text)
  | _ + 1, _, [] => none
  | count + 1, value, c :: rest =>
    match hexDigit? c with
    | some digit => readHex count (16 * value + digit) rest
    | none => none

/-- hexadecimal digits up to a closing brace, the value within the code space -/
def readBraced (started : Bool) (value : Nat) : List Char → Option (Nat × List Char)
  | [] => none
  | '}' :: rest => if started && value ≤ 0x10FFFF then some (value, rest) else none
  | c :: rest =>
    match hexDigit? c with
    | some digit => readBraced true (16 * value + digit) rest
    | none => none

/-- is the code point the first half of a surrogate pair? -/
def isLead (point : Nat) : Bool := 0xD800 ≤ point && point ≤ 0xDBFF

/-- is the code point the second half of a surrogate pair? -/
def isTrail (point : Nat) : Bool := 0xDC00 ≤ point && point ≤ 0xDFFF

/-- the code points of an escape after its `\u`; after a first half, an escape that follows must be of the same form -/
def unicodeEscape? : List Char → Option (List Nat × List Char)
  | '{' :: text => do
    let (point, rest) ← readBraced false 0 text
    if isLead point then
      match rest with
      | '\\' :: 'u' :: '{' :: more => do
        let (second, rest) ← readBraced false 0 more
        return ([point, second], rest)
      | '\\' :: 'u' :: _ => none
      | _ => return ([point], rest)
    else return ([point], rest)
  | text => do
    let (point, rest) ← readHex 4 0 text
    if isLead point then
      match rest with
      | '\\' :: 'u' :: more => do
        let (second, rest) ← readHex 4 0 more
        return ([point, second], rest)
      | _ => return ([point], rest)
    else return ([point], rest)

/-- what a literal stands for -/
structure Cooked where
  points : List Nat
  /-- an octal escape was used -/
  octal : Bool
  deriving Repr

/-- is the character an octal digit? -/
def isOctal (c : Char) : Bool := '0' ≤ c && c ≤ '7'

/-- the code points that the body of a literal stands for; `none` for a malformed escape. Every step takes a character,
so the length of the body is fuel enough. -/
def cookWith : Nat → List Char → Option Cooked
  | 0, _ => some ⟨[], false⟩
  | _ + 1, [] => some ⟨[], false⟩
  | fuel + 1, '\\' :: rest =>
    let literally (points : List Nat) (rest : List Char) : Option Cooked :=
      (cookWith fuel rest).map fun more => ⟨points ++ more.points, more.octal⟩
    match rest with
    | [] => some ⟨[], false⟩
    | 'b' :: rest => literally [8] rest
    | 'f' :: rest => literally [12] rest
    | 'n' :: rest => literally [10] rest
    | 'r' :: rest => literally [13] rest
    | 't' :: rest => literally [9] rest
    | 'v' :: rest => literally [11] rest
    | '\r' :: '\n' :: rest => literally [] rest
    | 'x' :: rest =>
      match readHex 2 0 rest with
      | some (point, rest) => literally [point] rest
      | none => none
    | 'u' :: rest =>
      match unicodeEscape? rest with
      | some (points, rest) => literally points rest
      | none => none
    | c :: rest =>
      if isLineEnd c then literally [] rest
      else if c = '0' ∧ (rest.head?.map isOctal).getD false = false then literally [0] rest
      else if isOctal c then (cookWith fuel rest).map fun more => ⟨c.toNat :: more.points, true⟩
      else literally [c.toNat] rest
  | fuel + 1, c :: rest => (cookWith fuel rest).map fun more => ⟨c.toNat :: more.points, more.octal⟩

/-- what the body of a literal stands for -/
def cook? (body : List Char) : Option Cooked := cookWith body.length body

/-- code points as a text -/
def joinSurrogates : List Nat → List Char
  | [] => []
  | [point] => [if isLead point || isTrail point then '\uFFFD' else Char.ofNat point]
  | point :: second :: rest =>
    if isLead point && isTrail second then
      Char.ofNat (0x10000 + (point - 0xD800) * 0x400 + (second - 0xDC00)) :: joinSurrogates rest
    else (if isLead point || isTrail point then '\uFFFD' else Char.ofNat point) :: joinSurrogates (second :: rest)

end ResourceInliner.Script
