/-
Reading JSON texts. A text is read as UTF-8 bytes; a refusal names its cause, the line, and the number of bytes of that
line read so far.

- `Json.parse`: the value of a text, with nothing but blanks around it.
- `ReadFault.message`: the words for each cause.
- A number without a fraction or an exponent that fits in 64 bits is an integer; `-0` and all others are floats, made by
  scaling up to 19 significant digits by a power of ten.
- Lists and objects may be nested 127 deep.
-/
import ResourceInliner.Json.Value
import ResourceInliner.Text.Utf8

namespace ResourceInliner.Json

/-- why a text is no JSON value -/
inductive ReadFault where
  | eofInValue
  | eofInList
  | eofInObject
  | eofInString
  | expectedValue
  | expectedWord
  | expectedColon
  | expectedCommaOrBrace
  | expectedCommaOrBracket
  | keyNotString
  | trailingComma
  | trailingCharacters
  | invalidNumber
  | numberOutOfRange
  | invalidEscape
  | unexpectedEndOfHexEscape
  | loneSurrogate
  | controlCharacter
  | tooDeep
  deriving DecidableEq, Repr

/-- the words for a cause -/
def ReadFault.message : ReadFault → String
  | .eofInValue => "EOF while parsing a value"
  | .eofInList => "EOF while parsing a list"
  | .eofInObject => "EOF while parsing an object"
  | .eofInString => "EOF while parsing a string"
  | .expectedValue => "expected value"
  | .expectedWord => "expected ident"
  | .expectedColon => "expected \x60:\x60"
  | .expectedCommaOrBrace => "expected \x60,\x60 or \x60\x7d\x60"
  | .expectedCommaOrBracket => "expected \x60,\x60 or \x60]\x60"
  | .keyNotString => "key must be a string"
  | .trailingComma => "trailing comma"
  | .trailingCharacters => "trailing characters"
  | .invalidNumber => "invalid number"
  | .numberOutOfRange => "number out of range"
  | .invalidEscape => "invalid escape"
  | .unexpectedEndOfHexEscape => "unexpected end of hex escape"
  | .loneSurrogate => "lone leading surrogate in hex escape"
  | .controlCharacter => "control character (\\u0000-\\u001F) found while parsing a string"
  | .tooDeep => "recursion limit exceeded"

/-- a refusal with the place it was found at -/
structure ReadError where
  fault : ReadFault
  line : Nat
  column : Nat
  deriving DecidableEq, Repr

/-- a refusal in words -/
def ReadError.message (e : ReadError) : String :=
  e.fault.message ++ " at line " ++ toString e.line ++ " column " ++ toString e.column

/-! ## The cursor -/

/-- the bytes left to read, and the place of the first of them -/
structure Cursor where
  rest : List UInt8
  line : Nat
  column : Nat

/-- the code of an ASCII character -/
def byte (c : Char) : UInt8 := c.toNat.toUInt8

/-- step over one byte -/
def Cursor.next (c : Cursor) : Cursor :=
  match c.rest with
  | [] => c
  | b :: rest => if b = byte '\n' then ⟨rest, c.line + 1, 0⟩ else ⟨rest, c.line, c.column + 1⟩

/-- step over `n` bytes -/
def Cursor.skip : Nat → Cursor → Cursor
  | 0, c => c
  | n + 1, c => skip n c.next

/-- a refusal at the cursor -/
def Cursor.fail {α : Type} (c : Cursor) (fault : ReadFault) : Except ReadError α :=
  .error ⟨fault, c.line, c.column⟩

/-- a refusal of the byte at the cursor, which counts as read -/
def Cursor.refuse {α : Type} (c : Cursor) (fault : ReadFault) : Except ReadError α :=
  c.next.fail fault

/-- blanks are the space, the tab and the two line ends -/
def isBlank (b : UInt8) : Bool :=
  b == byte ' ' || b == byte '\n' || b == byte '\t' || b == byte '\r'

/-- step over blanks -/
def Cursor.skipBlanks (c : Cursor) : Cursor :=
  c.skip (c.rest.takeWhile isBlank).length

/-- the value of a decimal digit -/
def digit? (b : UInt8) : Option Nat :=
  if byte '0' ≤ b ∧ b ≤ byte '9' then some (b.toNat - 48) else none

/-- the value of a hexadecimal digit -/
def hexDigit? (b : UInt8) : Option Nat :=
  if byte '0' ≤ b ∧ b ≤ byte '9' then some (b.toNat - 48)
  else if byte 'a' ≤ b ∧ b ≤ byte 'f' then some (b.toNat - 87)
  else if byte 'A' ≤ b ∧ b ≤ byte 'F' then some (b.toNat - 55)
  else none

/-! ## Numbers -/

/-- digits are taken into the significand while it stays within 64 bits -/
def fits64 (n : Nat) : Bool := n < Nat.pow 2 64

/-- `significand * 10 ^ exponent` by floating-point scaling in steps of at most `10 ^ 308`; an overflow is `none` -/
def scaleFloat : Nat → Float → Int → Option Float
  | 0, f, _ => some f
  | steps + 1, f, exponent =>
    if exponent.natAbs ≤ 308 then
      if 0 ≤ exponent then
        let product := f * Float.ofScientific 1 false exponent.natAbs
        if product.isInf then none else some product
      else some (f / Float.ofScientific 1 false exponent.natAbs)
    else if f == 0.0 then some f
    else if 0 ≤ exponent then none
    else scaleFloat steps (f / Float.ofScientific 1 false 308) (exponent + 308)

/-- the float of a sign, a significand and a power of ten -/
def makeFloat (c : Cursor) (positive : Bool) (significand : Nat) (exponent : Int) :
    Except ReadError (JsonNumber × Cursor) :=
  match scaleFloat 4 significand.toUInt64.toFloat exponent with
  | some f => .ok (.float (if positive then f else -f), c)
  | none => c.fail .numberOutOfRange

/-- the digits at the cursor, read into a number -/
def readDigits (c : Cursor) : Nat × Nat × Cursor :=
  let digits := c.rest.takeWhile fun b => (digit? b).isSome
  (digits.foldl (fun n b => 10 * n + (digit? b).getD 0) 0, digits.length, c.skip digits.length)

/-- the exponent after its mark -/
def readExponent (c : Cursor) (positive : Bool) (significand : Nat) (start : Int) :
    Except ReadError (JsonNumber × Cursor) :=
  let c := c.next
  let (up, c) := match c.rest with
    | b :: _ => if b = byte '+' then (true, c.next) else if b = byte '-' then (false, c.next) else (true, c)
    | [] => (true, c)
  match c.rest with
  | [] => c.fail .eofInValue
  | b :: _ =>
    match digit? b with
    | none => c.refuse .invalidNumber
    | some _ =>
      let (power, _, after) := readDigits c
      if power < Nat.pow 2 31 then makeFloat after positive significand (if up then start + power else start - power)
      else if significand ≠ 0 ∧ up then
        -- refused at the first digit that does not fit
        let kept := (c.rest.foldl (fun (state : Nat × Nat × Bool) b =>
          let (n, count, done) := state
          match done, digit? b with
          | false, some d => if 10 * n + d < Nat.pow 2 31 then (10 * n + d, count + 1, false) else (n, count + 1, true)
          | _, _ => (n, count, true)) (0, 0, false)).2.1
        (c.skip kept).fail .numberOutOfRange
      else .ok (.float (if positive then 0.0 else -0.0), after)

/-- an exponent, if one follows -/
def readExponentPart (c : Cursor) (positive : Bool) (significand : Nat) (exponent : Int) :
    Except ReadError (JsonNumber × Cursor) :=
  match c.rest with
  | b :: _ =>
    if b = byte 'e' ∨ b = byte 'E' then readExponent c positive significand exponent
    else makeFloat c positive significand exponent
  | [] => makeFloat c positive significand exponent

/-- fraction digits, taken while the significand fits; the rest are dropped -/
def readFraction : List UInt8 → Nat → Nat → Nat × Nat
  | [], significand, count => (significand, count)
  | b :: rest, significand, count =>
    match digit? b with
    | none => (significand, count)
    | some d =>
      if fits64 (10 * significand + d) then readFraction rest (10 * significand + d) (count + 1)
      else (significand, count)

/-- the fraction after its point -/
def readDecimal (c : Cursor) (positive : Bool) (significand : Nat) (exponent : Int) :
    Except ReadError (JsonNumber × Cursor) :=
  let c := c.next
  let (_, length, after) := readDigits c
  let (significand', taken) := readFraction c.rest significand 0
  if length = 0 then
    match c.rest with
    | [] => c.fail .eofInValue
    | _ => c.refuse .invalidNumber
  else readExponentPart after positive significand' (exponent - taken)

/-- a number that starts with an ASCII digit -/
def readUnsigned (c : Cursor) (positive : Bool) : Except ReadError (JsonNumber × Cursor) :=
  match c.rest with
  | [] => c.fail .eofInValue
  | b :: rest =>
    match digit? b with
    | none => c.next.fail .invalidNumber
    | some 0 =>
      match rest with
      | d :: _ => if (digit? d).isSome then c.next.refuse .invalidNumber else finish c.next 0 0
      | [] => finish c.next 0 0
    | some _ =>
      let (_, length, after) := readDigits c
      let (significand, taken) := readFraction c.rest 0 0
      finish after significand (length - taken)
where
  /-- what follows the whole digits, `dropped` of which did not fit -/
  finish (c : Cursor) (significand dropped : Nat) : Except ReadError (JsonNumber × Cursor) :=
    let next := c.rest.head?
    if next = some (byte '.') then readDecimal c positive significand dropped
    else if next = some (byte 'e') ∨ next = some (byte 'E') then readExponent c positive significand dropped
    else if dropped ≠ 0 then makeFloat c positive significand dropped
    else if positive then .ok (.integer significand, c)
    else if significand = 0 ∨ Nat.pow 2 63 < significand then .ok (.float (-significand.toUInt64.toFloat), c)
    else .ok (.integer (-significand), c)

/-! ## Strings -/

/-- UTF-8 bytes of a code point -/
def encode (code : Nat) : List UInt8 :=
  String.utf8EncodeChar (Char.ofNat code)

/-- four hexadecimal digits -/
def readHex4 (c : Cursor) : Except ReadError (Nat × Cursor) :=
  if c.rest.length < 4 then (c.skip c.rest.length).fail .eofInString
  else
    let after := c.skip 4
    match (c.rest.take 4).mapM hexDigit? with
    | some digits => .ok (digits.foldl (fun n d => 16 * n + d) 0, after)
    | none => after.fail .invalidEscape

/-- step over the expected byte of a surrogate pair -/
def readPairMark (c : Cursor) (mark : Char) : Except ReadError Cursor :=
  match c.rest with
  | [] => c.fail .eofInString
  | b :: _ => if b = byte mark then .ok c.next else c.next.fail .unexpectedEndOfHexEscape

/-- the character of a Unicode escape, after its `u`; surrogates come in pairs -/
def readUnicode (c : Cursor) : Except ReadError (List UInt8 × Cursor) := do
  let (high, c) ← readHex4 c
  if 0xDC00 ≤ high ∧ high ≤ 0xDFFF then c.fail .loneSurrogate
  else if high < 0xD800 ∨ 0xDBFF < high then return (encode high, c)
  else
    let c ← readPairMark c '\\'
    let c ← readPairMark c 'u'
    let (low, c) ← readHex4 c
    if low < 0xDC00 ∨ 0xDFFF < low then c.fail .loneSurrogate
    else return (encode (0x10000 + (high - 0xD800) * 0x400 + (low - 0xDC00)), c)

/-- the characters of an escape, after its backslash -/
def readEscape (c : Cursor) : Except ReadError (List UInt8 × Cursor) :=
  match c.rest with
  | [] => c.fail .eofInString
  | b :: _ =>
    let c := c.next
    if b = byte '"' ∨ b = byte '\\' ∨ b = byte '/' then .ok ([b], c)
    else if b = byte 'b' then .ok ([8], c)
    else if b = byte 'f' then .ok ([12], c)
    else if b = byte 'n' then .ok ([10], c)
    else if b = byte 'r' then .ok ([13], c)
    else if b = byte 't' then .ok ([9], c)
    else if b = byte 'u' then readUnicode c
    else c.fail .invalidEscape

/-- the bytes of a string up to its closing quote, in reverse -/
def readStringBytes : Nat → Cursor → List UInt8 → Except ReadError (List UInt8 × Cursor)
  | 0, c, _ => c.fail .eofInString
  | fuel + 1, c, acc =>
    match c.rest with
    | [] => c.fail .eofInString
    | b :: _ =>
      if b = byte '"' then .ok (acc, c.next)
      else if b = byte '\\' then do
        let (bytes, c) ← readEscape c.next
        readStringBytes fuel c (bytes.reverse ++ acc)
      else if b < 0x20 then c.next.fail .controlCharacter
      else readStringBytes fuel c.next (b :: acc)

/-- a string, after its opening quote; what stands between ASCII quotes in a text is a text -/
def readString (c : Cursor) : Except ReadError (String × Cursor) := do
  let (bytes, c) ← readStringBytes (c.rest.length + 1) c []
  return (String.ofList ((decodeUtf8 bytes.reverse).toOption.getD []), c)

/-! ## Values -/

/-- the rest of a word such as `null` -/
def readWord : List Char → Cursor → Except ReadError Cursor
  | [], c => .ok c
  | letter :: letters, c =>
    match c.rest with
    | [] => c.fail .eofInValue
    | b :: _ => if b = byte letter then readWord letters c.next else c.next.fail .expectedWord

/-- the items of a list up to its closing bracket -/
def readItems (readValue : Cursor → Except ReadError (Json × Cursor)) :
    Nat → Bool → Cursor → List Json → Except ReadError (List Json × Cursor)
  | 0, _, c, _ => c.fail .eofInList
  | fuel + 1, first, c, acc =>
    let c := c.skipBlanks
    match c.rest with
    | [] => c.fail .eofInList
    | b :: _ =>
      if b = byte ']' then .ok (acc.reverse, c.next)
      else if first then do
        let (item, c) ← readValue c
        readItems readValue fuel false c (item :: acc)
      else if b = byte ',' then
        let c := c.next.skipBlanks
        match c.rest with
        | [] => c.fail .eofInValue
        | b :: _ =>
          if b = byte ']' then c.refuse .trailingComma
          else do
            let (item, c) ← readValue c
            readItems readValue fuel false c (item :: acc)
      else c.refuse .expectedCommaOrBracket

/-- an entry of an object, from the opening quote of its name -/
def readEntry (readValue : Cursor → Except ReadError (Json × Cursor)) (c : Cursor) :
    Except ReadError ((String × Json) × Cursor) := do
  let (name, c) ← readString c.next
  let c := c.skipBlanks
  match c.rest with
  | [] => c.fail .eofInObject
  | b :: _ =>
    if b = byte ':' then do
      let (value, c) ← readValue c.next
      return ((name, value), c)
    else c.refuse .expectedColon

/-- the entries of an object up to its closing brace; of entries with one name the last wins -/
def readEntries (readValue : Cursor → Except ReadError (Json × Cursor)) :
    Nat → Bool → Cursor → Entries Json → Except ReadError (Entries Json × Cursor)
  | 0, _, c, _ => c.fail .eofInObject
  | fuel + 1, first, c, acc =>
    let c := c.skipBlanks
    match c.rest with
    | [] => c.fail .eofInObject
    | b :: _ =>
      if b = byte '}' then .ok (acc, c.next)
      else if first then
        if b = byte '"' then do
          let ((name, value), c) ← readEntry readValue c
          readEntries readValue fuel false c (acc.set name value)
        else c.refuse .keyNotString
      else if b = byte ',' then
        let c := c.next.skipBlanks
        match c.rest with
        | [] => c.fail .eofInValue
        | b :: _ =>
          if b = byte '"' then do
            let ((name, value), c) ← readEntry readValue c
            readEntries readValue fuel false c (acc.set name value)
          else if b = byte '}' then c.refuse .trailingComma
          else c.refuse .keyNotString
      else c.refuse .expectedCommaOrBrace

/-- a value; `depth` levels of lists and objects may still be opened -/
def readValue : Nat → Cursor → Except ReadError (Json × Cursor)
  | 0, c => c.fail .tooDeep
  | depth + 1, c =>
    let c := c.skipBlanks
    match c.rest with
    | [] => c.fail .eofInValue
    | b :: _ =>
      if b = byte 'n' then return (.null, ← readWord ['u', 'l', 'l'] c.next)
      else if b = byte 't' then return (.bool true, ← readWord ['r', 'u', 'e'] c.next)
      else if b = byte 'f' then return (.bool false, ← readWord ['a', 'l', 's', 'e'] c.next)
      else if b = byte '-' then do
        let (n, c) ← readUnsigned c.next false
        return (.number n, c)
      else if (digit? b).isSome then do
        let (n, c) ← readUnsigned c true
        return (.number n, c)
      else if b = byte '"' then do
        let (s, c) ← readString c.next
        return (.string s, c)
      else if b = byte '[' then
        if depth = 0 then c.refuse .tooDeep
        else do
          let (items, c) ← readItems (readValue depth) (c.rest.length + 1) true c.next []
          return (.array items, c)
      else if b = byte '{' then
        if depth = 0 then c.refuse .tooDeep
        else do
          let (entries, c) ← readEntries (readValue depth) (c.rest.length + 1) true c.next []
          return (.object entries, c)
      else c.refuse .expectedValue

/-- the value of a whole text -/
def parse (text : String) : Except ReadError Json := do
  let (value, c) ← readValue 128 ⟨utf8Bytes text.toList, 1, 0⟩
  let c := c.skipBlanks
  match c.rest with
  | [] => return value
  | _ => c.refuse .trailingCharacters

end ResourceInliner.Json
