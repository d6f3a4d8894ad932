/-
UTF-8. Bytes are decoded one at a time; a refusal names the byte where the ill-formed sequence starts and its length:
the longest start of a character that is there, or one byte when not even one byte starts a character.

- `utf8Bytes`: the bytes of a text.
- `decodeUtf8`: the text of bytes.
- `percentDecode`: bytes with each `%` and two hexadecimal digits replaced by the byte they name.
-/
namespace ResourceInliner

/-- the bytes of a text -/
def utf8Bytes (text : List Char) : List UInt8 :=
  text.flatMap String.utf8EncodeChar

/-- why bytes are no text -/
inductive Utf8Fault where
  /-- `length` bytes from byte `index` on start no character -/
  | illFormed (index length : Nat)
  /-- the last character, from byte `index` on, is cut off -/
  | incomplete (index : Nat)
  deriving DecidableEq, Repr

/-- a fault in words -/
def Utf8Fault.message : Utf8Fault → String
  | .illFormed index length =>
    "invalid utf-8 sequence of " ++ toString length ++ " bytes from index " ++ toString index
  | .incomplete index => "incomplete utf-8 byte sequence from index " ++ toString index

/-- what some bytes are -/
inductive Utf8Sequence where
  /-- one whole character -/
  | whole (c : Char)
  /-- the start of a character -/
  | start
  | illFormed

/-- is the byte one that goes on with a character? -/
def isTail (b : UInt8) : Bool := 0x80 ≤ b && b ≤ 0xBF

/-- may `b` follow the first byte `a` of a character? The smallest and the greatest second byte hold off overlong forms,
surrogates and code points that are too large. -/
def isSecond (a b : UInt8) : Bool :=
  if a = 0xE0 then 0xA0 ≤ b && b ≤ 0xBF
  else if a = 0xED then 0x80 ≤ b && b ≤ 0x9F
  else if a = 0xF0 then 0x90 ≤ b && b ≤ 0xBF
  else if a = 0xF4 then 0x80 ≤ b && b ≤ 0x8F
  else isTail b

/-- the low bits of a byte that goes on with a character -/
def tailBits (b : UInt8) : Nat := b.toNat % 64

/-- what up to four bytes are, when all but the last start a character -/
def classify : List UInt8 → Utf8Sequence
  | [a] =>
    if a < 0x80 then .whole (Char.ofNat a.toNat)
    else if 0xC2 ≤ a ∧ a ≤ 0xF4 then .start
    else .illFormed
  | [a, b] =>
    if !isSecond a b then .illFormed
    else if a < 0xE0 then .whole (Char.ofNat (a.toNat % 32 * 64 + tailBits b))
    else .start
  | [a, b, c] =>
    if !isTail c then .illFormed
    else if a < 0xF0 then .whole (Char.ofNat ((a.toNat % 16 * 64 + tailBits b) * 64 + tailBits c))
    else .start
  | [a, b, c, d] =>
    if !isTail d then .illFormed
    else .whole (Char.ofNat (((a.toNat % 8 * 64 + tailBits b) * 64 + tailBits c) * 64 + tailBits d))
  | _ => .illFormed

/-- decode bytes from byte `index` on, with the start of a character already taken -/
def decodeFrom : Nat → List UInt8 → List UInt8 → Except Utf8Fault (List Char)
  | _, [], [] => .ok []
  | index, _ :: _, [] => .error (.incomplete index)
  | index, taken, b :: rest =>
    match classify (taken ++ [b]) with
    | .whole c => (decodeFrom (index + taken.length + 1) [] rest).map (c :: ·)
    | .start => decodeFrom index (taken ++ [b]) rest
    | .illFormed => .error (.illFormed index (max 1 taken.length))

/-- the text of bytes -/
def decodeUtf8 (bytes : List UInt8) : Except Utf8Fault (List Char) :=
  decodeFrom 0 [] bytes

/-- the value of an ASCII hexadecimal digit -/
def hexValue? (b : UInt8) : Option UInt8 :=
  if 0x30 ≤ b ∧ b ≤ 0x39 then some (b - 0x30)
  else if 0x41 ≤ b ∧ b ≤ 0x46 then some (b - 55)
  else if 0x61 ≤ b ∧ b ≤ 0x66 then some (b - 87)
  else none

/-- replace each percent sign with two hexadecimal digits by the byte they name; other percent signs stay -/
def percentDecode : List UInt8 → List UInt8
  | [] => []
  | [b] => [b]
  | [b, c] => [b, c]
  | b :: c :: d :: rest =>
    if b = 0x25 then
      match hexValue? c, hexValue? d with
      | some high, some low => (high * 16 + low) :: percentDecode rest
      | _, _ => b :: percentDecode (c :: d :: rest)
    else b :: percentDecode (c :: d :: rest)

end ResourceInliner
