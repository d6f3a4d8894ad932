/-
The shortest decimal text of a binary64 float: the fewest digits that read back as the same float, and of those the
digits nearest to it.

- `ShortestDecimal`: the digits and the power of ten of the last one.
- `shortest?`: found by trying 1, 2, … 17 digits in exact integer arithmetic.
- `floatText`: a float in words, by a layout. `jsonLayout`: the one of JSON texts.
-/
namespace ResourceInliner

/-- a positive binary float `mantissa * 2 ^ exponent` -/
structure BinaryFloat where
  mantissa : Nat
  exponent : Int
  /-- the gap to the float below is half the gap to the one above -/
  narrowBelow : Bool
  deriving DecidableEq, Repr

/-- a positive decimal `digits * 10 ^ exponent` -/
structure ShortestDecimal where
  digits : Nat
  exponent : Int
  deriving DecidableEq, Repr

/-- the parts of a finite float other than zero, its sign left out -/
def BinaryFloat.ofBits (bits : UInt64) : BinaryFloat :=
  let fraction := (bits &&& 0xFFFFFFFFFFFFF).toNat
  let biased := ((bits >>> 52) &&& 0x7FF).toNat
  if biased = 0 then ⟨fraction, -1074, false⟩
  else ⟨Nat.pow 2 52 + fraction, (biased : Int) - 1075, fraction == 0 && 1 < biased⟩

/-- `value * 2 ^ twos * 10 ^ tens` as a quotient of two whole numbers -/
def scaled (value : Nat) (twos tens : Int) : Nat × Nat :=
  let up (base : Nat) (power : Int) := Nat.pow base power.toNat
  (value * up 2 twos * up 10 tens, up 2 (-twos) * up 10 (-tens))

/-- does `candidate` (on the grid of `10 ^ tens`) read back as `x`? It must lie in the interval of reals that round to
`x`; the ends belong to it when the mantissa is even. -/
def readsBack (x : BinaryFloat) (candidate : Nat) (tens : Int) : Bool :=
  let twos := x.exponent - 2
  let gapBelow := if x.narrowBelow then 1 else 2
  let (lowNum, lowDen) := scaled (4 * x.mantissa - gapBelow) twos (-tens)
  let (highNum, highDen) := scaled (4 * x.mantissa + 2) twos (-tens)
  if x.mantissa % 2 = 0 then lowNum ≤ candidate * lowDen && candidate * highDen ≤ highNum
  else lowNum < candidate * lowDen && candidate * highDen < highNum

/-- the neighbours of `x` on the grid of `10 ^ tens` that read back, the nearer one; a tie goes to the even one -/
def nearestOnGrid? (x : BinaryFloat) (tens : Int) : Option Nat :=
  let (num, den) := scaled x.mantissa x.exponent (-tens)
  let below := num / den
  let above := below + 1
  match 0 < below && readsBack x below tens, readsBack x above tens with
  | true, true =>
    let excess := 2 * (num - below * den)
    if excess < den then some below
    else if den < excess then some above
    else some (if below % 2 = 0 then below else above)
  | true, false => some below
  | false, true => some above
  | false, false => none

/-- an estimate, never too small by more than one, of the power of ten just above `x` -/
def magnitude (x : BinaryFloat) : Int :=
  ((x.mantissa.log2 : Int) + x.exponent) * 30103 / 100000 + 1

/-- try grids from coarse to fine -/
def searchGrid (x : BinaryFloat) : Nat → Int → Option ShortestDecimal
  | 0, _ => none
  | steps + 1, tens =>
    match nearestOnGrid? x tens with
    | some digits => some ⟨digits, tens⟩
    | none => searchGrid x steps (tens - 1)

/-- drop the zeros at the end of the digits -/
def ShortestDecimal.trim : Nat → ShortestDecimal → ShortestDecimal
  | 0, d => d
  | steps + 1, d => if d.digits % 10 = 0 ∧ d.digits ≠ 0 then trim steps ⟨d.digits / 10, d.exponent + 1⟩ else d

/-- the shortest decimal that reads back as `x` -/
def shortest? (x : BinaryFloat) : Option ShortestDecimal :=
  (searchGrid x 20 (magnitude x + 1)).map (ShortestDecimal.trim 20)

/-- where a layout changes between positional and exponent notation -/
structure FloatLayout where
  /-- the least and the greatest power of ten of the first digit that is written positionally -/
  lowest : Int
  highest : Int
  /-- the sign written before an exponent that is not negative -/
  plus : String

/-- JSON texts write 0.00001 to 10^16 positionally, and mark positive exponents -/
def jsonLayout : FloatLayout := ⟨-5, 15, "+"⟩

/-- lay out digits; there is always a decimal point or an exponent -/
def FloatLayout.render (layout : FloatLayout) (d : ShortestDecimal) : String :=
  let digits := (toString d.digits).toList
  let first := d.exponent + (digits.length : Int) - 1
  if layout.lowest ≤ first ∧ first ≤ layout.highest then
    if 0 ≤ d.exponent then
      String.ofList (digits ++ List.replicate d.exponent.toNat '0') ++ ".0"
    else if 0 ≤ first then
      let whole := (first + 1).toNat
      String.ofList (digits.take whole ++ '.' :: digits.drop whole)
    else
      "0." ++ String.ofList (List.replicate (-first - 1).toNat '0' ++ digits)
  else
    let mantissa := match digits with
      | [digit] => [digit]
      | digit :: rest => digit :: '.' :: rest
      | [] => []
    let power := if first < 0 then "-" ++ toString (-first) else layout.plus ++ toString first
    String.ofList mantissa ++ "e" ++ power

/-- the text of a finite float -/
def floatText (layout : FloatLayout) (value : Float) : String :=
  let bits := value.toBits
  let sign := if bits >>> 63 = 1 then "-" else ""
  let magnitudeBits := bits &&& 0x7FFFFFFFFFFFFFFF
  if magnitudeBits = 0 then sign ++ "0.0"
  else match shortest? (BinaryFloat.ofBits magnitudeBits) with
    | some d => sign ++ layout.render d
    | none => sign ++ "0.0"

end ResourceInliner
