/-
Positions in the source map. A position is an unsigned 32-bit number; a file's first byte sits at its base position, and
positions wrap around as the words they are.
-/
namespace ResourceInliner

/-- a range of positions; nothing keeps `hi` from lying before `lo` -/
structure Span where
  lo : UInt32
  hi : UInt32
  deriving DecidableEq, Repr, Inhabited

/-- the span of a node that stands nowhere in the source -/
def Span.dummy : Span := ⟨0, 0⟩

/-- the span between two positions, given in either order -/
def Span.between (a b : UInt32) : Span :=
  if b < a then ⟨b, a⟩ else ⟨a, b⟩

/-- spans are ordered by their start, then by their end -/
def Span.le (a b : Span) : Bool :=
  a.lo < b.lo || (a.lo == b.lo && a.hi ≤ b.hi)

end ResourceInliner
