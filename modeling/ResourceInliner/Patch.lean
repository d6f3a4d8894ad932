/-
Text patches. A patch replaces one span of the source by chunks, each a new text or a span of the source copied as it
stands. `applyPatches` applies a list of patches in source order and copies every other byte through.

An empty span is an insertion. Spans that overlap, lie outside the source or cut a character are refused; a patch may
start where the one before it ended.
-/
import ResourceInliner.Span
import ResourceInliner.Text.Slice

namespace ResourceInliner

/-- a piece of replacement text -/
inductive Chunk where
  /-- new text -/
  | text (content : String)
  /-- source text used again as it stands -/
  | source (span : Span)
  deriving DecidableEq, Repr

/-- replace `span` of the source by `chunks` -/
structure Patch where
  span : Span
  chunks : List Chunk
  deriving DecidableEq, Repr

/-- put `content` in the place of `span` -/
def Patch.replace (span : Span) (content : String) : Patch :=
  ⟨span, [.text content]⟩

/-- take the source between two positions out -/
def Patch.remove (lo hi : UInt32) : Patch :=
  ⟨Span.between lo hi, []⟩

/-- put chunks in at a position -/
def Patch.insert (at_ : UInt32) (chunks : List Chunk) : Patch :=
  ⟨Span.between at_ at_, chunks⟩

/-- why a patch is refused -/
inductive PatchFault where
  | outside
  | overlap
  deriving DecidableEq, Repr

/-- the words for a fault -/
def PatchFault.reason : PatchFault → String
  | .outside => "span is outside the source file"
  | .overlap => "overlaps a previous patch"

/-- a refused span with its fault -/
structure PatchError where
  span : Span
  fault : PatchFault
  deriving DecidableEq, Repr

/-! ## Spans as byte ranges -/

/-- the byte range of a span in a source that starts at `base`; the range must be sliceable -/
def byteRange (source : List Char) (base : UInt32) (span : Span) : Except PatchError (Nat × Nat) :=
  if span.lo < base ∨ span.hi < span.lo then .error ⟨span, .outside⟩
  else
    let lo := (span.lo - base).toNat
    let hi := (span.hi - base).toNat
    match slice source lo hi with
    | some _ => .ok (lo, hi)
    | none => .error ⟨span, .outside⟩

/-- the text of a chunk -/
def Chunk.render (source : List Char) (base : UInt32) : Chunk → Except PatchError (List Char)
  | .text content => .ok content.toList
  | .source span => do
    let (lo, hi) ← byteRange source base span
    return (slice source lo hi).getD []

/-- the texts of the chunks, one after the other; the first refused chunk decides -/
def renderChunks (source : List Char) (base : UInt32) : List Chunk → Except PatchError (List Char)
  | [] => .ok []
  | chunk :: rest => do
    let front ← chunk.render source base
    let back ← renderChunks source base rest
    return front ++ back

/-! ## Applying -/

/-- patches in the order they are applied; equal spans keep the order they were given in -/
def sortPatches (patches : List Patch) : List Patch :=
  patches.mergeSort fun a b => a.span.le b.span

/-- apply patches that are already in order, with the source before byte `cursor` done -/
def applyFrom (source : List Char) (base : UInt32) (cursor : Nat) : List Patch → Except PatchError (List Char)
  | [] => .ok ((slice source cursor (byteLength source)).getD [])
  | patch :: rest => do
    let (lo, hi) ← byteRange source base patch.span
    if lo < cursor then throw ⟨patch.span, .overlap⟩
    let kept := (slice source cursor lo).getD []
    let replacement ← renderChunks source base patch.chunks
    let back ← applyFrom source base hi rest
    return kept ++ replacement ++ back

/-- apply patches, given in any order, to a source whose first byte sits at `base` -/
def applyPatches (source : String) (base : UInt32) (patches : List Patch) : Except PatchError String :=
  (applyFrom source.toList base 0 (sortPatches patches)).map String.ofList

end ResourceInliner
