/-
Applying patches with every step checked: a position is subtracted from only where that does not go below zero, and a
slice is taken only where it lies in the source and cuts no character. A step that goes wrong has no result at all, which
is not the same as a patch that is refused.

- `Strict.applyPatches`: the checked application.
- `run_applyPatches`: no step of it goes wrong, whatever the source, the base and the patches.
-/
import ResourceInliner.Proofs.Patch.Apply

namespace ResourceInliner.Strict

/-- a computation that can be refused; it has no result at all once something is out of range -/
abbrev Run (α : Type) := ExceptT PatchError Option α

/-- the bytes from the base to a position; there are none to a position before it -/
def offset (base position : UInt32) : Option Nat :=
  if base ≤ position then some (position - base).toNat else none

/-- `byteRange`, with its subtractions checked -/
def byteRange (source : List Char) (base : UInt32) (span : Span) : Run (Nat × Nat) :=
  if span.lo < base ∨ span.hi < span.lo then throw ⟨span, .outside⟩
  else do
    let lo ← offset base span.lo
    let hi ← offset base span.hi
    -- only a question: a span that cuts a character is refused, its text is not taken
    if (slice source lo hi).isSome then return (lo, hi)
    else throw ⟨span, .outside⟩

/-- `Chunk.render`, with its slice checked -/
def render (source : List Char) (base : UInt32) : Chunk → Run (List Char)
  | .text content => return content.toList
  | .source span => do
    let (lo, hi) ← byteRange source base span
    slice source lo hi

/-- `renderChunks`, with its slices checked -/
def renderChunks (source : List Char) (base : UInt32) : List Chunk → Run (List Char)
  | [] => return []
  | chunk :: rest => do
    let front ← render source base chunk
    let back ← renderChunks source base rest
    return front ++ back

/-- `applyFrom`, with its slices checked -/
def applyFrom (source : List Char) (base : UInt32) (cursor : Nat) : List Patch → Run (List Char)
  | [] => slice source cursor (byteLength source)
  | patch :: rest => do
    let (lo, hi) ← byteRange source base patch.span
    if lo < cursor then throw ⟨patch.span, .overlap⟩
    let kept ← slice source cursor lo
    let replacement ← renderChunks source base patch.chunks
    let back ← applyFrom source base hi rest
    return kept ++ replacement ++ back

/-- `applyPatches`, with its subtractions and slices checked -/
def applyPatches (source : String) (base : UInt32) (patches : List Patch) : Run String :=
  String.ofList <$> applyFrom source.toList base 0 (sortPatches patches)

/-! ## No step goes wrong -/

section

variable {source : List Char} {base : UInt32}

/-- a step that does not go wrong, and then another one -/
theorem run_bind {α β : Type} {x : Run α} {result : Except PatchError α} (h : x.run = some result) {f : α → Run β}
    {g : α → Except PatchError β} (hfg : ∀ value, result = .ok value → (f value).run = some (g value)) :
    (x >>= f).run = some (result >>= g) := by
  rw [ExceptT.run_bind, h]
  cases result with
  | error error => rfl
  | ok value => exact hfg value rfl

/-- a value that is there -/
theorem run_some {α β : Type} {x : Option α} {value : α} (h : x = some value) (f : α → Run β) :
    (liftM x >>= f).run = (f value).run := by
  rw [h]
  rfl

theorem run_byteRange (span : Span) :
    (byteRange source base span).run = some (ResourceInliner.byteRange source base span) := by
  unfold byteRange ResourceInliner.byteRange
  by_cases hout : span.lo < base ∨ span.hi < span.lo
  · rw [if_pos hout, if_pos hout]
    rfl
  · have hlo : base ≤ span.lo := UInt32.not_lt.1 fun h => hout (.inl h)
    have hhi : base ≤ span.hi := UInt32.le_trans hlo (UInt32.not_lt.1 fun h => hout (.inr h))
    have hstart : offset base span.lo = some (span.lo - base).toNat := if_pos hlo
    have hend : offset base span.hi = some (span.hi - base).toNat := if_pos hhi
    rw [if_neg hout, if_neg hout, run_some hstart, run_some hend]
    dsimp only
    cases slice source (span.lo - base).toNat (span.hi - base).toNat <;> rfl

theorem run_render (chunk : Chunk) : (render source base chunk).run = some (chunk.render source base) := by
  cases chunk with
  | text content => rfl
  | source span =>
    refine run_bind (run_byteRange span) fun range hrange => ?_
    obtain ⟨text, hslice⟩ := slice_of_byteRange hrange
    simp only [hslice]
    rfl

theorem run_renderChunks (chunks : List Chunk) :
    (renderChunks source base chunks).run = some (ResourceInliner.renderChunks source base chunks) := by
  induction chunks with
  | nil => rfl
  | cons chunk rest ih =>
    refine run_bind (run_render chunk) fun front _ => ?_
    exact run_bind ih fun back _ => rfl

/-- behind a cursor between two characters, every slice is in the source -/
theorem run_applyFrom (patches : List Patch) {before rest : List Char} (hsource : source = before ++ rest) :
    (applyFrom source base (byteLength before) patches).run =
      some (ResourceInliner.applyFrom source base (byteLength before) patches) := by
  induction patches generalizing before rest with
  | nil =>
    have hslice : slice source (byteLength before) (byteLength source) = some rest := by
      rw [hsource, slice_to_end]
    rw [applyFrom, ResourceInliner.applyFrom, hslice]
    rfl
  | cons patch patches ih =>
    refine run_bind (run_byteRange patch.span) fun range hrange => ?_
    obtain ⟨lo, hi⟩ := range
    by_cases hlt : lo < byteLength before
    · simp only [hlt, if_true]
      rfl
    obtain ⟨old, hold : slice source lo hi = some old⟩ := slice_of_byteRange hrange
    obtain ⟨front, after, hcut, hfront, hend⟩ := slice_eq_some hold
    have hsplit : before ++ rest = front ++ (old ++ after) := by rw [← hsource, hcut, List.append_assoc]
    obtain ⟨kept, hkept, -⟩ := append_eq_append_of_le hsplit (by omega)
    have hgap : slice source (byteLength before) lo = some kept := by
      have hlength : lo = byteLength before + byteLength kept := by rw [← hfront, hkept, byteLength_append]
      rw [hcut, hkept, hlength, List.append_assoc (before ++ kept), slice_append]
    have hnext : hi = byteLength (front ++ old) := by rw [byteLength_append, hfront, hend]
    simp only [hlt, if_false, hgap, Option.getD_some]
    rw [run_some rfl]
    refine run_bind (run_renderChunks patch.chunks) fun new _ => ?_
    refine run_bind ?_ fun back _ => rfl
    rw [hnext]
    exact ih hcut

end

/-- **Main result.** A checked application never gets out of range, and comes to what the one without checks comes to. -/
theorem run_applyPatches (source : String) (base : UInt32) (patches : List Patch) :
    (applyPatches source base patches).run = some (ResourceInliner.applyPatches source base patches) := by
  have hstrict : (applyFrom source.toList base (byteLength []) (sortPatches patches)).run = some _ :=
    run_applyFrom (sortPatches patches) (List.nil_append source.toList).symm
  rw [byteLength_nil] at hstrict
  rw [applyPatches, ExceptT.run_map, hstrict, ResourceInliner.applyPatches]
  rfl

end ResourceInliner.Strict
