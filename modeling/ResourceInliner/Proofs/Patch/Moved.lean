/-
Text in front of a source. It moves every position in the source by its length; patches that are moved along make the
same change, or are refused for the same reason.

- `Span.moved`, `Patch.moved`: the same some bytes later. `Patch.Movable`: no position gets lost on the way.
- `applyPatches_moved`: moved patches, applied behind the text in front.
-/
import ResourceInliner.Proofs.Patch.Apply

namespace ResourceInliner

/-! ## Later in the source -/

/-- the same span, some bytes later -/
def Span.moved (bytes : UInt32) (span : Span) : Span :=
  ⟨span.lo + bytes, span.hi + bytes⟩

/-- the same chunk, taken some bytes later -/
def Chunk.moved (bytes : UInt32) : Chunk → Chunk
  | .text content => .text content
  | .source span => .source (span.moved bytes)

/-- the same patch, some bytes later -/
def Patch.moved (bytes : UInt32) (patch : Patch) : Patch :=
  ⟨patch.span.moved bytes, patch.chunks.map (Chunk.moved bytes)⟩

/-- the same refusal, some bytes later -/
def PatchError.moved (bytes : UInt32) (error : PatchError) : PatchError :=
  ⟨error.span.moved bytes, error.fault⟩

/-- the span starts in the source, and its positions do not wrap around when it is moved -/
structure Span.Movable (base bytes : UInt32) (span : Span) : Prop where
  base_le : base ≤ span.lo
  lo_lt : span.lo.toNat + bytes.toNat < UInt32.size
  hi_lt : span.hi.toNat + bytes.toNat < UInt32.size

/-- the patch can be moved, with the spans that it copies -/
structure Patch.Movable (base bytes : UInt32) (patch : Patch) : Prop where
  span : patch.span.Movable base bytes
  copies : ∀ span, .source span ∈ patch.chunks → span.Movable base bytes

theorem Span.Movable.toNat_moved {base bytes : UInt32} {span : Span} (h : span.Movable base bytes) :
    (span.moved bytes).lo.toNat = span.lo.toNat + bytes.toNat ∧
      (span.moved bytes).hi.toNat = span.hi.toNat + bytes.toNat := by
  have hlo := h.lo_lt
  have hhi := h.hi_lt
  have hsize : UInt32.size = 4294967296 := rfl
  rw [Span.moved, UInt32.toNat_add, UInt32.toNat_add]
  omega

theorem Span.le_moved {base bytes : UInt32} {a b : Span} (ha : a.Movable base bytes) (hb : b.Movable base bytes) :
    (a.moved bytes).le (b.moved bytes) = a.le b := by
  obtain ⟨halo, hahi⟩ := ha.toNat_moved
  obtain ⟨hblo, hbhi⟩ := hb.toNat_moved
  rw [Bool.eq_iff_iff, Span.le_iff, Span.le_iff]
  omega

theorem sortPatches_moved {base bytes : UInt32} {patches : List Patch}
    (h : ∀ patch ∈ patches, patch.Movable base bytes) :
    sortPatches (patches.map (Patch.moved bytes)) = (sortPatches patches).map (Patch.moved bytes) := by
  rw [sortPatches, sortPatches, List.map_mergeSort]
  exact fun a ha b hb => (Span.le_moved (h a ha).span (h b hb).span).symm

/-! ## Behind the text in front -/

@[simp] theorem mapError_ok {ε ε' α : Type} (f : ε → ε') (value : α) :
    (Except.ok value).mapError f = .ok value := rfl

@[simp] theorem mapError_error {ε ε' α : Type} (f : ε → ε') (error : ε) :
    (Except.error error : Except ε α).mapError f = .error (f error) := rfl

theorem splitAtByte_front (front source : List Char) (n : Nat) :
    splitAtByte (front ++ source) (byteLength front + n) =
      (splitAtByte source n).map fun (before, after) => (front ++ before, after) := by
  induction front with
  | nil =>
    rw [byteLength_nil, Nat.zero_add, List.nil_append]
    cases splitAtByte source n <;> rfl
  | cons c front ih =>
    have hsize := c.utf8Size_pos
    obtain ⟨m, hm⟩ : ∃ m, byteLength (c :: front) + n = m + 1 := ⟨byteLength (c :: front) + n - 1, by
      rw [byteLength_cons]; omega⟩
    have hrest : m + 1 - c.utf8Size = byteLength front + n := by rw [← hm, byteLength_cons]; omega
    have hfits : ¬ m + 1 < c.utf8Size := by rw [← hm, byteLength_cons]; omega
    rw [hm, List.cons_append, splitAtByte, if_neg hfits, hrest, ih, Option.map_map]
    rfl

theorem slice_front (front source : List Char) (lo hi : Nat) :
    slice (front ++ source) (byteLength front + lo) (byteLength front + hi) = slice source lo hi := by
  rw [slice, slice, splitAtByte_front, Nat.add_sub_add_left]
  by_cases h : hi < lo
  · rw [if_pos h, if_pos (by omega)]
  · rw [if_neg h, if_neg (by omega)]
    cases splitAtByte source lo <;> rfl

variable {front : List Char} (source : List Char) {base bytes : UInt32} (hbytes : bytes.toNat = byteLength front)

include hbytes

theorem byteRange_of_moved {span : Span} (h : span.Movable base bytes) :
    byteRange (front ++ source) base (span.moved bytes) =
      ((byteRange source base span).map fun (lo, hi) => (byteLength front + lo, byteLength front + hi)).mapError
        (PatchError.moved bytes) := by
  obtain ⟨hlo, hhi⟩ := h.toNat_moved
  have hbase := UInt32.le_iff_toNat_le.1 h.base_le
  rw [byteRange, byteRange]
  by_cases hout : span.hi < span.lo
  · have hmoved : (span.moved bytes).hi < (span.moved bytes).lo := by
      rw [UInt32.lt_iff_toNat_lt] at hout ⊢
      omega
    rw [if_pos (.inr hmoved), if_pos (.inr hout)]
    rfl
  · have hle : span.lo ≤ span.hi := UInt32.not_lt.1 hout
    have hle' := UInt32.le_iff_toNat_le.1 hle
    have hstart : base ≤ (span.moved bytes).lo := by rw [UInt32.le_iff_toNat_le]; omega
    have horder : (span.moved bytes).lo ≤ (span.moved bytes).hi := by rw [UInt32.le_iff_toNat_le]; omega
    have hfrom : ((span.moved bytes).lo - base).toNat = byteLength front + (span.lo - base).toNat := by
      rw [UInt32.toNat_sub_of_le _ _ hstart, UInt32.toNat_sub_of_le _ _ h.base_le]
      omega
    have hto : ((span.moved bytes).hi - base).toNat = byteLength front + (span.hi - base).toNat := by
      rw [UInt32.toNat_sub_of_le _ _ (UInt32.le_trans hstart horder),
        UInt32.toNat_sub_of_le _ _ (UInt32.le_trans h.base_le hle)]
      omega
    rw [if_neg (not_or.2 ⟨UInt32.not_lt.2 hstart, UInt32.not_lt.2 horder⟩),
      if_neg (not_or.2 ⟨UInt32.not_lt.2 h.base_le, hout⟩), hfrom, hto]
    simp only [slice_front]
    cases slice source (span.lo - base).toNat (span.hi - base).toNat <;> rfl

theorem renderChunks_of_moved {chunks : List Chunk} (h : ∀ span, .source span ∈ chunks → span.Movable base bytes) :
    renderChunks (front ++ source) base (chunks.map (Chunk.moved bytes)) =
      (renderChunks source base chunks).mapError (PatchError.moved bytes) := by
  induction chunks with
  | nil => rfl
  | cons chunk chunks ih =>
    have hchunk : (chunk.moved bytes).render (front ++ source) base =
        (chunk.render source base).mapError (PatchError.moved bytes) := by
      cases chunk with
      | text content => rfl
      | source span =>
        have hspan := byteRange_of_moved source hbytes (h span List.mem_cons_self)
        rw [Chunk.moved, Chunk.render, Chunk.render, hspan]
        cases byteRange source base span with
        | error error => rfl
        | ok range =>
          change Except.ok _ = Except.ok _
          rw [slice_front]
    rw [List.map_cons, renderChunks, renderChunks, hchunk, ih fun span hspan => h span (List.mem_cons_of_mem _ hspan)]
    cases chunk.render source base with
    | error error => rfl
    | ok text => cases renderChunks source base chunks <;> rfl

theorem applyFrom_of_moved {patches : List Patch} (h : ∀ patch ∈ patches, patch.Movable base bytes) (cursor : Nat) :
    applyFrom (front ++ source) base (byteLength front + cursor) (patches.map (Patch.moved bytes)) =
      (applyFrom source base cursor patches).mapError (PatchError.moved bytes) := by
  induction patches generalizing cursor with
  | nil =>
    rw [List.map_nil, applyFrom, applyFrom, byteLength_append, slice_front]
    rfl
  | cons patch patches ih =>
    have hpatch := h patch List.mem_cons_self
    rw [List.map_cons, applyFrom_cons, applyFrom_cons, Patch.moved, byteRange_of_moved source hbytes hpatch.span,
      renderChunks_of_moved source hbytes hpatch.copies]
    cases byteRange source base patch.span with
    | error error => rfl
    | ok range =>
      have hrest := ih (fun p hp => h p (List.mem_cons_of_mem _ hp)) range.2
      simp only [Except.map, mapError_ok, Except.bind, Nat.add_lt_add_iff_left, slice_front, hrest]
      split
      · rfl
      · cases renderChunks source base patch.chunks with
        | error error => rfl
        | ok new => cases applyFrom source base range.2 patches <;> rfl

/-- what is kept before the first patch is kept with the text in front -/
theorem applyFrom_front {patches : List Patch} (h : ∀ patch ∈ patches, patch.Movable base bytes) :
    applyFrom (front ++ source) base 0 (patches.map (Patch.moved bytes)) =
      ((applyFrom source base 0 patches).mapError (PatchError.moved bytes)).map (front ++ ·) := by
  have hstart : ∀ before rest : List Char, slice (before ++ rest) 0 (byteLength before) = some before := by
    intro before rest
    have hslice := slice_append [] before rest
    rwa [List.nil_append, byteLength_nil, Nat.zero_add] at hslice
  cases patches with
  | nil =>
    have hall : ∀ text : List Char, slice text 0 (byteLength text) = some text := fun text => by
      simpa using hstart text []
    rw [List.map_nil, applyFrom, applyFrom, hall, hall]
    rfl
  | cons patch patches =>
    have hpatch := h patch List.mem_cons_self
    rw [List.map_cons, applyFrom_cons, applyFrom_cons, Patch.moved, byteRange_of_moved source hbytes hpatch.span,
      renderChunks_of_moved source hbytes hpatch.copies]
    cases hrange : byteRange source base patch.span with
    | error error => rfl
    | ok range =>
      have hrest := applyFrom_of_moved source hbytes (fun p hp => h p (List.mem_cons_of_mem _ hp)) range.2
      obtain ⟨text, hslice⟩ := slice_of_byteRange hrange
      obtain ⟨before, after, hsource, hbefore, -⟩ := slice_eq_some hslice
      have hkept : slice source 0 range.1 = some before := by
        rw [hsource, ← hbefore, List.append_assoc, hstart]
      have hfront : slice (front ++ source) 0 (byteLength front + range.1) = some (front ++ before) := by
        rw [hsource, ← hbefore, ← byteLength_append, List.append_assoc, ← List.append_assoc front, hstart]
      simp only [Except.map, mapError_ok, Except.bind, Nat.not_lt_zero, if_false, hfront, hkept, Option.getD_some,
        hrest]
      cases renderChunks source base patch.chunks with
      | error error => rfl
      | ok new =>
        cases applyFrom source base range.2 patches with
        | error error => rfl
        | ok back => simp

/-- **Main result.** Patches that are moved along with the source make the same change behind the text in front. -/
theorem applyPatches_moved {patches : List Patch} (h : ∀ patch ∈ patches, patch.Movable base bytes) :
    applyPatches (String.ofList (front ++ source)) base (patches.map (Patch.moved bytes)) =
      ((applyPatches (String.ofList source) base patches).mapError (PatchError.moved bytes)).map
        (String.ofList front ++ ·) := by
  have hsorted : ∀ patch ∈ sortPatches patches, patch.Movable base bytes :=
    fun patch hpatch => h patch (List.mem_mergeSort.1 hpatch)
  rw [applyPatches, applyPatches, String.toList_ofList, String.toList_ofList, sortPatches_moved h,
    applyFrom_front source hbytes hsorted]
  cases applyFrom source base 0 (sortPatches patches) with
  | error error => rfl
  | ok code => simp [Except.map]

end ResourceInliner
