/-
Which lists of patches are applied: those whose spans lie in the source, cut no character and do not overlap. The spans
are any pairs of positions, and the patches come in any order.

- `Span.InSource`, `Patch.InSource`: what is asked of one span, and of one patch.
- `Chain.readable`: patches that are applied can be read. `applied_iff`: the exact condition.
-/
import ResourceInliner.Proofs.Patch.Strict
import ResourceInliner.Proofs.Patch.Turns

namespace ResourceInliner

/-- the span lies in a source whose first byte sits at `base`: its ends are in order, and each of them is between two
characters of the source or at an end of it -/
structure Span.InSource (source : List Char) (base : UInt32) (span : Span) : Prop where
  base_le : base ≤ span.lo
  lo_le : span.lo ≤ span.hi
  lo_boundary : Boundary source base span.lo
  hi_boundary : Boundary source base span.hi

/-- the span of a patch lies in the source, and so does every span that it copies -/
structure Patch.InSource (source : List Char) (base : UInt32) (patch : Patch) : Prop where
  span : patch.span.InSource source base
  copies : ∀ span, .source span ∈ patch.chunks → span.InSource source base

section

variable {source : List Char} {base : UInt32}

theorem Span.inSource_iff {span : Span} : span.InSource source base ↔ span.Readable source base := by
  constructor
  · intro h
    exact readable_of_boundaries (UInt32.le_iff_toNat_le.1 h.lo_le) h.lo_boundary h.hi_boundary
  · intro h
    obtain ⟨hbase, hle, -⟩ := readable_iff.1 h
    exact ⟨hbase, hle, h.boundaries.1, h.boundaries.2⟩

theorem Patch.inSource_iff {patch : Patch} : patch.InSource source base ↔ patch.Readable source base := by
  constructor
  · intro h
    exact ⟨Span.inSource_iff.1 h.span, fun span hspan => Span.inSource_iff.1 (h.copies span hspan)⟩
  · intro h
    exact ⟨Span.inSource_iff.2 h.span, fun span hspan => Span.inSource_iff.2 (h.copies span hspan)⟩

/-- what chunks copy can be read if they have a text -/
theorem readable_of_renderChunks {chunks : List Chunk} {text : List Char}
    (h : renderChunks source base chunks = .ok text) : ∀ span, .source span ∈ chunks → span.Readable source base := by
  induction chunks generalizing text with
  | nil =>
    intro span hspan
    cases hspan
  | cons chunk rest ih =>
    rw [renderChunks] at h
    cases hfront : chunk.render source base with
    | error error => rw [hfront] at h; cases h
    | ok front =>
      cases hback : renderChunks source base rest with
      | error error => rw [hfront, hback] at h; cases h
      | ok back =>
        intro span hspan
        rcases List.mem_cons.1 hspan with rfl | hspan
        · rw [Chunk.render] at hfront
          cases hrange : byteRange source base span with
          | error error => rw [hrange] at hfront; cases hfront
          | ok range =>
            obtain ⟨before, old, after, hcut, hbefore, -, hcovers⟩ := Span.reads_of_byteRange hrange
            exact ⟨old, before, after, hcut, by rw [hbefore]; exact hcovers⟩
        · exact ih hback span hspan

/-- patches that are applied can be read -/
theorem Chain.readable {pos : Nat} {rest out : List Char} {patches : List Patch}
    (h : Chain source base pos rest patches out) {before : List Char} (hsource : source = before ++ rest)
    (hpos : pos = base.toNat + byteLength before) : ∀ patch ∈ patches, patch.Readable source base := by
  induction h generalizing before with
  | done =>
    intro patch hpatch
    cases hpatch
  | @patch pos kept old new rest out patch patches hspan hchunks hrest ih =>
    intro other hother
    rcases List.mem_cons.1 hother with rfl | hother
    · refine ⟨⟨old, before ++ kept, rest, by simp [hsource], ?_⟩, readable_of_renderChunks hchunks⟩
      rw [byteLength_append, ← Nat.add_assoc, ← hpos]
      exact hspan
    · have hcut : source = (before ++ kept ++ old) ++ rest := by simp [hsource]
      refine ih hcut ?_ other hother
      simp only [byteLength_append]
      omega

end

/-- patches that are applied, in source order -/
theorem chain_of_applyPatches {source : String} {base : UInt32} {patches : List Patch} {code : String}
    (h : applyPatches source base patches = .ok code) :
    Chain source.toList base base.toNat source.toList (sortPatches patches) code.toList := by
  rw [applyPatches] at h
  cases happly : applyFrom source.toList base 0 (sortPatches patches) with
  | error error => rw [happly] at h; cases h
  | ok out =>
    rw [happly] at h
    cases h
    rw [String.toList_ofList]
    exact Chain.of_apply (List.nil_append source.toList).symm happly

/-- **Main result.** No subtraction of positions goes below zero and no slice leaves the source or cuts a character; and
the patches are applied exactly if all their spans lie in the source and no two of them overlap. -/
theorem applied_iff (source : String) (base : UInt32) (patches : List Patch) :
    (Strict.applyPatches source base patches).run = some (applyPatches source base patches) ∧
      ((∃ code, applyPatches source base patches = .ok code) ↔
        (∀ patch ∈ patches, patch.InSource source.toList base) ∧
          patches.Pairwise fun a b => ¬ (a.span.lo < b.span.hi ∧ b.span.lo < a.span.hi)) := by
  refine ⟨Strict.run_applyPatches source base patches, ?_⟩
  simp only [Patch.inSource_iff, ← Span.apart_iff]
  constructor
  · rintro ⟨code, hcode⟩
    have hchain := chain_of_applyPatches hcode
    have hperm : (sortPatches patches).Perm patches := List.mergeSort_perm _ _
    have hread := hchain.readable (List.nil_append _).symm rfl
    have hapart : (sortPatches patches).Pairwise fun a b => a.span.Apart b.span := hchain.ordered.imp .inl
    refine ⟨fun patch hpatch => hread patch (hperm.mem_iff.2 hpatch), ?_⟩
    exact (hperm.pairwise_iff fun h => h.symm).1 hapart
  · rintro ⟨hread, hapart⟩
    exact applyPatches_of_apart hread hapart

end ResourceInliner
