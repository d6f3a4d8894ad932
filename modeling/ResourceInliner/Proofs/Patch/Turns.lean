/-
What patches turn one text into, part by part. The patches for two texts that follow each other make up the patches for
both, in whatever order they are listed.

- `Turns`: patches turn a text that stands at a position into another one.
- `Turns.apply`: if they turn a whole source into a text and put text in at one place at most, applying them gives this
  text.
-/
import Mathlib.Data.List.Pairwise
import ResourceInliner.Proofs.Patch.Apply

namespace ResourceInliner

/-- Patches turn the text `old`, which stands at a position, into `new`. Those that replace text are listed before those
that only put text in. -/
inductive Turns (source : List Char) (base : UInt32) :
    Nat → List Patch → List Patch → List Char → List Char → Prop where
  | keep {pos : Nat} (text : List Char) : Turns source base pos [] [] text text
  | replace {pos : Nat} {patch : Patch} {old new : List Char} (hspan : patch.span.Covers pos old) (hold : old ≠ [])
    (hchunks : renderChunks source base patch.chunks = .ok new) : Turns source base pos [patch] [] old new
  | insert {pos : Nat} {patch : Patch} {new : List Char} (hspan : patch.span.Covers pos [])
    (hchunks : renderChunks source base patch.chunks = .ok new) : Turns source base pos [] [patch] [] new
  | append {pos : Nat} {r i r' i' : List Patch} {old new old' new' : List Char}
    (hleft : Turns source base pos r i old new) (hright : Turns source base (pos + byteLength old) r' i' old' new') :
    Turns source base pos (r ++ r') (i ++ i') (old ++ old') (new ++ new')
  | perm {pos : Nat} {r i r' i' : List Patch} {old new : List Char} (h : Turns source base pos r i old new)
    (hr : r.Perm r') (hi : i.Perm i') : Turns source base pos r' i' old new

section

variable {source : List Char} {base : UInt32}

/-! ## Chains -/

/-- text that is kept before a chain is part of it -/
theorem Chain.keep {pos : Nat} {kept rest out : List Char} {patches : List Patch}
    (h : Chain source base (pos + byteLength kept) rest patches out) :
    Chain source base pos (kept ++ rest) patches (kept ++ out) := by
  cases h with
  | done => exact .done _ _
  | @patch _ kept' old new rest out patch patches hspan hchunks hrest =>
    have hpos : pos + byteLength kept + byteLength kept' = pos + byteLength (kept ++ kept') := by
      rw [byteLength_append]
      omega
    rw [hpos] at hspan hrest
    have := Chain.patch hspan hchunks hrest
    simpa only [List.append_assoc] using this

theorem Chain.append {pos : Nat} {a b x y : List Char} {patches patches' : List Patch}
    (hleft : Chain source base pos a patches x) (hright : Chain source base (pos + byteLength a) b patches' y) :
    Chain source base pos (a ++ b) (patches ++ patches') (x ++ y) := by
  induction hleft with
  | done pos rest => exact hright.keep
  | @patch pos kept old new rest out patch patches hspan hchunks hrest ih =>
    have hpos : pos + byteLength (kept ++ old ++ rest) = pos + byteLength kept + byteLength old + byteLength rest := by
      rw [byteLength_append, byteLength_append]
      omega
    rw [hpos] at hright
    have := Chain.patch hspan hchunks (ih hright)
    simpa only [List.append_assoc, List.cons_append] using this

/-- the patches of a chain lie in its text -/
theorem Chain.inside {pos : Nat} {rest out : List Char} {patches : List Patch}
    (h : Chain source base pos rest patches out) : ∀ patch ∈ patches, pos ≤ patch.span.lo.toNat ∧
      patch.span.lo.toNat ≤ patch.span.hi.toNat ∧ patch.span.hi.toNat ≤ pos + byteLength rest := by
  induction h with
  | done => simp
  | @patch pos kept old new rest out patch patches hspan hchunks hrest ih =>
    obtain ⟨hlo, hhi⟩ := hspan
    intro other hother
    rw [byteLength_append, byteLength_append]
    rcases List.mem_cons.1 hother with rfl | hother
    · omega
    · have := ih other hother
      omega

/-- and follow each other -/
theorem Chain.ordered {pos : Nat} {rest out : List Char} {patches : List Patch}
    (h : Chain source base pos rest patches out) : patches.Pairwise fun a b => a.span.Before b.span := by
  induction h with
  | done => exact .nil
  | @patch pos kept old new rest out patch patches hspan hchunks hrest ih =>
    refine List.pairwise_cons.2 ⟨fun other hother => ?_, ih⟩
    have := hrest.inside other hother
    have := hspan.2
    rw [Span.before_iff]
    omega

theorem Chain.sorted {pos : Nat} {rest out : List Char} {patches : List Patch}
    (h : Chain source base pos rest patches out) : patches.Pairwise fun a b => a.span.le b.span := by
  refine h.ordered.imp_of_mem fun {a b} ha hb hab => ?_
  have := h.inside a ha
  have := h.inside b hb
  rw [Span.before_iff] at hab
  rw [Span.le_iff]
  omega

theorem Chain.single {pos : Nat} {patch : Patch} {old new : List Char} (hspan : patch.span.Covers pos old)
    (hchunks : renderChunks source base patch.chunks = .ok new) : Chain source base pos old [patch] new := by
  have h : Chain source base pos ([] ++ old ++ []) [patch] ([] ++ new ++ []) := .patch hspan hchunks (.done _ _)
  simpa using h

/-! ## From parts to the whole -/

theorem Turns.chain {pos : Nat} {r i : List Patch} {old new : List Char} (h : Turns source base pos r i old new) :
    ∃ sorted, (r ++ i).Perm sorted ∧ Chain source base pos old sorted new := by
  induction h with
  | keep text => exact ⟨[], .refl _, .done _ _⟩
  | replace hspan hold hchunks => exact ⟨_, .refl _, .single hspan hchunks⟩
  | insert hspan hchunks => exact ⟨_, .refl _, .single hspan hchunks⟩
  | @append pos r i r' i' old new old' new' hleft hright ihleft ihright =>
    obtain ⟨a, ha, hchain⟩ := ihleft
    obtain ⟨b, hb, hchain'⟩ := ihright
    refine ⟨a ++ b, ?_, hchain.append hchain'⟩
    refine List.Perm.trans ?_ (ha.append hb)
    rw [List.append_assoc, List.append_assoc]
    exact List.Perm.append_left r (List.perm_append_comm_assoc ..)
  | perm h hr hi ih =>
    obtain ⟨sorted, hperm, hchain⟩ := ih
    exact ⟨sorted, (hr.append hi).symm.trans hperm, hchain⟩

/-- patches that replace text have a text to replace -/
theorem Turns.replaced_ne {pos : Nat} {r i : List Patch} {old new : List Char} (h : Turns source base pos r i old new) :
    ∀ patch ∈ r, patch.span.lo.toNat < patch.span.hi.toNat := by
  induction h with
  | keep => simp
  | insert => simp
  | @replace pos patch old new hspan hold hchunks =>
    intro other hother
    rw [List.mem_singleton] at hother
    have hlength : byteLength old ≠ 0 := fun hzero => hold (byteLength_eq_zero hzero)
    have := hspan.1
    have := hspan.2
    rw [hother]
    omega
  | append hleft hright ihleft ihright =>
    intro patch hpatch
    exact (List.mem_append.1 hpatch).elim (ihleft patch) (ihright patch)
  | perm h hr hi ih => exact fun patch hpatch => ih patch (hr.mem_iff.2 hpatch)

end

/-- **Main result.** -/
theorem Turns.apply {source : String} {base : UInt32} {r i patches : List Patch} {new : List Char}
    (h : Turns source.toList base base.toNat r i source.toList new) (hsingle : i.length ≤ 1)
    (hperm : patches.Perm (r ++ i)) : applyPatches source base patches = .ok (String.ofList new) := by
  obtain ⟨sorted, hsorted, hchain⟩ := h.chain
  refine applyPatches_of_chain (hperm.trans hsorted) hchain.sorted (fun a ha b hb hab => ?_) hchain
  by_contra hne
  have hapart : sorted.Pairwise fun a b => a.span.Apart b.span := hchain.ordered.imp .inl
  have : Std.Symm fun a b : Patch => a.span.Apart b.span := ⟨fun _ _ h => h.symm⟩
  have hbetween := hapart.forall ((hperm.trans hsorted).mem_iff.1 ha) ((hperm.trans hsorted).mem_iff.1 hb) hne
  -- equal spans that do not overlap are empty, so both patches put text in
  have hempty : a.span.hi.toNat ≤ a.span.lo.toNat := by
    rw [← hab, Span.Apart, or_self, Span.before_iff] at hbetween
    exact hbetween
  have hinserted : ∀ patch ∈ patches, patch.span = a.span → patch ∈ i := by
    intro patch hpatch hspan
    refine (List.mem_append.1 (hperm.mem_iff.1 hpatch)).resolve_left fun hr => ?_
    have := h.replaced_ne patch hr
    rw [hspan] at this
    omega
  have hai := hinserted a ha rfl
  have hbi := hinserted b hb hab.symm
  cases i with
  | nil => cases hai
  | cons only others =>
    have hothers : others = [] := List.eq_nil_of_length_eq_zero (by simpa using hsingle)
    rw [hothers, List.mem_singleton] at hai hbi
    exact hne (hai.trans hbi.symm)

end ResourceInliner
