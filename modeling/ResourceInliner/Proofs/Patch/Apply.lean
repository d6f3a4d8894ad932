/-
What applying patches does. A chain pairs patches in source order with the text they turn the source into, one patch and
the text kept before it at a time.

- `Chain.apply`: applying patches in the order of a chain gives its text. `Chain.of_apply`: patches that are applied have
  a chain.
- `applyPatches_of_chain`: in whatever order they are given, if no two of them have the same span.
- `applyPatches_of_apart`: patches that can be read and do not overlap are applied, that is, they have a chain.
-/
import ResourceInliner.Proofs.Text.Slice

namespace ResourceInliner

/-- patches in source order turn `rest`, which stands at position `pos`, into another text -/
inductive Chain (source : List Char) (base : UInt32) : Nat → List Char → List Patch → List Char → Prop where
  | done (pos : Nat) (rest : List Char) : Chain source base pos rest [] rest
  | patch {pos : Nat} {kept old new rest out : List Char} {patch : Patch} {patches : List Patch}
    (hspan : patch.span.Covers (pos + byteLength kept) old)
    (hchunks : renderChunks source base patch.chunks = .ok new)
    (hrest : Chain source base (pos + byteLength kept + byteLength old) rest patches out) :
    Chain source base pos (kept ++ old ++ rest) (patch :: patches) (kept ++ new ++ out)

section

variable {source : List Char} {base : UInt32}

theorem slice_of_byteRange {span : Span} {range : Nat × Nat} (h : byteRange source base span = .ok range) :
    ∃ text, slice source range.1 range.2 = some text := by
  rw [byteRange] at h
  split at h
  · cases h
  · simp only at h
    split at h
    · rename_i text hslice
      obtain rfl := Except.ok.inj h
      exact ⟨text, hslice⟩
    · cases h

/-- a byte range of a source is the place of a text in it -/
theorem Span.reads_of_byteRange {span : Span} {lo hi : Nat} (h : byteRange source base span = .ok (lo, hi)) :
    ∃ before old after, source = before ++ old ++ after ∧ byteLength before = lo ∧ lo + byteLength old = hi ∧
      span.Covers (base.toNat + lo) old := by
  obtain ⟨old, hold : slice source lo hi = some old⟩ := slice_of_byteRange h
  obtain ⟨before, after, hcut, hbefore, hend⟩ := slice_eq_some hold
  refine ⟨before, old, after, hcut, hbefore, hend, ?_⟩
  unfold byteRange at h
  split at h
  · cases h
  · rename_i hin
    have hlo : base ≤ span.lo := UInt32.not_lt.1 fun h => hin (.inl h)
    have hhi : base ≤ span.hi := UInt32.le_trans hlo (UInt32.not_lt.1 fun h => hin (.inr h))
    dsimp only at h
    split at h
    · simp only [Except.ok.injEq, Prod.mk.injEq, UInt32.toNat_sub_of_le _ _ hlo, UInt32.toNat_sub_of_le _ _ hhi] at h
      rw [UInt32.le_iff_toNat_le] at hlo hhi
      unfold Covers
      omega
    · cases h

theorem applyFrom_cons (cursor : Nat) (patch : Patch) (patches : List Patch) :
    applyFrom source base cursor (patch :: patches) =
      (byteRange source base patch.span).bind fun (lo, hi) =>
        if lo < cursor then .error ⟨patch.span, .overlap⟩
        else (renderChunks source base patch.chunks).bind fun new =>
          (applyFrom source base hi patches).map fun back => (slice source cursor lo).getD [] ++ new ++ back := by
  rw [applyFrom]
  cases byteRange source base patch.span with
  | error error => rfl
  | ok range =>
    simp only [bind, Except.bind]
    split
    · rfl
    · cases renderChunks source base patch.chunks with
      | error error => rfl
      | ok new => cases applyFrom source base range.2 patches <;> rfl

theorem Chain.apply {pos : Nat} {rest out : List Char} {patches : List Patch}
    (h : Chain source base pos rest patches out) {before : List Char} (hsource : source = before ++ rest)
    (hpos : pos = base.toNat + byteLength before) : applyFrom source base (byteLength before) patches = .ok out := by
  induction h generalizing before with
  | done pos rest => rw [applyFrom, hsource, slice_to_end, Option.getD_some]
  | @patch pos kept old new rest out patch patches hspan hchunks hrest ih =>
    have hreads : patch.span.Reads source base old := by
      refine ⟨before ++ kept, rest, by simp [hsource], ?_⟩
      rw [byteLength_append, ← Nat.add_assoc, ← hpos]
      exact hspan
    have hlo : patch.span.lo.toNat - base.toNat = byteLength before + byteLength kept := by
      have := hspan.1
      omega
    have hhi : patch.span.hi.toNat - base.toNat = byteLength (before ++ kept ++ old) := by
      have := hspan.2
      rw [byteLength_append, byteLength_append]
      omega
    have hkept : slice source (byteLength before) (byteLength before + byteLength kept) = some kept := by
      have := slice_append before kept (old ++ rest)
      rwa [← List.append_assoc, List.append_assoc before, List.append_assoc before, ← hsource] at this
    have hbefore : source = (before ++ kept ++ old) ++ rest := by simp [hsource]
    have hafter := ih hbefore (by rw [byteLength_append, byteLength_append]; omega)
    rw [applyFrom, hreads.byteRange.1, hlo, hhi]
    simp only [bind, Except.bind, pure, Except.pure, hkept, hchunks, hafter, Option.getD_some]
    rw [if_neg (by omega)]

/-- patches that are applied have a chain -/
theorem Chain.of_apply {patches : List Patch} {before rest out : List Char} (hsource : source = before ++ rest)
    (h : applyFrom source base (byteLength before) patches = .ok out) :
    Chain source base (base.toNat + byteLength before) rest patches out := by
  induction patches generalizing before rest out with
  | nil =>
    rw [applyFrom, hsource, slice_to_end] at h
    cases h
    exact .done _ _
  | cons patch patches ih =>
    rw [applyFrom_cons] at h
    cases hrange : byteRange source base patch.span with
    | error error => rw [hrange] at h; cases h
    | ok range =>
      obtain ⟨lo, hi⟩ := range
      simp only [hrange, Except.bind] at h
      split at h
      · cases h
      · rename_i hle
        cases hnew : renderChunks source base patch.chunks with
        | error error => rw [hnew] at h; cases h
        | ok new =>
          obtain ⟨front, old, after, hcut, hfront, hend, hcovers⟩ := Span.reads_of_byteRange hrange
          have hsplit : before ++ rest = front ++ (old ++ after) := by rw [← hsource, hcut, List.append_assoc]
          obtain ⟨kept, rfl, rfl⟩ := append_eq_append_of_le hsplit (by omega)
          have hnext : hi = byteLength (before ++ kept ++ old) := by rw [byteLength_append, hfront, hend]
          have hgap : slice source (byteLength before) lo = some kept := by
            rw [hcut, ← hfront, byteLength_append, List.append_assoc (before ++ kept), slice_append]
          cases hback : applyFrom source base hi patches with
          | error error => simp only [hnew, hback] at h; cases h
          | ok back =>
            simp only [hnew, hback, hgap, Option.getD_some, Except.map, Except.ok.injEq] at h
            subst h
            rw [hnext] at hback
            have hrest := ih hcut hback
            rw [← hfront, byteLength_append, ← Nat.add_assoc] at hcovers
            rw [byteLength_append, byteLength_append, ← Nat.add_assoc, ← Nat.add_assoc] at hrest
            rw [← List.append_assoc]
            exact .patch hcovers hnew hrest

/-- the chain of a whole source -/
theorem Chain.apply_all {out : List Char} {patches : List Patch} (h : Chain source base base.toNat source patches out) :
    applyFrom source base 0 patches = .ok out := by
  have happly := h.apply (List.nil_append _).symm rfl
  rwa [byteLength_nil] at happly

end

/-! ## The order of patches -/

theorem Span.le_iff {a b : Span} :
    a.le b = true ↔ a.lo.toNat < b.lo.toNat ∨ a.lo.toNat = b.lo.toNat ∧ a.hi.toNat ≤ b.hi.toNat := by
  rw [Span.le, Bool.or_eq_true, Bool.and_eq_true, decide_eq_true_iff, decide_eq_true_iff, beq_iff_eq,
    UInt32.lt_iff_toNat_lt, UInt32.le_iff_toNat_le, UInt32.toNat_inj]

theorem Span.le_refl (span : Span) : span.le span = true :=
  Span.le_iff.2 (.inr ⟨rfl, Nat.le_refl _⟩)

theorem Span.le_trans (a b c : Span) (hab : a.le b = true) (hbc : b.le c = true) : a.le c = true := by
  rw [Span.le_iff] at *
  omega

theorem Span.le_total (a b : Span) : (a.le b || b.le a) = true := by
  rw [Bool.or_eq_true, Span.le_iff, Span.le_iff]
  omega

theorem sortPatches_pairwise (patches : List Patch) : (sortPatches patches).Pairwise fun a b => a.span.le b.span :=
  List.pairwise_mergeSort (fun a b c => Span.le_trans a.span b.span c.span) (fun a b => Span.le_total a.span b.span)
    patches

theorem Span.le_antisymm {a b : Span} (hab : a.le b = true) (hba : b.le a = true) : a = b := by
  rw [Span.le_iff] at hab hba
  have hlo : a.lo = b.lo := UInt32.toNat_inj.1 (by omega)
  have hhi : a.hi = b.hi := UInt32.toNat_inj.1 (by omega)
  rcases a with ⟨lo, hi⟩
  rw [Span.mk.injEq]
  exact ⟨hlo, hhi⟩

/-- patches with different spans are applied in source order, in whatever order they are given -/
theorem applyPatches_of_chain {source : String} {base : UInt32} {patches sorted : List Patch} {out : List Char}
    (hperm : patches.Perm sorted) (hsorted : sorted.Pairwise fun a b => a.span.le b.span)
    (hdistinct : ∀ a ∈ patches, ∀ b ∈ patches, a.span = b.span → a = b)
    (hchain : Chain source.toList base base.toNat source.toList sorted out) :
    applyPatches source base patches = .ok (String.ofList out) := by
  have horder : sortPatches patches = sorted := by
    refine ((List.mergeSort_perm patches _).trans hperm).eq_of_pairwise ?_ (sortPatches_pairwise patches) hsorted
    intro a b ha hb hab hba
    exact hdistinct a (List.mem_mergeSort.1 ha) b (hperm.mem_iff.2 hb) (Span.le_antisymm hab hba)
  rw [applyPatches, horder, hchain.apply_all]
  rfl

/-! ## Patches that do not overlap -/

/-- the patch can be read: its span, and the source that it copies -/
structure Patch.Readable (source : List Char) (base : UInt32) (patch : Patch) : Prop where
  span : patch.span.Readable source base
  copies : ∀ span, .source span ∈ patch.chunks → span.Readable source base

section

variable {source : List Char} {base : UInt32}

theorem renderChunks_of_readable {chunks : List Chunk}
    (h : ∀ span, .source span ∈ chunks → span.Readable source base) :
    ∃ text, renderChunks source base chunks = .ok text := by
  induction chunks with
  | nil => exact ⟨[], rfl⟩
  | cons chunk rest ih =>
    obtain ⟨back, hback⟩ := ih fun span hspan => h span (List.mem_cons_of_mem _ hspan)
    obtain ⟨front, hfront⟩ : ∃ front, chunk.render source base = .ok front := by
      cases chunk with
      | text content => exact ⟨_, rfl⟩
      | source span =>
        obtain ⟨text, hreads⟩ := h span List.mem_cons_self
        exact ⟨text, hreads.render⟩
    rw [renderChunks, hfront, hback]
    exact ⟨_, rfl⟩

/-- patches in source order that can be read have a chain -/
theorem exists_chain {patches : List Patch} (hread : ∀ patch ∈ patches, patch.Readable source base)
    (hordered : patches.Pairwise fun a b => a.span.hi.toNat ≤ b.span.lo.toNat) {before rest : List Char}
    (hsource : source = before ++ rest)
    (hfrom : ∀ patch ∈ patches, base.toNat + byteLength before ≤ patch.span.lo.toNat) :
    ∃ out, Chain source base (base.toNat + byteLength before) rest patches out := by
  induction patches generalizing before rest with
  | nil => exact ⟨rest, .done _ _⟩
  | cons patch patches ih =>
    obtain ⟨hfirst, hlater⟩ := List.pairwise_cons.1 hordered
    obtain ⟨⟨old, front, back, hcut, hlo, hhi⟩, hcopies⟩ := hread patch List.mem_cons_self
    obtain ⟨new, hnew⟩ := renderChunks_of_readable hcopies
    have hstart := hfrom patch List.mem_cons_self
    rw [hcut, List.append_assoc] at hsource
    obtain ⟨kept, rfl, rfl⟩ := append_eq_append_of_le hsource.symm (by omega)
    rw [byteLength_append] at hlo hhi
    have hbefore : base.toNat + byteLength before + byteLength kept + byteLength old =
        base.toNat + byteLength (before ++ kept ++ old) := by
      rw [byteLength_append, byteLength_append]
      omega
    obtain ⟨out, hout⟩ := ih (fun p hp => hread p (List.mem_cons_of_mem _ hp)) hlater hcut fun p hp => by
      have := hfirst p hp
      rw [byteLength_append, byteLength_append]
      omega
    rw [← hbefore] at hout
    rw [← List.append_assoc]
    exact ⟨kept ++ new ++ out, .patch ⟨by omega, by omega⟩ hnew hout⟩

end

/-- **Main result.** Patches that can be read and do not overlap are applied. -/
theorem applyPatches_of_apart {source : String} {base : UInt32} {patches : List Patch}
    (hread : ∀ patch ∈ patches, patch.Readable source.toList base)
    (hapart : patches.Pairwise fun a b => a.span.Apart b.span) :
    ∃ code, applyPatches source base patches = .ok code := by
  have hperm : (sortPatches patches).Perm patches := List.mergeSort_perm _ _
  have hread' : ∀ patch ∈ sortPatches patches, patch.Readable source.toList base :=
    fun patch hpatch => hread patch (hperm.mem_iff.1 hpatch)
  have hapart' : (sortPatches patches).Pairwise fun a b => a.span.Apart b.span :=
    (hperm.pairwise_iff fun h => h.symm).2 hapart
  have hordered : (sortPatches patches).Pairwise fun a b => a.span.hi.toNat ≤ b.span.lo.toNat := by
    refine ((sortPatches_pairwise patches).and hapart').imp_of_mem fun ha hb ⟨hle, hapart⟩ => ?_
    have := (hread' _ ha).span.le
    have := (hread' _ hb).span.le
    rw [Span.le_iff] at hle
    rw [Span.Apart, Span.before_iff, Span.before_iff] at hapart
    omega
  obtain ⟨out, hchain⟩ := exists_chain hread' hordered (List.nil_append _).symm fun patch hpatch => by
    obtain ⟨text, before, after, -, hlo, -⟩ := (hread' patch hpatch).span
    rw [byteLength_nil]
    omega
  exact ⟨String.ofList out, by rw [applyPatches, hchain.apply_all]; rfl⟩

end ResourceInliner
