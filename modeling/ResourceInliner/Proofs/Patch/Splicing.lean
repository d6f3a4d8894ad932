/-
Patches applied one at a time. Taken from the end of the source to its start, each patch can be spliced into the text
built so far at its place in the source, because nothing before that place has changed yet.

- `Reordered`: the same patches in another order; those with the same span keep theirs. `sortPatches_reordered`: the order
  they are given in does not matter otherwise.
- `FromTheEnd`: the order from the last place to the first. `Patch.splice`, `spliceAll`: one patch, and one after another.
- `uncovered`: the source outside all spans.
- `applied_by_splicing`: applying patches is splicing them in; the rest of the source is kept.
-/
import ResourceInliner.Proofs.Patch.Accepted

namespace ResourceInliner

/-! ## The order of patches -/

/-- the same patches in another order; patches with the same span come in the same order among themselves -/
def Reordered (patches other : List Patch) : Prop :=
  ∀ span, other.filter (fun patch => patch.span = span) = patches.filter (fun patch => patch.span = span)

theorem Reordered.mem_iff {patches other : List Patch} (h : Reordered patches other) {patch : Patch} :
    patch ∈ other ↔ patch ∈ patches := by
  have hmem : ∀ list : List Patch, patch ∈ list ↔ patch ∈ list.filter (fun p => p.span = patch.span) := by
    intro list
    simp [List.mem_filter]
  rw [hmem other, hmem patches, h patch.span]

/-- neighbours with different spans can change places -/
theorem reordered_swap {a b : Patch} (h : a.span ≠ b.span) (before after : List Patch) :
    Reordered (before ++ a :: b :: after) (before ++ b :: a :: after) := by
  intro span
  rw [List.filter_append, List.filter_append]
  congr 1
  by_cases ha : a.span = span
  · have hb : b.span ≠ span := fun hb => h (ha.trans hb.symm)
    simp [ha, hb]
  · simp [List.filter_cons, ha]

/-- sorting moves no patch past another one with the same span -/
theorem reordered_sortPatches (patches : List Patch) : Reordered patches (sortPatches patches) := by
  intro span
  have hequal : (patches.filter fun patch => patch.span = span).Pairwise fun a b => a.span.le b.span := by
    refine List.pairwise_of_forall_mem_list fun a ha b hb => ?_
    have haspan : a.span = span := by simpa using (List.mem_filter.1 ha).2
    have hbspan : b.span = span := by simpa using (List.mem_filter.1 hb).2
    rw [haspan, hbspan, Span.le_refl]
  have hkept : (patches.filter fun patch => patch.span = span).Sublist (sortPatches patches) :=
    List.sublist_mergeSort (fun a b c => Span.le_trans a.span b.span c.span)
      (fun a b => Span.le_total a.span b.span) hequal List.filter_sublist
  have hsublist := hkept.filter fun patch => patch.span = span
  simp only [List.filter_filter, Bool.and_self] at hsublist
  have hlength := ((List.mergeSort_perm patches fun a b => a.span.le b.span).filter fun patch => patch.span = span).length_eq
  exact (hsublist.eq_of_length hlength.symm).symm

/-- patches in source order are determined by those with the same span -/
theorem eq_of_reordered {a b : List Patch} (ha : a.Pairwise fun p q => p.span.le q.span)
    (hb : b.Pairwise fun p q => p.span.le q.span) (h : Reordered a b) : a = b := by
  induction a generalizing b with
  | nil =>
    refine (List.eq_nil_iff_forall_not_mem.2 fun patch hpatch => ?_).symm
    cases h.mem_iff.1 hpatch
  | cons p a ih =>
    cases b with
    | nil => cases h.mem_iff.2 List.mem_cons_self
    | cons q b =>
      obtain ⟨hp, harest⟩ := List.pairwise_cons.1 ha
      obtain ⟨hq, hbrest⟩ := List.pairwise_cons.1 hb
      have hspan : p.span = q.span := by
        refine Span.le_antisymm ?_ ?_
        · rcases List.mem_cons.1 (h.mem_iff.1 List.mem_cons_self) with hqp | hqa
          · rw [hqp, Span.le_refl]
          · exact hp q hqa
        · rcases List.mem_cons.1 (h.mem_iff.2 List.mem_cons_self) with hpq | hpb
          · rw [hpq, Span.le_refl]
          · exact hq p hpb
      have hfirst := h q.span
      simp only [List.filter_cons, hspan, decide_true, if_true, List.cons.injEq] at hfirst
      obtain ⟨rfl, -⟩ := hfirst
      have hrest : Reordered a b := by
        intro span
        have hall := h span
        simp only [List.filter_cons] at hall
        split at hall
        · exact (List.cons.inj hall).2
        · exact hall
      rw [ih harest hbrest hrest]

theorem sortPatches_reordered {patches other : List Patch} (h : Reordered patches other) :
    sortPatches other = sortPatches patches := by
  refine (eq_of_reordered (sortPatches_pairwise patches) (sortPatches_pairwise other) fun span => ?_).symm
  rw [reordered_sortPatches other span, h span, reordered_sortPatches patches span]

/-- the patches from the last place in the source to the first one; of patches with the same span, the one that was given
last comes first -/
structure FromTheEnd (patches order : List Patch) : Prop where
  descending : order.Pairwise fun a b => b.span.le a.span
  reordered : Reordered patches order.reverse

theorem fromTheEnd_iff {patches order : List Patch} :
    FromTheEnd patches order ↔ order = (sortPatches patches).reverse := by
  constructor
  · intro h
    have hsorted : order.reverse.Pairwise fun a b => a.span.le b.span := List.pairwise_reverse.2 h.descending
    have hsame : sortPatches patches = order.reverse := by
      refine eq_of_reordered (sortPatches_pairwise patches) hsorted fun span => ?_
      rw [h.reordered span, reordered_sortPatches patches span]
    rw [hsame, List.reverse_reverse]
  · rintro rfl
    refine ⟨List.pairwise_reverse.2 (sortPatches_pairwise patches), ?_⟩
    rw [List.reverse_reverse]
    exact reordered_sortPatches patches

/-! ## One patch at a time -/

/-- the text with a patch spliced in at its place in the source; what the patch copies is read from the source itself -/
def Patch.splice (source : List Char) (base : UInt32) (text : List Char) (patch : Patch) : Option (List Char) := do
  let new ← (renderChunks source base patch.chunks).toOption
  let (before, _) ← splitAtByte text (patch.span.lo.toNat - base.toNat)
  let (_, after) ← splitAtByte text (patch.span.hi.toNat - base.toNat)
  return before ++ new ++ after

/-- patches spliced into a text one after another -/
def spliceAll (source : List Char) (base : UInt32) (order : List Patch) (text : List Char) : Option (List Char) :=
  order.foldlM (Patch.splice source base) text

section

variable {source : List Char} {base : UInt32}

theorem Patch.splice_between {patch : Patch} {before old new : List Char} (after : List Char)
    (hspan : patch.span.Covers (base.toNat + byteLength before) old)
    (hchunks : renderChunks source base patch.chunks = .ok new) :
    patch.splice source base (before ++ old ++ after) = some (before ++ new ++ after) := by
  have hlo : patch.span.lo.toNat - base.toNat = byteLength before := by
    have := hspan.1
    omega
  have hhi : patch.span.hi.toNat - base.toNat = byteLength (before ++ old) := by
    have := hspan.2
    rw [byteLength_append]
    omega
  have hfront : splitAtByte (before ++ old ++ after) (byteLength before) = some (before, old ++ after) := by
    rw [List.append_assoc, splitAtByte_append_left]
  rw [Patch.splice, hchunks, hlo, hhi, hfront, splitAtByte_append_left]
  rfl

/-- from the last patch to the first, each finds its place as it was in the source -/
theorem Chain.spliceAll {pos : Nat} {rest out : List Char} {patches : List Patch}
    (h : Chain source base pos rest patches out) {before : List Char} (hpos : pos = base.toNat + byteLength before) :
    spliceAll source base patches.reverse (before ++ rest) = some (before ++ out) := by
  induction h generalizing before with
  | done => rfl
  | @patch pos kept old new rest out patch patches hspan hchunks hrest ih =>
    have hlater : ResourceInliner.spliceAll source base patches.reverse (before ++ kept ++ old ++ rest) =
        some (before ++ kept ++ old ++ out) := ih (by simp only [byteLength_append]; omega)
    have hplace : patch.span.Covers (base.toNat + byteLength (before ++ kept)) old := by
      rw [byteLength_append, ← Nat.add_assoc, ← hpos]
      exact hspan
    have hfirst := Patch.splice_between out hplace hchunks
    unfold ResourceInliner.spliceAll at hlater ⊢
    simp only [List.append_assoc] at hlater hfirst ⊢
    rw [List.reverse_cons, List.foldlM_append, hlater]
    simp [hfirst]

end

/-! ## What is kept -/

/-- does the span hold the byte at a position? -/
def Span.holds (span : Span) (position : Nat) : Bool :=
  span.lo.toNat ≤ position && position < span.hi.toNat

/-- the characters of a text, which stands at a position, that no span holds; spans that cut no character hold all of it or
nothing -/
def uncovered (spans : List Span) : Nat → List Char → List Char
  | _, [] => []
  | position, c :: rest =>
    if spans.any (·.holds position) then uncovered spans (position + c.utf8Size) rest
    else c :: uncovered spans (position + c.utf8Size) rest

theorem Span.holds_iff {span : Span} {position : Nat} :
    span.holds position = true ↔ span.lo.toNat ≤ position ∧ position < span.hi.toNat := by
  simp [Span.holds]

theorem uncovered_append (spans : List Span) (pos : Nat) (a b : List Char) :
    uncovered spans pos (a ++ b) = uncovered spans pos a ++ uncovered spans (pos + byteLength a) b := by
  induction a generalizing pos with
  | nil => rfl
  | cons c a ih =>
    simp only [List.cons_append, uncovered, ih, byteLength_cons, ← Nat.add_assoc]
    split <;> rfl

theorem uncovered_eq_self {spans : List Span} {pos : Nat} {text : List Char}
    (h : ∀ span ∈ spans, pos + byteLength text ≤ span.lo.toNat) : uncovered spans pos text = text := by
  induction text generalizing pos with
  | nil => rfl
  | cons c text ih =>
    have hfree : spans.any (·.holds pos) = false := by
      rw [List.any_eq_false]
      intro span hspan hholds
      have := h span hspan
      have := c.utf8Size_pos
      rw [Span.holds_iff] at hholds
      rw [byteLength_cons] at *
      omega
    have hrest : ∀ span ∈ spans, pos + c.utf8Size + byteLength text ≤ span.lo.toNat := by
      intro span hspan
      have := h span hspan
      rw [byteLength_cons] at this
      omega
    rw [uncovered, hfree, ih hrest]
    rfl

theorem uncovered_eq_nil {spans : List Span} {span : Span} (hspan : span ∈ spans) {pos : Nat} {text : List Char}
    (hlo : span.lo.toNat ≤ pos) (hhi : pos + byteLength text ≤ span.hi.toNat) : uncovered spans pos text = [] := by
  induction text generalizing pos with
  | nil => rfl
  | cons c text ih =>
    have := c.utf8Size_pos
    rw [byteLength_cons] at hhi
    have hheld : spans.any (·.holds pos) = true :=
      List.any_eq_true.2 ⟨span, hspan, Span.holds_iff.2 ⟨hlo, by omega⟩⟩
    rw [uncovered, hheld]
    exact ih (by omega) (by omega)

theorem uncovered_congr {a b : List Span} {pos : Nat}
    (h : ∀ position, pos ≤ position → a.any (·.holds position) = b.any (·.holds position)) (text : List Char) :
    uncovered a pos text = uncovered b pos text := by
  induction text generalizing pos with
  | nil => rfl
  | cons c text ih =>
    have hrest : uncovered a (pos + c.utf8Size) text = uncovered b (pos + c.utf8Size) text :=
      ih fun position hposition => h position (by omega)
    rw [uncovered, uncovered, h pos (Nat.le_refl _), hrest]

/-- the text that patches make, piece by piece: what is kept before each patch with the text of the patch, and what is
kept behind the last one -/
theorem Chain.pieces {source : List Char} {base : UInt32} {pos : Nat} {rest out : List Char} {patches : List Patch}
    (h : Chain source base pos rest patches out) :
    ∃ (pieces : List (List Char × List Char)) (last : List Char),
      uncovered (patches.map Patch.span) pos rest = pieces.flatMap Prod.fst ++ last ∧
      out = pieces.flatMap (fun (kept, new) => kept ++ new) ++ last ∧
      List.Forall₂ (fun patch piece => renderChunks source base patch.chunks = .ok piece.2) patches pieces := by
  induction h with
  | done pos rest => exact ⟨[], rest, uncovered_eq_self (by simp), rfl, .nil⟩
  | @patch pos kept old new rest out patch patches hspan hchunks hrest ih =>
    obtain ⟨pieces, last, hkept, hout, htexts⟩ := ih
    obtain ⟨hlo, hhi⟩ := hspan
    have hlater := hrest.inside
    have hbefore : uncovered ((patch :: patches).map Patch.span) pos kept = kept := by
      refine uncovered_eq_self fun span hmem => ?_
      obtain ⟨other, hother, rfl⟩ := List.mem_map.1 hmem
      rcases List.mem_cons.1 hother with rfl | hother
      · omega
      · have := hlater other hother
        omega
    have hreplaced : uncovered ((patch :: patches).map Patch.span) (pos + byteLength kept) old = [] :=
      uncovered_eq_nil (List.mem_map_of_mem List.mem_cons_self) (by omega) (by omega)
    have hafter : uncovered ((patch :: patches).map Patch.span) (pos + byteLength kept + byteLength old) rest =
        uncovered (patches.map Patch.span) (pos + byteLength kept + byteLength old) rest := by
      refine uncovered_congr (fun position hposition => ?_) rest
      have hpast : patch.span.holds position = false := by
        rw [Bool.eq_false_iff, Ne, Span.holds_iff]
        omega
      rw [List.map_cons, List.any_cons, hpast, Bool.false_or]
    refine ⟨(kept, new) :: pieces, last, ?_, ?_, .cons hchunks htexts⟩
    · rw [uncovered_append, uncovered_append, byteLength_append, ← Nat.add_assoc, hbefore, hreplaced, hafter, hkept]
      simp
    · rw [hout]
      simp

/-- **Main result.** Where patches are applied, the outcome is what comes of splicing them in one at a time from the end of
the source to its start. It consists of the source outside all spans, each character once and in order, with the texts of
the patches in between. And whatever order the patches come in, the outcome is the same, be it a text or a refusal. -/
theorem applied_by_splicing (source : String) (base : UInt32) (patches : List Patch) :
    (∃ order, FromTheEnd patches order) ∧
    (∀ order code, FromTheEnd patches order → applyPatches source base patches = .ok code →
      spliceAll source.toList base order source.toList = some code.toList ∧
      ∃ (pieces : List (List Char × List Char)) (last : List Char),
        uncovered (patches.map Patch.span) base.toNat source.toList = pieces.flatMap Prod.fst ++ last ∧
        code.toList = pieces.flatMap (fun (kept, new) => kept ++ new) ++ last ∧
        List.Forall₂ (fun patch piece => renderChunks source.toList base patch.chunks = .ok piece.2)
          order.reverse pieces) ∧
    ∀ other, Reordered patches other → applyPatches source base other = applyPatches source base patches := by
  refine ⟨⟨_, fromTheEnd_iff.2 rfl⟩, ?_, ?_⟩
  · intro order code horder hcode
    have hchain := chain_of_applyPatches hcode
    obtain rfl := fromTheEnd_iff.1 horder
    have hspliced : spliceAll source.toList base (sortPatches patches).reverse ([] ++ source.toList) =
        some ([] ++ code.toList) := hchain.spliceAll rfl
    refine ⟨hspliced, ?_⟩
    obtain ⟨pieces, last, hkept, hout, htexts⟩ := hchain.pieces
    have hsame : uncovered (patches.map Patch.span) base.toNat source.toList =
        uncovered ((sortPatches patches).map Patch.span) base.toNat source.toList := by
      refine uncovered_congr (fun position _ => ?_) _
      exact (((List.mergeSort_perm patches _).map Patch.span).any_eq).symm
    rw [hsame, List.reverse_reverse]
    exact ⟨pieces, last, hkept, hout, htexts⟩
  · intro other hother
    rw [applyPatches, applyPatches, sortPatches_reordered hother]

/-- patches for `[é] b` at base position 1: the letter at the end moves into the brackets, and two patches put text in at
one place -/
def samplePatches : List Patch :=
  [.insert 4 [.text ", ", .source ⟨6, 7⟩], .replace ⟨2, 4⟩ "X", .insert 4 [.text "!"], .remove 5 7]

theorem applied_by_splicing_sample :
    FromTheEnd samplePatches [.remove 5 7, .insert 4 [.text "!"], .insert 4 [.text ", ", .source ⟨6, 7⟩],
        .replace ⟨2, 4⟩ "X"] ∧
      applyPatches "[é] b" 1 samplePatches = .ok "[X, b!]" ∧
      spliceAll "[é] b".toList 1 [.remove 5 7, .insert 4 [.text "!"], .insert 4 [.text ", ", .source ⟨6, 7⟩],
        .replace ⟨2, 4⟩ "X"] "[é] b".toList = some "[X, b!]".toList ∧
      applyPatches "[é] b" 1 [.replace ⟨2, 4⟩ "X", .insert 4 [.text ", ", .source ⟨6, 7⟩], .insert 4 [.text "!"],
        .remove 5 7] = .ok "[X, b!]" := by
  have hsorted : sortPatches samplePatches = [.replace ⟨2, 4⟩ "X", .insert 4 [.text ", ", .source ⟨6, 7⟩],
      .insert 4 [.text "!"], .remove 5 7] := by
    simp [sortPatches, samplePatches, List.mergeSort, List.MergeSort.Internal.splitInTwo, Span.le, Span.between,
      Patch.remove, Patch.insert, Patch.replace]
  have horder : FromTheEnd samplePatches [.remove 5 7, .insert 4 [.text "!"], .insert 4 [.text ", ", .source ⟨6, 7⟩],
      .replace ⟨2, 4⟩ "X"] := by
    rw [fromTheEnd_iff, hsorted]
    rfl
  have hcode : applyPatches "[é] b" 1 samplePatches = .ok "[X, b!]" := by
    rw [applyPatches, hsorted]
    rfl
  obtain ⟨-, happly, hsame⟩ := applied_by_splicing "[é] b" 1 samplePatches
  refine ⟨horder, hcode, (happly _ _ horder hcode).1, ?_⟩
  have hswapped := hsame _ (reordered_swap (by decide) [] _)
  exact hswapped.trans hcode

end ResourceInliner
