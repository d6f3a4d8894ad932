/-
Slices and spans of a source. A slice is given by the text before and after it: where a source is `a ++ text ++ b`, the
bytes from the end of `a` on read `text`.

- `slice_append`: the slice between two parts.
- `Span.Reads`: what a span reads in a source whose first byte sits at a base position. `Boundary`: a position between
  two characters of it. `Span.readable_of_boundaries`: a span between two of them reads something.
-/
import ResourceInliner.Patch

namespace ResourceInliner

/-! ## Slices -/

theorem byteLength_eq_zero {text : List Char} (h : byteLength text = 0) : text = [] := by
  cases text with
  | nil => rfl
  | cons c rest =>
    have := c.utf8Size_pos
    rw [byteLength_cons] at h
    omega

theorem splitAtByte_append_left (a b : List Char) : splitAtByte (a ++ b) (byteLength a) = some (a, b) := by
  induction a with
  | nil => cases b <;> rfl
  | cons c a ih =>
    obtain ⟨n, hn⟩ : ∃ n, byteLength (c :: a) = n + 1 := by
      have := c.utf8Size_pos
      exact ⟨byteLength (c :: a) - 1, by rw [byteLength_cons]; omega⟩
    have hrest : n + 1 - c.utf8Size = byteLength a := by rw [← hn, byteLength_cons]; omega
    have hfits : ¬ n + 1 < c.utf8Size := by rw [← hn, byteLength_cons]; omega
    rw [hn, List.cons_append, splitAtByte, if_neg hfits, hrest, ih]
    rfl

theorem slice_append (a text b : List Char) :
    slice (a ++ text ++ b) (byteLength a) (byteLength a + byteLength text) = some text := by
  have hmiddle : byteLength a + byteLength text - byteLength a = byteLength text := by omega
  rw [slice, if_neg (by omega), List.append_assoc, splitAtByte_append_left, hmiddle]
  simp only [Option.bind_eq_bind, Option.bind_some, splitAtByte_append_left]
  rfl

theorem slice_to_end (a b : List Char) : slice (a ++ b) (byteLength a) (byteLength (a ++ b)) = some b := by
  have := slice_append a b []
  rwa [List.append_nil, ← byteLength_append] at this

/-- a slice stands between two parts of the text -/
theorem slice_eq_some {text middle : List Char} {lo hi : Nat} (h : slice text lo hi = some middle) :
    ∃ before after, text = before ++ middle ++ after ∧ byteLength before = lo ∧ lo + byteLength middle = hi := by
  rw [slice] at h
  split at h
  · cases h
  · obtain ⟨⟨before, back⟩, hback, h⟩ := Option.bind_eq_some_iff.1 h
    obtain ⟨⟨found, after⟩, hafter, h⟩ := Option.bind_eq_some_iff.1 h
    obtain rfl : found = middle := by simpa using h
    obtain ⟨rfl, hlo⟩ := splitAtByte_append hback
    obtain ⟨rfl, hhi⟩ := splitAtByte_append hafter
    exact ⟨before, after, by rw [List.append_assoc], hlo, by omega⟩

/-- of two ways to cut a text, the one that cuts later leaves a part between the two -/
theorem append_eq_append_of_le {a b c d : List Char} (h : a ++ b = c ++ d) (hle : byteLength a ≤ byteLength c) :
    ∃ text, c = a ++ text ∧ b = text ++ d := by
  rcases List.append_eq_append_iff.1 h with ⟨text, hc, hb⟩ | ⟨text, rfl, rfl⟩
  · exact ⟨text, hc, hb⟩
  · rw [byteLength_append] at hle
    have hlength : byteLength text = 0 := by omega
    obtain rfl := byteLength_eq_zero hlength
    exact ⟨[], by simp, by simp⟩

/-! ## What a span reads -/

/-- the position is between two characters of the source, or at one of its ends -/
def Boundary (source : List Char) (base position : UInt32) : Prop :=
  ∃ before after, source = before ++ after ∧ position.toNat = base.toNat + byteLength before

namespace Span

/-- the span covers this text, which stands at a position -/
def Covers (span : Span) (position : Nat) (text : List Char) : Prop :=
  span.lo.toNat = position ∧ span.hi.toNat = position + byteLength text

instance (span : Span) (position : Nat) (text : List Char) : Decidable (span.Covers position text) :=
  inferInstanceAs (Decidable (_ ∧ _))

/-- the span reads this text in a source whose first byte sits at `base` -/
def Reads (source : List Char) (base : UInt32) (span : Span) (text : List Char) : Prop :=
  ∃ before after, source = before ++ text ++ after ∧ span.Covers (base.toNat + byteLength before) text

/-- the span reads something: it cuts no character and is not outside the source -/
def Readable (source : List Char) (base : UInt32) (span : Span) : Prop :=
  ∃ text, span.Reads source base text

variable {source : List Char} {base : UInt32} {span : Span} {text : List Char}

theorem Reads.byteRange (h : span.Reads source base text) :
    byteRange source base span = .ok (span.lo.toNat - base.toNat, span.hi.toNat - base.toNat) ∧
      slice source (span.lo.toNat - base.toNat) (span.hi.toNat - base.toNat) = some text := by
  obtain ⟨before, after, rfl, hlo, hhi⟩ := h
  have hbase : base ≤ span.lo := by rw [UInt32.le_iff_toNat_le]; omega
  have horder : span.lo ≤ span.hi := by rw [UInt32.le_iff_toNat_le]; omega
  have hinside : ¬ (span.lo < base ∨ span.hi < span.lo) := by
    rintro (h | h) <;> rw [UInt32.lt_iff_toNat_lt] at h <;> omega
  have hlo' : (span.lo - base).toNat = byteLength before := by
    rw [UInt32.toNat_sub_of_le _ _ hbase]
    omega
  have hhi' : (span.hi - base).toNat = byteLength before + byteLength text := by
    rw [UInt32.toNat_sub_of_le _ _ (UInt32.le_trans hbase horder)]
    omega
  have hslice := slice_append before text after
  have hfrom : span.lo.toNat - base.toNat = byteLength before := by omega
  have hto : span.hi.toNat - base.toNat = byteLength before + byteLength text := by omega
  rw [hfrom, hto]
  refine ⟨?_, hslice⟩
  rw [ResourceInliner.byteRange, if_neg hinside, hlo', hhi']
  simp only [hslice]

theorem reads_iff : span.Reads source base text ↔ base ≤ span.lo ∧ span.lo ≤ span.hi ∧
    slice source (span.lo.toNat - base.toNat) (span.hi.toNat - base.toNat) = some text := by
  rw [UInt32.le_iff_toNat_le, UInt32.le_iff_toNat_le]
  constructor
  · intro h
    refine ⟨?_, ?_, h.byteRange.2⟩ <;> obtain ⟨before, after, -, hlo, hhi⟩ := h <;> omega
  · rintro ⟨hbase, hle, hslice⟩
    obtain ⟨before, after, hsource, hbefore, htext⟩ := slice_eq_some hslice
    exact ⟨before, after, hsource, by omega, by omega⟩

theorem readable_iff : span.Readable source base ↔ base ≤ span.lo ∧ span.lo ≤ span.hi ∧
    (slice source (span.lo.toNat - base.toNat) (span.hi.toNat - base.toNat)).isSome := by
  simp only [Readable, reads_iff, Option.isSome_iff_exists, exists_and_left]

instance : Decidable (span.Reads source base text) := decidable_of_iff _ reads_iff.symm

instance : Decidable (span.Readable source base) := decidable_of_iff _ readable_iff.symm

theorem Reads.render (h : span.Reads source base text) : (Chunk.source span).render source base = .ok text := by
  obtain ⟨hrange, hslice⟩ := h.byteRange
  rw [Chunk.render, hrange]
  simp only [bind, Except.bind, pure, Except.pure, hslice, Option.getD_some]

theorem Readable.le (h : span.Readable source base) : span.lo.toNat ≤ span.hi.toNat := by
  obtain ⟨text, before, after, -, hlo, hhi⟩ := h
  omega

theorem Readable.boundaries (h : span.Readable source base) :
    Boundary source base span.lo ∧ Boundary source base span.hi := by
  obtain ⟨text, before, after, rfl, hlo, hhi⟩ := h
  refine ⟨⟨before, text ++ after, by rw [List.append_assoc], hlo⟩, ⟨before ++ text, after, rfl, ?_⟩⟩
  rw [byteLength_append]
  omega

/-- a span between two boundaries reads the text between them -/
theorem readable_of_boundaries (hle : span.lo.toNat ≤ span.hi.toNat) (hlo : Boundary source base span.lo)
    (hhi : Boundary source base span.hi) : span.Readable source base := by
  obtain ⟨before, rest, rfl, hbefore⟩ := hlo
  obtain ⟨front, after, hsource, hfront⟩ := hhi
  obtain ⟨text, rfl, rfl⟩ := append_eq_append_of_le hsource (by omega)
  refine ⟨text, before, after, by rw [List.append_assoc], hbefore, ?_⟩
  rw [byteLength_append] at hfront
  omega

/-! ## How spans lie to each other -/

/-- one span lies inside another -/
def Inside (inner outer : Span) : Prop := outer.lo ≤ inner.lo ∧ inner.hi ≤ outer.hi

/-- one span ends before another starts -/
def Before (a b : Span) : Prop := a.hi ≤ b.lo

/-- the spans do not overlap -/
def Apart (a b : Span) : Prop := a.Before b ∨ b.Before a

instance (inner outer : Span) : Decidable (inner.Inside outer) := inferInstanceAs (Decidable (_ ∧ _))

instance (a b : Span) : Decidable (a.Before b) := inferInstanceAs (Decidable (_ ≤ _))

instance (a b : Span) : Decidable (a.Apart b) := inferInstanceAs (Decidable (_ ∨ _))

theorem inside_iff {inner outer : Span} :
    inner.Inside outer ↔ outer.lo.toNat ≤ inner.lo.toNat ∧ inner.hi.toNat ≤ outer.hi.toNat := by
  rw [Inside, UInt32.le_iff_toNat_le, UInt32.le_iff_toNat_le]

theorem before_iff {a b : Span} : a.Before b ↔ a.hi.toNat ≤ b.lo.toNat := by
  rw [Before, UInt32.le_iff_toNat_le]

theorem Inside.refl (span : Span) : span.Inside span := ⟨UInt32.le_refl _, UInt32.le_refl _⟩

theorem Inside.trans {a b c : Span} (hab : a.Inside b) (hbc : b.Inside c) : a.Inside c :=
  ⟨UInt32.le_trans hbc.1 hab.1, UInt32.le_trans hab.2 hbc.2⟩

theorem Apart.symm {a b : Span} (h : a.Apart b) : b.Apart a := Or.symm h

/-- parts of spans that do not overlap do not overlap -/
theorem Before.mono {a b c d : Span} (h : a.Before b) (hc : c.Inside a) (hd : d.Inside b) : c.Before d :=
  UInt32.le_trans hc.2 (UInt32.le_trans h hd.1)

theorem Apart.mono {a b c d : Span} (h : a.Apart b) (hc : c.Inside a) (hd : d.Inside b) : c.Apart d :=
  h.imp (fun h => h.mono hc hd) fun h => h.mono hd hc

theorem between_of_le {lo hi : UInt32} (h : lo.toNat ≤ hi.toNat) : Span.between lo hi = ⟨lo, hi⟩ := by
  rw [Span.between, if_neg (by rw [UInt32.lt_iff_toNat_lt]; omega)]

theorem apart_iff {a b : Span} : a.Apart b ↔ ¬ (a.lo < b.hi ∧ b.lo < a.hi) := by
  rw [Apart, Before, Before, Classical.not_and_iff_not_or_not, UInt32.not_lt, UInt32.not_lt, or_comm]

end Span

end ResourceInliner
