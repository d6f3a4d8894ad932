/-
Texts and their UTF-8 bytes. The bytes of a text are read as that text, and no other bytes are read at all.

- `classify_one` to `classify_four`: what is a whole character, of one to four bytes, and `classify_first` to
  `classify_third`: what is the start of a longer one.
- `decodeUtf8_eq_ok_iff`: bytes are read as a text exactly if they are the bytes of that text.
-/
import Mathlib.Data.List.Basic
import ResourceInliner.Text.Utf8

namespace ResourceInliner

/-! ## What some bytes are -/

section

variable {a b c d : UInt8} {ch : Char}

theorem isTail_iff : isTail b = true ↔ 0x80 ≤ b.toNat ∧ b.toNat ≤ 0xBF := by
  simp [isTail, UInt8.le_iff_toNat_le]

/-- what a byte that goes on with a character adds to it -/
theorem tailBits_eq (h : 0x80 ≤ b.toNat ∧ b.toNat ≤ 0xBF) : tailBits b = b.toNat - 0x80 := by
  rw [tailBits]
  omega

/-- the smallest and the greatest second byte of a character -/
theorem isSecond_iff : isSecond a b = true ↔ (0x80 ≤ b.toNat ∧ b.toNat ≤ 0xBF) ∧ (a.toNat = 0xE0 → 0xA0 ≤ b.toNat) ∧
    (a.toNat = 0xED → b.toNat ≤ 0x9F) ∧ (a.toNat = 0xF0 → 0x90 ≤ b.toNat) ∧ (a.toNat = 0xF4 → b.toNat ≤ 0x8F) := by
  have hnat : ∀ k : UInt8, a = k ↔ a.toNat = k.toNat := fun k => UInt8.toNat_inj.symm
  simp only [isSecond, isTail, hnat, UInt8.reduceToNat]
  split_ifs <;> simp [UInt8.le_iff_toNat_le] <;> omega

/-- a byte below 128 is a character -/
theorem classify_one : classify [a] = .whole ch ↔ a.toNat ≤ 0x7F ∧ ch = Char.ofNat a.toNat := by
  simp only [classify, UInt8.lt_iff_toNat_lt, UInt8.le_iff_toNat_le, UInt8.reduceToNat]
  split_ifs with h1 h2 <;> simp [eq_comm] <;> omega

/-- the bytes that start longer characters -/
theorem classify_first : classify [a] = .start ↔ 0xC2 ≤ a.toNat ∧ a.toNat ≤ 0xF4 := by
  simp only [classify, UInt8.lt_iff_toNat_lt, UInt8.le_iff_toNat_le, UInt8.reduceToNat]
  split_ifs with h1 h2 <;> simp <;> omega

theorem classify_two : classify [a, b] = .whole ch ↔
    isSecond a b = true ∧ a.toNat < 0xE0 ∧ ch = Char.ofNat (a.toNat % 32 * 64 + tailBits b) := by
  simp only [classify, UInt8.lt_iff_toNat_lt, UInt8.reduceToNat]
  cases isSecond a b with
  | false => simp
  | true => by_cases h : a.toNat < 0xE0 <;> simp [h, eq_comm]

theorem classify_second : classify [a, b] = .start ↔ isSecond a b = true ∧ 0xE0 ≤ a.toNat := by
  simp only [classify, UInt8.lt_iff_toNat_lt, UInt8.reduceToNat]
  cases isSecond a b with
  | false => simp
  | true => split_ifs with h <;> simp_all

theorem classify_three : classify [a, b, c] = .whole ch ↔ isTail c = true ∧ a.toNat < 0xF0 ∧
    ch = Char.ofNat ((a.toNat % 16 * 64 + tailBits b) * 64 + tailBits c) := by
  simp only [classify, UInt8.lt_iff_toNat_lt, UInt8.reduceToNat]
  cases isTail c with
  | false => simp
  | true => by_cases h : a.toNat < 0xF0 <;> simp [h, eq_comm]

theorem classify_third : classify [a, b, c] = .start ↔ isTail c = true ∧ 0xF0 ≤ a.toNat := by
  simp only [classify, UInt8.lt_iff_toNat_lt, UInt8.reduceToNat]
  cases isTail c with
  | false => simp
  | true => split_ifs with h <;> simp_all

theorem classify_four : classify [a, b, c, d] = .whole ch ↔ isTail d = true ∧
    ch = Char.ofNat (((a.toNat % 8 * 64 + tailBits b) * 64 + tailBits c) * 64 + tailBits d) := by
  rw [classify]
  cases isTail d <;> simp [eq_comm]

/-- no character is longer than four bytes -/
theorem classify_fourth : classify [a, b, c, d] ≠ .start := by
  rw [classify]
  split <;> simp

end

/-! ## Characters -/

theorem utf8Bytes_append (a b : List Char) : utf8Bytes (a ++ b) = utf8Bytes a ++ utf8Bytes b :=
  List.flatMap_append

section

variable {index : Nat} {taken rest : List UInt8} {b : UInt8}

theorem decodeFrom_whole {c : Char} (h : classify (taken ++ [b]) = .whole c) :
    decodeFrom index taken (b :: rest) = (decodeFrom (index + taken.length + 1) [] rest).map (c :: ·) := by
  rw [decodeFrom, h]

theorem decodeFrom_start (h : classify (taken ++ [b]) = .start) :
    decodeFrom index taken (b :: rest) = decodeFrom index (taken ++ [b]) rest := by
  rw [decodeFrom, h]

end

/-- the bytes of a character are read as that character -/
theorem decodeFrom_utf8EncodeChar (index : Nat) (c : Char) (rest : List UInt8) :
    decodeFrom index [] (String.utf8EncodeChar c ++ rest) =
      (decodeFrom (index + (String.utf8EncodeChar c).length) [] rest).map (c :: ·) := by
  have hc : ∀ n, n = c.val.toNat → c = Char.ofNat n := fun n hn => hn ▸ (Char.ofNat_toNat c).symm
  have hvalid : c.val.toNat < 0xD800 ∨ 0xDFFF < c.val.toNat ∧ c.val.toNat < 0x110000 := c.valid
  have hbyte : ∀ n : Nat, (UInt8.ofNat n).toNat = n % 256 := fun n => UInt8.toNat_ofNat'
  rw [String.utf8EncodeChar]
  generalize c.val.toNat = v at hc hvalid ⊢
  split_ifs with h1 h2 h3
  · have ha := hbyte v
    generalize UInt8.ofNat v = a at ha ⊢
    exact decodeFrom_whole (classify_one.2 ⟨by omega, hc _ (by omega)⟩)
  · have ha := hbyte (v / 64 % 32 + 192)
    have hb := hbyte (v % 64 + 128)
    generalize UInt8.ofNat (v / 64 % 32 + 192) = a, UInt8.ofNat (v % 64 + 128) = b at ha hb ⊢
    have hsecond : isSecond a b = true := isSecond_iff.2 (by omega)
    rw [List.cons_append, decodeFrom_start (classify_first.2 (by omega))]
    exact decodeFrom_whole (classify_two.2 ⟨hsecond, by omega, hc _ (by rw [tailBits]; omega)⟩)
  · have ha := hbyte (v / 4096 % 16 + 224)
    have hb := hbyte (v / 64 % 64 + 128)
    have hd := hbyte (v % 64 + 128)
    generalize UInt8.ofNat (v / 4096 % 16 + 224) = a, UInt8.ofNat (v / 64 % 64 + 128) = b,
      UInt8.ofNat (v % 64 + 128) = d at ha hb hd ⊢
    have hsecond : isSecond a b = true := isSecond_iff.2 (by omega)
    rw [List.cons_append, decodeFrom_start (classify_first.2 (by omega)), List.cons_append,
      decodeFrom_start (classify_second.2 ⟨hsecond, by omega⟩)]
    exact decodeFrom_whole (classify_three.2
      ⟨isTail_iff.2 (by omega), by omega, hc _ (by rw [tailBits, tailBits]; omega)⟩)
  · have ha := hbyte (v / 262144 % 8 + 240)
    have hb := hbyte (v / 4096 % 64 + 128)
    have hd := hbyte (v / 64 % 64 + 128)
    have he := hbyte (v % 64 + 128)
    generalize UInt8.ofNat (v / 262144 % 8 + 240) = a, UInt8.ofNat (v / 4096 % 64 + 128) = b,
      UInt8.ofNat (v / 64 % 64 + 128) = d, UInt8.ofNat (v % 64 + 128) = e at ha hb hd he ⊢
    have hsecond : isSecond a b = true := isSecond_iff.2 (by omega)
    rw [List.cons_append, decodeFrom_start (classify_first.2 (by omega)), List.cons_append,
      decodeFrom_start (classify_second.2 ⟨hsecond, by omega⟩), List.cons_append,
      decodeFrom_start (classify_third.2 ⟨isTail_iff.2 (by omega), by omega⟩)]
    exact decodeFrom_whole (classify_four.2
      ⟨isTail_iff.2 (by omega), hc _ (by rw [tailBits, tailBits, tailBits]; omega)⟩)

/-- the bytes of a text are read as that text -/
theorem decodeUtf8_utf8Bytes (text : List Char) : decodeUtf8 (utf8Bytes text) = .ok text := by
  rw [decodeUtf8]
  generalize 0 = index
  induction text generalizing index with
  | nil => rfl
  | cons c rest ih =>
    rw [utf8Bytes, List.flatMap_cons, decodeFrom_utf8EncodeChar, ← utf8Bytes, ih]
    rfl

/-! ## Bytes that are read -/

/-- every start of the bytes is the start of a character -/
def Started (taken : List UInt8) : Prop :=
  ∀ front, front ≠ [] → front <+: taken → classify front = .start

theorem Started.nil : Started [] := fun _ hne hfront => absurd (List.prefix_nil.1 hfront) hne

theorem Started.snoc {taken : List UInt8} {b : UInt8} (h : Started taken) (hb : classify (taken ++ [b]) = .start) :
    Started (taken ++ [b]) := by
  intro front hne hfront
  rcases List.prefix_concat_iff.1 hfront with rfl | hfront
  · exact hb
  · exact h front hne hfront

/-- a code point that is none of the surrogates is that of its character -/
theorem val_ofNat {n : Nat} (h : n < 0xD800 ∨ 0xDFFF < n ∧ n < 0x110000) : (Char.ofNat n).val.toNat = n := by
  rw [Char.ofNat, dif_pos (show n.isValidChar from h)]
  rfl

/-- bytes that are a whole character, each of whose starts is a start, are those of the character -/
theorem Started.utf8EncodeChar {taken : List UInt8} {b : UInt8} {c : Char} (h : Started taken)
    (hc : classify (taken ++ [b]) = .whole c) : String.utf8EncodeChar c = taken ++ [b] := by
  have hbyte : ∀ (n : Nat) (x : UInt8), n = x.toNat → UInt8.ofNat n = x := fun n x hn => hn ▸ UInt8.ofNat_toNat
  match taken, h with
  | [], _ =>
    obtain ⟨hb, rfl⟩ := classify_one.1 hc
    rw [String.utf8EncodeChar, val_ofNat (by omega)]
    simp only [if_pos hb, hbyte b.toNat b rfl, List.nil_append]
  | [a], h =>
    have hfirst := classify_first.1 (h [a] (by simp) List.prefix_rfl)
    obtain ⟨hsecond, ha, rfl⟩ := classify_two.1 hc
    have hb := isSecond_iff.1 hsecond
    have hv : a.toNat % 32 * 64 + tailBits b = (a.toNat - 192) * 64 + (b.toNat - 128) := by
      rw [tailBits_eq hb.1]
      omega
    rw [hv, String.utf8EncodeChar, val_ofNat (by omega)]
    rw [if_neg (by omega), if_pos (by omega), hbyte _ a (by omega), hbyte _ b (by omega)]
    rfl
  | [a, a'], h =>
    have hfirst := classify_first.1 (h [a] (by simp) (by simp))
    obtain ⟨hsecond, ha⟩ := classify_second.1 (h [a, a'] (by simp) List.prefix_rfl)
    obtain ⟨htail, ha', rfl⟩ := classify_three.1 hc
    have hb := isSecond_iff.1 hsecond
    have hd := isTail_iff.1 htail
    have hv : (a.toNat % 16 * 64 + tailBits a') * 64 + tailBits b =
        ((a.toNat - 224) * 64 + (a'.toNat - 128)) * 64 + (b.toNat - 128) := by
      rw [tailBits_eq hb.1, tailBits_eq hd]
      omega
    rw [hv, String.utf8EncodeChar, val_ofNat (by omega)]
    rw [if_neg (by omega), if_neg (by omega), if_pos (by omega), hbyte _ a (by omega), hbyte _ a' (by omega),
      hbyte _ b (by omega)]
    rfl
  | [a, a', a''], h =>
    have hfirst := classify_first.1 (h [a] (by simp) (by simp))
    obtain ⟨hsecond, -⟩ := classify_second.1 (h [a, a'] (by simp) (by simp))
    obtain ⟨hthird, ha⟩ := classify_third.1 (h [a, a', a''] (by simp) List.prefix_rfl)
    obtain ⟨htail, rfl⟩ := classify_four.1 hc
    have hb := isSecond_iff.1 hsecond
    have hd := isTail_iff.1 hthird
    have he := isTail_iff.1 htail
    have hv : ((a.toNat % 8 * 64 + tailBits a') * 64 + tailBits a'') * 64 + tailBits b =
        (((a.toNat - 240) * 64 + (a'.toNat - 128)) * 64 + (a''.toNat - 128)) * 64 + (b.toNat - 128) := by
      rw [tailBits_eq hb.1, tailBits_eq hd, tailBits_eq he]
      omega
    rw [hv, String.utf8EncodeChar, val_ofNat (by omega)]
    rw [if_neg (by omega), if_neg (by omega), if_neg (by omega), hbyte _ a (by omega), hbyte _ a' (by omega),
      hbyte _ a'' (by omega), hbyte _ b (by omega)]
    rfl
  | a :: a' :: a'' :: d :: more, h => exact absurd (h [a, a', a'', d] (by simp) (by simp)) classify_fourth

theorem Started.eq_utf8Bytes {index : Nat} {taken bytes : List UInt8} {text : List Char} (h : Started taken)
    (hread : decodeFrom index taken bytes = .ok text) : utf8Bytes text = taken ++ bytes := by
  induction bytes generalizing index taken text with
  | nil =>
    cases taken with
    | nil =>
      rw [decodeFrom, Except.ok.injEq] at hread
      rw [← hread]
      rfl
    | cons a taken => simp [decodeFrom] at hread
  | cons b bytes ih =>
    rw [decodeFrom] at hread
    split at hread
    · rename_i c hc
      cases hrest : decodeFrom (index + taken.length + 1) [] bytes with
      | error fault =>
        rw [hrest] at hread
        cases hread
      | ok rest =>
        rw [hrest] at hread
        cases hread
        rw [utf8Bytes, List.flatMap_cons, h.utf8EncodeChar hc, ← utf8Bytes, ih .nil hrest, List.append_assoc]
        rfl
    · rename_i hb
      rw [ih (h.snoc hb) hread, List.append_assoc]
      rfl
    · cases hread

/-- **Main result.** Bytes are read as a text exactly if they are the bytes of that text. -/
theorem decodeUtf8_eq_ok_iff {bytes : List UInt8} {text : List Char} :
    decodeUtf8 bytes = .ok text ↔ utf8Bytes text = bytes := by
  constructor
  · exact fun h => Started.nil.eq_utf8Bytes h
  · rintro rfl
    exact decodeUtf8_utf8Bytes text

end ResourceInliner
