/-
Texts written with percent signs. Only letters, digits and the four marks `-`, `.`, `_` and `~` stand for themselves; of
all other characters the bytes are written.

- `percentEncode`: a text in unreserved characters. `percentDecode_percentEncode`: its bytes are those of the text.
-/
import ResourceInliner.Proofs.Text.Utf8

namespace ResourceInliner

/-- the characters that stand for themselves -/
def isUnreserved (c : Char) : Bool :=
  c.isAlphanum || c == '-' || c == '.' || c == '_' || c == '~'

/-- a digit of a number to the base 16 -/
def hexDigit (n : Nat) : Char :=
  if n < 10 then Char.ofNat (0x30 + n) else Char.ofNat (0x37 + n)

/-- a byte behind a percent sign -/
def percentByte (b : UInt8) : List Char :=
  ['%', hexDigit (b.toNat / 16), hexDigit (b.toNat % 16)]

/-- a character as it is written -/
def percentChar (c : Char) : List Char :=
  if isUnreserved c then [c] else (String.utf8EncodeChar c).flatMap percentByte

/-- a text in unreserved characters and bytes behind percent signs -/
def percentEncode (text : List Char) : List Char :=
  text.flatMap percentChar

theorem hexDigit_facts : ∀ n < 16, isUnreserved (hexDigit n) = true ∧
    hexValue? (UInt8.ofNat (hexDigit n).toNat) = some (UInt8.ofNat n) := by
  decide

/-- a text in unreserved characters is written with these and percent signs -/
theorem mem_percentEncode {text : List Char} {c : Char} (h : c ∈ percentEncode text) :
    isUnreserved c = true ∨ c = '%' := by
  obtain ⟨d, -, hc⟩ := List.mem_flatMap.1 h
  rw [percentChar] at hc
  split at hc
  · rename_i hd
    rw [List.mem_singleton.1 hc]
    exact .inl hd
  · obtain ⟨b, -, hc⟩ := List.mem_flatMap.1 hc
    have hb := b.toNat_lt
    simp only [percentByte, List.mem_cons, List.not_mem_nil, or_false] at hc
    rcases hc with rfl | rfl | rfl
    · exact .inr rfl
    · exact .inl (hexDigit_facts _ (by omega)).1
    · exact .inl (hexDigit_facts _ (by omega)).1

/-- an unreserved character is one byte, and no percent sign -/
theorem utf8EncodeChar_of_unreserved {c : Char} (h : isUnreserved c = true) :
    ∃ b, String.utf8EncodeChar c = [b] ∧ b = UInt8.ofNat c.toNat ∧ b ≠ 0x25 := by
  have hrange : c.toNat ≤ 0x7F ∧ c.toNat ≠ 0x25 := by
    simp only [isUnreserved, Bool.or_eq_true, beq_iff_eq] at h
    rcases h with (((h | rfl) | rfl) | rfl) | rfl
    · change ((decide (c.val ≥ 65 ∧ c.val ≤ 90) || (decide (c.val ≥ 97) && decide (c.val ≤ 122))) ||
        (decide (c.val ≥ 48) && decide (c.val ≤ 57))) = true at h
      simp only [Bool.or_eq_true, Bool.and_eq_true, decide_eq_true_eq] at h
      change ((65 ≤ c.toNat ∧ c.toNat ≤ 90) ∨ (97 ≤ c.toNat ∧ c.toNat ≤ 122)) ∨ (48 ≤ c.toNat ∧ c.toNat ≤ 57) at h
      omega
    all_goals decide
  refine ⟨_, by rw [String.utf8EncodeChar]; exact if_pos hrange.1, rfl, fun hb => hrange.2 ?_⟩
  have := congrArg UInt8.toNat hb
  rw [UInt8.toNat_ofNat'] at this
  simp only [UInt8.reduceToNat] at this
  omega

theorem percentDecode_cons {b : UInt8} (h : b ≠ 0x25) (rest : List UInt8) :
    percentDecode (b :: rest) = b :: percentDecode rest := by
  match rest with
  | [] => rfl
  | [_] => rfl
  | _ :: _ :: _ => rw [percentDecode, if_neg h]

theorem percentDecode_percentByte (b : UInt8) (rest : List UInt8) :
    percentDecode (utf8Bytes (percentByte b) ++ rest) = b :: percentDecode rest := by
  have hb := b.toNat_lt
  obtain ⟨hhigh, hhigh'⟩ := hexDigit_facts (b.toNat / 16) (by omega)
  obtain ⟨hlow, hlow'⟩ := hexDigit_facts (b.toNat % 16) (by omega)
  obtain ⟨high, hcode, rfl, -⟩ := utf8EncodeChar_of_unreserved hhigh
  obtain ⟨low, hcode', rfl, -⟩ := utf8EncodeChar_of_unreserved hlow
  have hbytes : utf8Bytes (percentByte b) = [0x25, UInt8.ofNat (hexDigit (b.toNat / 16)).toNat,
      UInt8.ofNat (hexDigit (b.toNat % 16)).toNat] := by
    rw [utf8Bytes, percentByte, List.flatMap_cons, List.flatMap_cons, List.flatMap_cons, hcode, hcode']
    rfl
  have hvalue : UInt8.ofNat (b.toNat / 16) * 16 + UInt8.ofNat (b.toNat % 16) = b := by
    rw [← UInt8.toNat_inj, UInt8.toNat_add, UInt8.toNat_mul, UInt8.toNat_ofNat', UInt8.toNat_ofNat']
    simp only [UInt8.reduceToNat]
    omega
  rw [hbytes]
  simp only [List.cons_append, List.nil_append]
  rw [percentDecode, if_pos rfl, hhigh', hlow']
  simp only [hvalue]

theorem percentDecode_percentChar (c : Char) (rest : List UInt8) :
    percentDecode (utf8Bytes (percentChar c) ++ rest) = String.utf8EncodeChar c ++ percentDecode rest := by
  rw [percentChar]
  split
  · rename_i hc
    obtain ⟨b, hcode, -, hb⟩ := utf8EncodeChar_of_unreserved hc
    rw [utf8Bytes, List.flatMap_singleton, hcode]
    exact percentDecode_cons hb rest
  · induction String.utf8EncodeChar c with
    | nil => rfl
    | cons b bytes ih =>
      rw [List.flatMap_cons, utf8Bytes_append, List.append_assoc, percentDecode_percentByte, ih]
      rfl

/-- what is written with percent signs is read as the bytes of the text -/
theorem percentDecode_percentEncode (text : List Char) (rest : List UInt8) :
    percentDecode (utf8Bytes (percentEncode text) ++ rest) = utf8Bytes text ++ percentDecode rest := by
  induction text with
  | nil => rfl
  | cons c text ih =>
    rw [percentEncode, List.flatMap_cons, utf8Bytes_append, List.append_assoc, percentDecode_percentChar,
      ← percentEncode, ih, ← List.append_assoc]
    rfl

end ResourceInliner
