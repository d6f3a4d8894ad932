/-
Texts as lists of characters, measured in UTF-8 bytes.

- `byteLength`: the number of bytes a text takes.
- `splitAtByte`: the text before and after a byte offset, defined only at character boundaries.
- `slice`: the text between two byte offsets.
- `splitAtByte_append`: the two halves make up the text, and the first is as long as asked for.
-/
namespace ResourceInliner

/-- the number of UTF-8 bytes of a text -/
def byteLength (text : List Char) : Nat :=
  text.foldr (fun c bytes => c.utf8Size + bytes) 0

@[simp] theorem byteLength_nil : byteLength [] = 0 := rfl

@[simp] theorem byteLength_cons (c : Char) (text : List Char) :
    byteLength (c :: text) = c.utf8Size + byteLength text := rfl

@[simp] theorem byteLength_append (a b : List Char) : byteLength (a ++ b) = byteLength a + byteLength b := by
  induction a with
  | nil => rw [List.nil_append, byteLength_nil, Nat.zero_add]
  | cons c a ih => rw [List.cons_append, byteLength_cons, byteLength_cons, ih, Nat.add_assoc]

/-- the text before byte `n` and the text from it on; `none` past the end or inside a character -/
def splitAtByte : List Char → Nat → Option (List Char × List Char)
  | text, 0 => some ([], text)
  | [], _ + 1 => none
  | c :: text, n + 1 =>
    if n + 1 < c.utf8Size then none
    else (splitAtByte text (n + 1 - c.utf8Size)).map fun (front, back) => (c :: front, back)

/-- the text from byte `lo` up to byte `hi`; `none` when the range is reversed, past the end, or cuts a character -/
def slice (text : List Char) (lo hi : Nat) : Option (List Char) :=
  if hi < lo then none
  else do
    let (_, back) ← splitAtByte text lo
    let (middle, _) ← splitAtByte back (hi - lo)
    return middle

/-- the two halves make up the text, and the first has the length asked for -/
theorem splitAtByte_append {text front back : List Char} {n : Nat} (h : splitAtByte text n = some (front, back)) :
    front ++ back = text ∧ byteLength front = n := by
  induction text generalizing n front with
  | nil =>
    cases n with
    | zero => simp_all [splitAtByte]
    | succ n => simp [splitAtByte] at h
  | cons c text ih =>
    cases n with
    | zero => simp_all [splitAtByte]
    | succ n =>
      rw [splitAtByte] at h
      split at h
      · simp at h
      · obtain ⟨⟨f, b⟩, hs, he⟩ := Option.map_eq_some_iff.1 h
        simp only [Prod.mk.injEq] at he
        obtain ⟨rfl, rfl⟩ := he
        obtain ⟨h1, h2⟩ := ih hs
        refine ⟨by simp [h1], ?_⟩
        simp only [byteLength_cons, h2]
        omega

end ResourceInliner
